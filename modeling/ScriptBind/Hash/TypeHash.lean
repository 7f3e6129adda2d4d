import ScriptBind.Hash.XXHash
import ScriptBind.Number.Integer

/-!
# Identities of bound names

A `TypeHash` is a 64-bit identity computed from names alone. Types are hashed by their name;
methods, constants and members by their owner's hash and their own name, each in a domain of its
own, so that a method and a constant of one name differ.

* `TypeHash.ofName` — a builtin type or class.
* `TypeHash.method`, `TypeHash.constant`, `TypeHash.member` — a name that belongs to an owner.
-/

namespace ScriptBind

/-- The identity of a type, method, constant or member. -/
structure TypeHash where
  value : UInt64
deriving DecidableEq, Inhabited

namespace TypeHash

/-! ## Domains -/

/-- Marks type hashes. -/
def typeDomain : UInt64 := 0x2fac10b63a6cc57c

/-- Marks method hashes. -/
def methodDomain : UInt64 := 0x7d3c8b4a92e15f6d

/-- Marks constant hashes. -/
def constantDomain : UInt64 := 0x5ea77ffbcdf5f302

/-- Marks member hashes. -/
def memberDomain : UInt64 := 0x3e9f5d2a8c7b1403

/-- The odd factor that spreads the owner before the name is added. -/
def separator : UInt64 := 0x4bc94d6bd06053ad

/-! ## Hashes -/

/-- The identity of a type or class. -/
def ofName (name : String) : TypeHash := ⟨typeDomain ^^^ Hash.digestText name⟩

/-- The identity of a name that belongs to an owner, within a domain. -/
def owned (domain : UInt64) (owner : TypeHash) (name : String) : TypeHash :=
  ⟨(domain ^^^ owner.value) * separator + Hash.digestText name⟩

/-- The identity of an owner's method. -/
def method (owner : TypeHash) (name : String) : TypeHash := owned methodDomain owner name

/-- The identity of an owner's constant or enum value. -/
def constant (owner : TypeHash) (name : String) : TypeHash := owned constantDomain owner name

/-- The identity of an owner's member. -/
def member (owner : TypeHash) (name : String) : TypeHash := owned memberDomain owner name

/-- Whether this is the hash that stands for nothing. -/
def isEmpty (h : TypeHash) : Bool := h.value == 0

/-- Sixteen hexadecimal digits after `0x`. -/
def text (h : TypeHash) : String := "0x" ++ Number.hexText 16 h.value.toNat

/-- The text with the type's name around it. -/
def debugText (h : TypeHash) : String := "TypeHash(" ++ h.text ++ ")"

end TypeHash

end ScriptBind
