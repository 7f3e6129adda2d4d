import ScriptBind.ClassDb.Core
import ScriptBind.Host.Math

/-!
# Hosts

The engine as the binding layer sees it: what it answers about builtin values, and its class
database.

* `Engine` — the answers about builtin values, as functions.
* `Host` — an engine with its class database.
* `Request` — one question to a host, with everything the host is told.
* `Host.reference` — the reference engine with the core classes.
-/

namespace ScriptBind

/-- What an engine answers about builtin values. A method call answers and leaves a receiver,
which may be another value than before. -/
structure Engine where
  constant : Tag → String → Except HostError Variant
  construct : Tag → UInt32 → List Variant → Except HostError Variant
  call : Variant → String → List Variant → Except HostError Variant × Variant
  callStatic : Tag → String → List Variant → Except HostError Variant
  member : Variant → String → Except HostError Variant
  stringify : ClassDb → Variant → String

/-- An engine with its classes and objects. -/
structure Host where
  engine : Engine
  classes : ClassDb

/-- One question to a host. -/
inductive Request where
  | constant (type : Tag) (name : String)
  | construct (type : Tag) (index : UInt32) (args : List Variant)
  | call (receiver : Variant) (method : String) (args : List Variant)
  | callStatic (type : Tag) (method : String) (args : List Variant)
  | member (target : Variant) (name : String)
  | stringify (value : Variant)
  | instantiate (cls : String)
  | callObject (id : ObjectId) (cls method : String) (args : List Variant)
  | className (id : ObjectId)
deriving DecidableEq

/-! ## The reference engine -/

/-- The text of a value: an object by its class and number, everything else plainly. -/
def Engine.describe (db : ClassDb) (v : Variant) : String :=
  match v with
  | .object id =>
    match db.classOf id with
    | .ok cls => "<" ++ cls ++ "#" ++ Number.natText id.number.toNat ++ ">"
    | .error _ => "<Freed Object>"
  | v => v.text

/-- The reference engine. -/
def Engine.reference : Engine where
  constant := Math.constant
  construct := Math.construct
  call := Math.call
  callStatic := Math.callStatic
  member := Math.member
  stringify := Engine.describe

/-- The reference engine with the core classes. -/
def Host.reference : Host := ⟨Engine.reference, ClassDb.core⟩

end ScriptBind
