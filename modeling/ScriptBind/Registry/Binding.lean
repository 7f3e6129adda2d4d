import ScriptBind.Api.Document
import ScriptBind.Api.ArgType
import ScriptBind.Hash.TypeHash
import ScriptBind.Registry.Keyed

/-!
# Bindings

What a description declares for one builtin type, class or enum, with every type spelling resolved
and every name replaced by its hash.

* `Method` — a callable method: its declared argument types, how many must be given, its result.
* `Builtin`, `Class`, `Enumeration` — the bindings of the three kinds of entries.
* `Builtin.ofApi`, `Class.ofApi` — resolve an entry. A type without value model is refused, and so
  is a constant or method declared twice; of two enum values or members of one name the last
  counts.
-/

namespace ScriptBind.Registry

/-! ## Signatures -/

/-- Resolves a declared type of `item`. -/
def resolve (item : String) (spelling : String) : Except ApiError ArgType :=
  let type := ArgType.parse spelling
  match type.tag? with
  | none => .ok type
  | some tag => if tag.hasValueModel then .ok type else .error (.unsupportedType item tag)

/-- The name of something that belongs to an owner. -/
def qualified (owner name : String) : String := owner ++ "." ++ name

/-- A callable method of a builtin type or class. -/
structure Method where
  name : String
  hash : TypeHash
  flags : Api.MethodFlags
  arguments : List ArgType
  /-- How many arguments stand before the first one that may be left out. -/
  required : Nat
  result : Option ArgType
deriving DecidableEq, Inhabited

namespace Method

/-- Resolves a method of the type or class `owner`. -/
def ofApi (owner name : String) (flags : Api.MethodFlags) (arguments : List Api.Argument)
    (result : Option String) : Except ApiError Method := do
  let item := qualified owner name
  let types ← arguments.mapM fun a => resolve item a.type
  let result ← result.mapM (resolve item)
  return { name, flags, result
           hash := (TypeHash.ofName owner).method name
           arguments := types
           required := (arguments.takeWhile fun a => a.default.isNone).length }

/-- Whether a call with `count` arguments is acceptable. -/
def acceptsCount (m : Method) (count : Nat) : Bool :=
  m.required ≤ count && (m.flags.isVararg || count ≤ m.arguments.length)

/-- The declared type of the argument at a position; what comes after the declared ones may be
anything. -/
def argumentType (m : Method) (i : Nat) : ArgType := m.arguments.getD i .any

end Method

/-- The methods of an owner by hash. -/
abbrev Methods := List (TypeHash × Method)

/-- Adds a method whose name must be new. -/
def Methods.add (owner : String) (known : Methods) (m : Method) : Except ApiError Methods :=
  if (Keyed.get? m.hash known).isSome then .error (.duplicate (qualified owner m.name))
  else .ok (known ++ [(m.hash, m)])

/-! ## Builtin types -/

/-- A constructor of a builtin type. -/
structure Constructor where
  index : UInt32
  arguments : List ArgType
deriving DecidableEq, Inhabited

/-- The binding of a builtin type. Constants are known by name; their values are fetched from the
engine. -/
structure Builtin where
  name : String
  hash : TypeHash
  tag : Tag
  constants : List (TypeHash × String)
  enumValues : List (TypeHash × Int64)
  constructors : List Constructor
  methods : Methods
  members : List (TypeHash × ArgType)
deriving Inhabited

namespace Builtin

/-- Adds a constant whose name must be new. -/
def addConstant (owner : String) (known : List (TypeHash × String)) (c : Api.Constant) :
    Except ApiError (List (TypeHash × String)) :=
  let hash := (TypeHash.ofName owner).constant c.name
  if (Keyed.get? hash known).isSome then .error (.duplicate (qualified owner c.name))
  else .ok (known ++ [(hash, c.name)])

/-- Resolves a builtin type. -/
def ofApi (b : Api.BuiltinType) : Except ApiError Builtin := do
  let tag ← b.tag
  if !tag.hasValueModel then
    throw (.unsupportedType b.name tag)
  let hash := TypeHash.ofName b.name
  let constants ← b.constants.foldlM (addConstant b.name) []
  let enumValues := (b.enums.flatMap fun e => e.values).foldl
    (fun known v => Keyed.put (hash.constant v.name) v.value known) []
  let methods ← b.methods.foldlM
    (fun known m => do
      Methods.add b.name known (← Method.ofApi b.name m.name m.flags m.arguments m.returnType)) []
  let members ← b.members.mapM fun m => do
    return (hash.member m.name, ← resolve (qualified b.name m.name) m.type)
  let constructors ← b.constructors.mapM fun c => do
    let item := b.name ++ ".new#" ++ Number.natText c.index.toNat
    return { index := c.index, arguments := ← c.arguments.mapM fun a => resolve item a.type }
  return { name := b.name, hash, tag, constants, enumValues, constructors, methods
           members := members.foldl (fun known m => Keyed.put m.1 m.2 known) [] }

/-- The declared spelling of a constant. -/
def constant? (b : Builtin) (name : String) : Option String :=
  Keyed.get? (b.hash.constant name) b.constants

def enumValue? (b : Builtin) (name : String) : Option Int64 :=
  Keyed.get? (b.hash.constant name) b.enumValues

def method? (b : Builtin) (name : String) : Option Method :=
  Keyed.get? (b.hash.method name) b.methods

/-- The declared type of a member. -/
def member? (b : Builtin) (name : String) : Option ArgType :=
  Keyed.get? (b.hash.member name) b.members

end Builtin

/-! ## Classes -/

/-- The binding of a class. -/
structure Class where
  name : String
  hash : TypeHash
  parent : Option TypeHash
  isInstantiable : Bool
  isRefcounted : Bool
  /-- Constants, then enum values, in declaration order. -/
  constants : List (String × Int64)
  methods : Methods
deriving Inhabited

namespace Class

/-- Resolves a class. -/
def ofApi (c : Api.ClassEntry) : Except ApiError Class := do
  let methods ← c.methods.foldlM
    (fun known m => do
      Methods.add c.name known
        (← Method.ofApi c.name m.name m.flags m.arguments (m.returnValue.map fun r => r.type))) []
  return { name := c.name
           hash := TypeHash.ofName c.name
           parent := c.inherits.map TypeHash.ofName
           isInstantiable := c.isInstantiable
           isRefcounted := c.isRefcounted
           constants := (c.constants.map fun k => (k.name, k.value)) ++
             c.enums.flatMap fun e => e.values.map fun v => (v.name, v.value)
           methods }

/-- A method that the class itself declares. -/
def method? (c : Class) (name : String) : Option Method :=
  Keyed.get? (c.hash.method name) c.methods

end Class

/-! ## Enums -/

/-- A global enum. -/
structure Enumeration where
  name : String
  isBitfield : Bool
  values : List (String × Int64)
deriving DecidableEq, Inhabited

def Enumeration.ofApi (e : Api.EnumEntry) : Enumeration :=
  ⟨e.name, e.isBitfield, e.values.map fun v => (v.name, v.value)⟩

end ScriptBind.Registry
