import ScriptBind.Registry.Binding
import ScriptBind.Registry.Forest

/-!
# The registry

All bindings of one description. A registry is only built from a consistent description: names are
not declared twice, every parent is declared, and no class is among its own ancestors.

* `Registry.ofApi` — builds the registry or says what is wrong.
* `Registry.builtin?`, `Registry.class?` — look an entry up by name.
* `Registry.ancestors` — a class and the classes it derives from, nearest first.
* `Registry.isSubclass`, `Registry.findMethod?` — questions about that chain.
-/

namespace ScriptBind

/-- The bindings of a description: builtin types and enums in declaration order, classes with every
parent before its children. -/
structure Registry where
  builtins : List Registry.Builtin
  classes : List Registry.Class
  enums : List Registry.Enumeration
deriving Inhabited

namespace Registry

/-! ## Lookups -/

/-- The builtin type of a name. -/
def builtin? (r : Registry) (name : String) : Option Builtin :=
  let hash := TypeHash.ofName name
  r.builtins.find? fun b => b.hash == hash

/-- The class of a hash in a list of classes. -/
def classOf? (classes : List Class) (hash : TypeHash) : Option Class :=
  classes.find? fun c => c.hash == hash

/-- The class of a name. -/
def class? (r : Registry) (name : String) : Option Class :=
  classOf? r.classes (TypeHash.ofName name)

/-- The chain of parents from a class upwards, at most `fuel` classes long. -/
def chain (classes : List Class) : Nat → Option Class → List Class
  | 0, _ => []
  | _, none => []
  | fuel + 1, some c => c :: chain classes fuel (c.parent.bind (classOf? classes))

/-- A class and its ancestors, nearest first; nothing for a name that is not a class. No chain has
more classes than the registry. -/
def ancestors (r : Registry) (name : String) : List Class :=
  chain r.classes r.classes.length (r.class? name)

/-- Whether a class is `ancestor` or derives from it. -/
def isSubclass (r : Registry) (cls ancestor : String) : Bool :=
  let hash := TypeHash.ofName ancestor
  (r.ancestors cls).any fun c => c.hash == hash

/-- The nearest class that declares a method, from `cls` upwards, with that method. -/
def findMethod? (r : Registry) (cls method : String) : Option (Class × Method) :=
  (r.ancestors cls).findSome? fun c => (c.method? method).map fun m => (c, m)

/-! ## Construction -/

/-- Adds a builtin type whose name must be new. -/
def addBuiltin (known : List Builtin) (b : Api.BuiltinType) : Except ApiError (List Builtin) := do
  let binding ← Builtin.ofApi b
  if known.any fun k => k.hash == binding.hash then
    throw (.duplicate b.name)
  return known ++ [binding]

/-- Adds a class whose name must be new. -/
def addClass (known : List Class) (c : Api.ClassEntry) : Except ApiError (List Class) := do
  let binding ← Class.ofApi c
  if known.any fun k => k.hash == binding.hash then
    throw (.duplicate c.name)
  return known ++ [binding]

/-- Checks that the parent of a class is declared. -/
def checkParent (classes : List Class) (c : Api.ClassEntry) : Except ApiError Unit :=
  match c.inherits with
  | none => .ok ()
  | some parent =>
    if (classOf? classes (TypeHash.ofName parent)).isSome then .ok ()
    else .error (.unknownParent c.name parent)

/-- The parent relation of declared classes. -/
def hierarchy (classes : List Class) : Forest TypeHash :=
  { nodes := classes.map fun c => c.hash
    parent? := fun h => (classOf? classes h).bind fun c => c.parent }

/-- The classes with every parent before its children. -/
def parentsFirst (classes : List Class) : Except ApiError (List Class) :=
  match (hierarchy classes).order with
  | .ok order => .ok (order.filterMap (classOf? classes))
  | .error hash =>
    .error (.inheritanceCycle (((classOf? classes hash).map fun c => c.name).getD ""))

/-- Builds the registry of a description. -/
def ofApi (d : Api.Document) : Except ApiError Registry := do
  let builtins ← d.builtins.foldlM addBuiltin []
  let declared ← d.classes.foldlM addClass []
  d.classes.forM (checkParent declared)
  let classes ← parentsFirst declared
  return { builtins, classes, enums := d.enums.map Enumeration.ofApi }

end Registry

end ScriptBind
