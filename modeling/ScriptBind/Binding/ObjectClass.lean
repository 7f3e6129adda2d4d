import ScriptBind.Binding.BuiltinType

/-!
# Classes

The libraries of engine classes and the handlers behind them and their objects.

* `ScriptM.openClasses` — opens a library for every class, parents before children.
* `ScriptM.classNamecall` — calls the method that the object's class or its nearest ancestor
  declares.
* `ScriptM.classConstructor`, `classRefusal` — `new` of classes with and without instances.
-/

namespace ScriptBind.ScriptM

/-- The class name that a class function carries. -/
def classUpvalue : ScriptM String := do
  match ← textUpvalue 1 with
  | some name => return name
  | none => throw (.runtime "class function is missing its class name")

/-- The object that is the first argument. -/
def receivedObject : ScriptM ObjectId := do
  demand 1 NativeType.object.name ((← get).objectAt? 1)

/-! ## Construction -/

/-- Creates an object; upvalue: class name. -/
def classConstructor : ScriptM Nat := do
  let cls ← classUpvalue
  let c ← context
  pushObject (← granted (← askInstantiate c.host cls))
  return 1

/-- Refuses to create an object; upvalue: class name. -/
def classRefusal : ScriptM Nat := do
  let cls ← classUpvalue
  throw (.runtime ("class " ++ cls ++ " is not instantiable"))

/-! ## Objects -/

/-- Calls a method of an object by the name of the method call in progress. -/
def classNamecall : ScriptM Nat := do
  let method ← calledMethod
  let id ← receivedObject
  let c ← context
  let cls ← granted (← askClassName c.host id)
  match (← registry c).findMethod? cls method with
  | none => throw (invalidMethod method cls)
  | some (owner, m) =>
    let args ← collectArgs c 2 m
    pushResult m (← granted (← askCallObject c.host id owner.name m.name args))

/-- Pushes the engine's text of an object. -/
def objectText : ScriptM Nat := do
  let id ← receivedObject
  let c ← context
  push (.string (← askText c.host (.object id)))
  return 1

/-- Pushes whether the two arguments are the same object. -/
def objectEqual : ScriptM Nat := do
  let w ← get
  match w.objectAt? 1, w.objectAt? 2 with
  | some a, some b => push (.boolean (a == b))
  | _, _ => push (.boolean false)
  return 1

/-! ## Opening -/

/-- Enters a declared integer into the table at an index. -/
def installInteger (index : Int) (k : String × Int64) : ScriptM Unit := do
  push (.number (Number.ofInt64 k.2))
  setField index k.1

/-- Opens the library of a class. -/
def openClass (k : Registry.Class) : ScriptM Unit := do
  newLibrary k.name k.name
  installHandler (-3) "__namecall" "class_namecall" .classNamecall []
  installHandler (-3) "__tostring" "object_tostring" .objectText []
  installHandler (-3) "__eq" "object_eq" .objectEqual []
  if k.isInstantiable then
    installHandler (-2) "new" "class_ctor" .classCtor [.string k.name]
  else
    installHandler (-2) "new" "class_no_ctor" .classNoCtor [.string k.name]
  k.constants.forM (installInteger (-2))
  finishLibrary true

/-- Opens the libraries of all classes; the answer is their number. -/
def openClasses : ScriptM Nat := do
  let c ← context
  let classes := (← registry c).classes
  classes.forM openClass
  return classes.length

end ScriptBind.ScriptM
