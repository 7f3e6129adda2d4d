import ScriptBind.Binding.Native

/-!
# Arguments and results

Script values against declared types.

* `ScriptM.checkArg` — the value at an index as an engine value of a declared type.
* `ScriptM.collectArgs` — the arguments of a method call, checked in number and type.
* `ScriptM.pushResult` — the result of a method that declares one.
-/

namespace ScriptBind

namespace World

/-- The value at an index as an engine value of a builtin type other than objects. -/
def builtinArg? (w : World) (index : Int) : Tag → Option Variant
  | .nil => if w.state.isNoneOrNil index then some .nil else none
  | .bool => (w.booleanAt? index).map .bool
  | .int => (w.integerAt? index).map .int
  | .float => (w.state.toNumber? index).map .float
  | .string => (w.state.toText? index).map .string
  | .stringName => (w.state.toText? index).map .stringName
  | type => w.builtinAt? index type

end World

namespace ScriptM

/-- What must be there, or the error for the argument at an index. -/
def demand {α : Type} (index : Int) (expected : String) : Option α → ScriptM α
  | some a => return a
  | none => do throw ((← state).argError index expected)

/-! ## One argument -/

/-- The object at an index, which must be of a class or of one derived from it; nil stands for no
object. -/
def checkObject (c : Context) (index : Int) (cls : String) : ScriptM Variant := do
  if (← state).value? index = some .nil then return .nil
  let id ← demand index cls ((← get).objectAt? index)
  let actual ← granted (← askClassName c.host id)
  if (← registry c).isSubclass actual cls then return .object id
  throw ((← state).argError index cls)

/-- The value at an index as an engine value of a declared type. -/
def checkArg (c : Context) (index : Int) (type : ArgType) : ScriptM Variant := do
  let w ← get
  match type with
  | .any => demand index NativeType.variant.name (w.variantAt? index)
  | .enumeration name => demand index name ((w.integerAt? index).map .int)
  | .object cls => checkObject c index cls
  | .builtin .object => checkObject c index Tag.object.name
  | .builtin type => demand index type.name (w.builtinArg? index type)

/-- Whether the value at an index fits a declared type. -/
def matchesArg (c : Context) (index : Int) (type : ArgType) : ScriptM Bool := do
  match ← outcome (checkArg c index type) with
  | .ok _ => return true
  | .error _ => return false

/-- Whether the values from an index on fit declared types, up to the first that does not. -/
def matchArgs (c : Context) : Int → List ArgType → ScriptM Bool
  | _, [] => return true
  | index, type :: rest => do
    if ← matchesArg c index type then matchArgs c (index + 1) rest else return false

/-- The values from an index on as engine values of declared types. -/
def checkArgs (c : Context) : Int → List ArgType → ScriptM (List Variant)
  | _, [] => return []
  | index, type :: rest => do
    let v ← checkArg c index type
    return v :: (← checkArgs c (index + 1) rest)

/-! ## Method calls -/

/-- The arguments from the index `first` to the top of the frame, as a method takes them. -/
def collectArgs (c : Context) (first : Int) (m : Registry.Method) : ScriptM (List Variant) := do
  let top : Int := (← state).top
  let count := (top - first + 1).toNat
  if !m.acceptsCount count then
    throw (.argumentCount (if count < m.required then m.required else m.arguments.length) count)
  checkArgs c first ((List.range count).map m.argumentType)

/-- Pushes the result of a method, if it declares one; the answer is the number of results. -/
def pushResult (m : Registry.Method) (result : Variant) : ScriptM Nat := do
  if m.result.isNone then return 0
  pushVariant result
  return 1

end ScriptM

end ScriptBind
