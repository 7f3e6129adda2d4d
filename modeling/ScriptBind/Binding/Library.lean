import ScriptBind.Binding.Argument

/-!
# Libraries

The global tables through which scripts reach a type's constructor, constants and static methods.

* `ScriptM.newLibrary` — leaves the instance metatable and the library table on the stack, the
  library on top.
* `ScriptM.finishLibrary` — locks both and takes them from the stack.
* `World.libraryType` — the name of the type that a library belongs to.
-/

namespace ScriptBind

/-- What scripts see in place of a locked metatable. -/
def lockedMetatable : String := "The metatable is locked"

/-- The type that the library at an index belongs to. -/
def World.libraryType (w : World) (index : Int) : Option String := do
  let mt ← (w.table (← w.state.toTable? index)).metatable
  match (w.table mt).field typeField with
  | .string name => some name
  | _ => none

namespace ScriptM

/-- Makes the global library `name` for the instance metatable `metatable`. -/
def newLibrary (name metatable : String) : ScriptM Unit := do
  discard (newMetatable metatable)
  if (← get).isReadonly (-1) then
    pop 1
    throw (.runtime ("library '" ++ name ++ "' is already open"))
  push (.string metatable)
  setField (-2) World.typeField
  discard pushNewTable
  discard pushNewTable
  push (.string name)
  setField (-2) World.typeField
  pushHandler "builtin_global_index" .builtinGlobalIndex []
  setField (-2) "__index"
  setMetatable (-2)
  onState fun s => s.pushValue (-1)
  setGlobal name

/-- Locks the library on top of the stack and the instance metatable below it, which is marked as
an object metatable on request, and pops both. -/
def finishLibrary (isObject : Bool) : ScriptM Unit := do
  let lib ← check fun s => s.checkTable (-1)
  let mt ← check fun s => s.checkTable (-2)
  if isObject then
    setText mt objectMark (.boolean true)
  setText mt "__metatable" (.string lockedMetatable)
  match ((← get).table lib).metatable with
  | some libMt =>
    setText libMt "__metatable" (.string lockedMetatable)
    setReadonly libMt true
  | none => pure ()
  setReadonly mt true
  setReadonly lib true
  pop 2

/-- Pushes a handler into a field of the table at an index. -/
def installHandler (index : Int) (field name : String) (h : Handler) (upvalues : List Value) :
    ScriptM Unit := do
  pushHandler name h upvalues
  setField index field

end ScriptM

end ScriptBind
