import ScriptBind.Script.Stack

/-!
# Tables, metatables and userdata of a state

* `ScriptM.setField`, `setGlobal`, `setMetatable` — take their value from the stack first, so it is
  gone when the table refuses it.
* `ScriptM.newMetatable`, `World.metatableNamed` — the metatables registered by name.
* `World.testUserdata?` — a userdata that carries a registered metatable.
-/

namespace ScriptBind

namespace World

/-- The metatable registered under a name. -/
def metatableNamed (w : World) (name : String) : Option TableId :=
  Keyed.get? name w.state.metatables

/-- Whether the value at an index is a read-only table. -/
def isReadonly (w : World) (index : Int) : Bool :=
  match w.state.toTable? index with
  | some t => (w.table t).readonly
  | none => false

/-- The userdata at an index whose metatable is the one registered under a name. -/
def testUserdata? (w : World) (index : Int) (name : String) : Option UserdataId :=
  match w.state.toUserdata? index, w.metatableNamed name with
  | some u, some mt => if (w.userdatum u).metatable = some mt then some u else none
  | _, _ => none

/-- The raw value under a key of a table. -/
def rawGet (w : World) (t : TableId) (k : Key) : Value := (w.table t).get k

end World

namespace ScriptM

/-- Pops a value into a field of the table at an index. -/
def setField (index : Int) (key : String) : ScriptM Unit := do
  let t ← check fun s => s.checkTable index
  let v ← popValue
  setText t key v

/-- Pops a value into a global. -/
def setGlobal (name : String) : ScriptM Unit := do
  let v ← popValue
  setText (← state).globals name v

/-- Attaches a metatable to a table or userdata, or takes it away. -/
def attach (target : Value) (metatable : Option TableId) : ScriptM Unit :=
  match target with
  | .table t => changeTable t fun old => old.setMetatable metatable
  | .userdata u => modifyUserdata u fun old => { old with metatable }
  | other => throw (.runtime ("cannot set the metatable of a " ++ other.kind ++ " value"))

/-- Pops a table or nil and makes it the metatable of the value at an index. -/
def setMetatable (index : Int) : ScriptM Unit := do
  let target ← query fun s => s.valueOrNil index
  match ← popValue with
  | .nil => attach target none
  | .table mt => attach target (some mt)
  | other => throw (.runtime ("metatable must be a table, got " ++ other.kind))

/-- Pushes the metatable of a name, making it first when there is none; the answer tells whether it
is new. -/
def newMetatable (name : String) : ScriptM Bool := do
  match (← get).metatableNamed name with
  | some mt =>
    push (.table mt)
    return false
  | none =>
    let mt ← allocTable
    modifyState fun s => { s with metatables := Keyed.put name mt s.metatables }
    push (.table mt)
    return true

/-- Pushes the metatable of a name, or nil; the answer tells whether there is one. -/
def getMetatable (name : String) : ScriptM Bool := do
  match (← get).metatableNamed name with
  | some mt =>
    push (.table mt)
    return true
  | none =>
    push .nil
    return false

/-- The userdata at an index that carries the metatable of a name. -/
def checkUserdata (index : Int) (name : String) : ScriptM UserdataId := do
  let w ← get
  match w.testUserdata? index name with
  | some u => return u
  | none => throw (w.state.argError index name)

end ScriptM

end ScriptBind
