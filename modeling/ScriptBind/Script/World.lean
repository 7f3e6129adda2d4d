import ScriptBind.Script.Table
import ScriptBind.Script.Trace
import ScriptBind.Registry.Basic

/-!
# States and worlds

A script state is a value stack cut into frames, together with its globals, named metatables and
application data. The world around it holds what handles refer to, the hosts, the registries and
what is known of their lazy constants, and the record of what happened.

* `State` — one script state.
* `World` — the current state and everything it can reach.
* `ScriptM` — an operation on the world. What it did stays done when it fails.
* `World.shown` — a value as it looks at this moment.
-/

namespace ScriptBind

/-! ## States -/

/-- The activation of a function: the slot of its first argument, and its upvalues. -/
structure Frame where
  base : Nat
  upvalues : List Value
deriving DecidableEq

/-- The host and registry that handlers of a state work with. -/
structure Context where
  host : Nat
  registry : Nat
deriving DecidableEq

/-- A script state. The stack lists the lowest slot first, the frames the innermost first. -/
structure State where
  stack : List Value
  frames : List Frame
  globals : TableId
  /-- The metatables registered by name. -/
  metatables : List (String × TableId)
  /-- The method name of the method call in progress. -/
  namecall : Option String
  numberData : Option Int64
  textData : Option String
  context : Option Context
deriving DecidableEq

/-- A state with an empty stack. -/
def State.new (globals : TableId) : State := ⟨[], [], globals, [], none, none, none, none⟩

/-- A one-line summary. -/
def State.debugText (s : State) : String :=
  "LuaState \x7b stack_len: " ++ Number.natText s.stack.length ++ ", depth: " ++
    Number.natText s.frames.length ++ ", metatables: " ++ Number.natText s.metatables.length ++
    " \x7d"

/-! ## Functions, userdata and constants -/

/-- A function. -/
structure Function where
  name : String
  code : Code
  upvalues : List Value

/-- A one-line summary. -/
def Function.debugText (f : Function) : String :=
  "NativeFn \x7b name: " ++ Text.quoted f.name ++ ", upvalues: " ++
    Number.natText f.upvalues.length ++ ", .. \x7d"

/-- A payload owned by the scripts, with an optional metatable. -/
structure Userdata where
  payload : Payload
  metatable : Option TableId
deriving DecidableEq, Inhabited

/-- A lazy constant: one that a registry declares for a builtin type, or a loose one. -/
inductive ConstantRef where
  | declared (registry : Nat) (type key : TypeHash)
  | loose (index : Nat)
deriving DecidableEq

/-! ## Worlds -/

/-- The current state and everything around it. -/
structure World where
  state : State
  tables : Array Table
  functions : Array Function
  userdata : Array Userdata
  hosts : Array Host
  registries : Array Registry
  /-- The type and name of each loose constant. -/
  constants : Array (Tag × String)
  /-- The outcomes of the constants fetched so far. -/
  fetched : List (ConstantRef × Except HostError Variant)
  /-- Every request so far, with the host that received it. -/
  requests : Array (Nat × Request)
  /-- How many of the requests the trace has shown or dropped. -/
  reported : Nat
  /-- Whether instructions are logged. -/
  muted : Bool
  trace : Array Entry

/-- An operation on the world. An error does not undo what was done before it. -/
abbrev ScriptM := ExceptT ScriptError (StateM World)

namespace World

/-! ## Reading -/

def table (w : World) (t : TableId) : Table := w.tables.getD t.index Table.empty

def functionName (w : World) (f : FunctionId) : String :=
  (w.functions[f.index]?.map fun g => g.name).getD ""

def userdatum (w : World) (u : UserdataId) : Userdata :=
  w.userdata.getD u.index ⟨.raw 0, none⟩

/-- The metatable attached to a value. -/
def metatable (w : World) : Value → Option TableId
  | .table t => (w.table t).metatable
  | .userdata u => (w.userdatum u).metatable
  | _ => none

/-- The raw field of a value's metatable, when there is one other than nil. -/
def metafield (w : World) (v : Value) (event : String) : Option Value :=
  match w.metatable v with
  | none => none
  | some mt =>
    match (w.table mt).field event with
    | .nil => none
    | field => some field

/-- The text of a value without handlers. -/
def plainText (w : World) (v : Value) : String := v.text w.functionName

/-! ## Showing -/

/-- The field of a metatable or library metatable that names a type. -/
def typeField : String := "__type"

/-- How a metatable is shown. -/
def showTag (w : World) : Option TableId → ShownTag
  | none => .untagged
  | some mt =>
    match (w.table mt).field typeField with
    | .string type => .named type
    | _ => .unnamed

/-- A value as it looks at this moment. -/
def shown (w : World) : Value → Shown
  | .nil => .nil
  | .boolean b => .boolean b
  | .number x => .number x
  | .string s => .string s
  | .table t => .table t
  | .function f => .function (w.functionName f)
  | .userdata u => .userdata u (w.userdatum u).payload (w.showTag (w.userdatum u).metatable)

end World

/-! ## Access -/

namespace ScriptM

/-- The current state. -/
def state : ScriptM State := do return (← get).state

def modifyState (f : State → State) : ScriptM Unit :=
  modify fun w => { w with state := f w.state }

/-- Runs an operation on the state that may fail, in which case the state stays. -/
def onState (f : State → Except ScriptError State) : ScriptM Unit := do
  match f (← state) with
  | .ok s => modifyState fun _ => s
  | .error e => throw e

/-- A new table without entries. -/
def allocTable : ScriptM TableId := do
  let w ← get
  set { w with tables := w.tables.push Table.empty }
  return ⟨w.tables.size⟩

def allocFunction (f : Function) : ScriptM FunctionId := do
  let w ← get
  set { w with functions := w.functions.push f }
  return ⟨w.functions.size⟩

/-- A new userdata without metatable. -/
def allocUserdata (p : Payload) : ScriptM UserdataId := do
  let w ← get
  set { w with userdata := w.userdata.push ⟨p, none⟩ }
  return ⟨w.userdata.size⟩

def modifyTable (t : TableId) (f : Table → Table) : ScriptM Unit :=
  modify fun w => { w with tables := w.tables.modify t.index f }

def modifyUserdata (u : UserdataId) (f : Userdata → Userdata) : ScriptM Unit :=
  modify fun w => { w with userdata := w.userdata.modify u.index f }

/-- A change of a table that the table may refuse. -/
def changeTable (t : TableId) (f : Table → Except ScriptError Table) : ScriptM Unit := do
  match f ((← get).table t) with
  | .ok new => modifyTable t fun _ => new
  | .error e => throw e

/-- Enters a value into a table. -/
def setKey (t : TableId) (k : Key) (v : Value) : ScriptM Unit := changeTable t fun old => old.set k v

/-- Enters a value into a table under a string key. -/
def setText (t : TableId) (name : String) (v : Value) : ScriptM Unit := setKey t (.string name) v

def setReadonly (t : TableId) (readonly : Bool) : ScriptM Unit :=
  modifyTable t fun old => { old with readonly }

/-- Turns a failure into a value. -/
def outcome {α : Type} (act : ScriptM α) : ScriptM (Except ScriptError α) := fun w =>
  match act w with
  | (r, w') => (.ok r, w')

end ScriptM

end ScriptBind
