import ScriptBind.Api.Bundled
import ScriptBind.Api.Format
import ScriptBind.Script.Call
import ScriptBind.Binding.Dispatch
import ScriptBind.Session.Log

/-!
# Instructions

What each instruction does and answers.

* `ScriptM.perform` — an instruction that holds no others.
* `ScriptM.exec` — any instruction; `ScriptM.execAll` — instructions up to the first that fails.
-/

namespace ScriptBind

/-! ## Sources -/

/-- A registry that is known already, by its number, or a new one. -/
def ApiSource.load : ApiSource → Except ApiError (Nat ⊕ Registry)
  | existing i => .ok (.inl i)
  | bundled => do return .inr (← Registry.ofApi Api.Document.bundled)
  | document text => do return .inr (← Registry.ofApi (← Api.Document.parse text))

namespace World

/-- The number of a registry, and the world in which it is known. -/
def adoptRegistry (w : World) : Nat ⊕ Registry → Nat × World
  | .inl i => (i, w)
  | .inr r => (w.registries.size, { w with registries := w.registries.push r })

/-- The number of a host, and the world in which it is known. -/
def adoptHost (w : World) : HostSource → Nat × World
  | .existing i => (i, w)
  | .fresh plan => (w.hosts.size, { w with hosts := w.hosts.push plan.host })

/-- The value of an operand. -/
def operand (w : World) : Operand → Value
  | .nil => .nil
  | .boolean b => .boolean b
  | .number x => .number x
  | .string s => .string s
  | .at index => w.state.valueOrNil index
  | .metatable name =>
    match w.metatableNamed name with
    | some mt => .table mt
    | none => .nil

end World

namespace ScriptM

/-- Gives the current state a registry and a host to work with; the answer is the registry's
number. -/
def install (api : Nat ⊕ Registry) (host : HostSource) : ScriptM Nat := do
  let (r, w) := (← get).adoptRegistry api
  let (h, w) := w.adoptHost host
  set w
  modifyState fun s => { s with context := some ⟨h, r⟩ }
  return r

def operand (o : Operand) : ScriptM Value := do return (← get).operand o

def operands (os : List Operand) : ScriptM (List Value) := do
  let w ← get
  return os.map w.operand

/-- A value as a reply. -/
def replied (v : Value) : ScriptM Reply := do return (← get).reply v

/-- The key that an operand makes. -/
def keyOf (o : Operand) : ScriptM Key := do
  match Key.ofValue (← operand o) with
  | .ok k => return k
  | .error e => throw e

/-- The method that an owner, or a class above it, declares. -/
def methodOf (c : Context) (owner : MethodOwner) (method : String) : ScriptM Registry.Method := do
  let r ← registry c
  match owner with
  | .builtin type =>
    match (r.builtin? type).bind fun b => b.method? method with
    | some m => return m
    | none => throw (invalidMethod method type)
  | .object cls =>
    match r.findMethod? cls method with
    | some (_, m) => return m
    | none => throw (invalidMethod method cls)

/-- Adds one to a raw payload; the answer tells whether it is one, and whether it is now a raw
payload or an engine value. -/
def bumpRaw (index : Int) : ScriptM Reply := do
  match (← state).toUserdata? index with
  | none => return .nothing
  | some u =>
    match ((← get).userdatum u).payload with
    | .raw n =>
      modifyUserdata u fun old => { old with payload := .raw (n + 1) }
      return .list [.flag true, .flag true, .flag false]
    | .variant _ => return .list [.flag false, .flag false, .flag true]
    | .object _ => return .list [.flag false, .flag false, .flag false]

/-- Runs an operation that answers nothing. -/
def quietly (act : ScriptM Unit) : ScriptM Reply := do
  act
  return .nothing

/-! ## Instructions -/

/-- What an instruction that holds no others does and answers. -/
def perform (run : Runner) : Instr → ScriptM Reply
  -- the stack
  | .push value => quietly do push (← operand value)
  | .pushValue index => quietly (onState fun s => s.pushValue index)
  | .pop count => quietly (pop count)
  | .popValue => do replied (← popValue)
  | .remove index => quietly (onState fun s => s.remove index)
  | .insert index => quietly (onState fun s => s.insert index)
  | .setTop index => quietly (onState fun s => s.setTop index)
  | .getTop => do return .count (← state).top
  | .absolute index => do return .count (← check fun s => s.absolute index)
  | .value index => do
    let w ← get
    return w.replyOption (w.state.value? index)
  | .kind index => do return (← get).kindReply index
  -- reading values
  | .toBoolean index => do return .flag ((← state).toBoolean index)
  | .toNumber index => do return .orNothing (((← state).toNumber? index).map .float64)
  | .toText index => do return .orNothing (((← state).toText? index).map .text)
  | .toTable index => do
    let w ← get
    return w.replyTable (w.state.toTable? index)
  | .toUserdata index => do
    let w ← get
    return w.replyOption ((w.state.toUserdata? index).map .userdata)
  | .checkNumber index => do return .float64 (← check fun s => s.checkNumber index)
  | .checkInteger index => do return .integer (← check fun s => s.checkInteger index).toInt
  | .checkText index => do return .text (← check fun s => s.checkText index)
  | .checkTable index => do
    let t ← check fun s => s.checkTable index
    return (← get).replyTable (some t)
  -- tables
  | .newTable => quietly (discard pushNewTable)
  | .getField index key => quietly (getField run index key)
  | .setField index key => quietly (setField index key)
  | .getGlobal name => quietly (getGlobal run name)
  | .setGlobal name => quietly (setGlobal name)
  | .pushGlobals => quietly do push (.table (← state).globals)
  | .setMetatable index => quietly (setMetatable index)
  | .pushMetatable index => quietly do
    let w ← get
    match w.metatable (w.state.valueOrNil index) with
    | some mt => push (.table mt)
    | none => push .nil
  | .newMetatable name => do return .flag (← newMetatable name)
  | .getMetatable name => do return .flag (← getMetatable name)
  | .metatableNamed name => do
    let w ← get
    return w.replyTable (w.metatableNamed name)
  | .metafield index event => do
    let w ← get
    return w.replyOption (w.metafield (w.state.valueOrNil index) event)
  | .setReadonly index readonly => quietly do
    setReadonly (← check fun s => s.checkTable index) readonly
  | .index target key => do
    let key ← operand key
    let target ← query fun s => s.valueOrNil target
    replied (← indexValue run target key)
  | .tableGet index key => do
    let key ← keyOf key
    let t ← check fun s => s.checkTable index
    let w ← get
    return w.replyOption (some (w.rawGet t key))
  | .tableSet index key value => quietly do
    let key ← keyOf key
    let value ← operand value
    setKey (← check fun s => s.checkTable index) key value
  | .tableSetMetatable index metatable => quietly do
    let metatable ← operand metatable
    let t ← check fun s => s.checkTable index
    attach (.table t) metatable.asTable
  | .tableInfo index => do
    let t ← check fun s => s.checkTable index
    return (← get).tableReply t
  -- userdata
  | .newUserdata payload => quietly (discard (pushUserdata payload))
  | .testUserdata index name => do
    let w ← get
    return w.replyOption ((w.testUserdata? index name).map .userdata)
  | .checkUserdata index name => do
    let u ← checkUserdata index name
    return (← get).replyOption (some (.userdata u))
  | .bumpRaw index => bumpRaw index
  -- functions and calls
  | .pushFunction name body results quiet upvalues => quietly do
    pushFunction ⟨name, .body body results quiet, ← operands upvalues⟩
  | .pushConstantFunction name constant upvalues => quietly do
    pushFunction ⟨name, .constant constant, ← operands upvalues⟩
  | .pushHandler name handler upvalues => quietly do
    pushHandler name handler (← operands upvalues)
  | .functionDebug index => do return (← get).functionReply index
  | .call args results => quietly (call run args results)
  | .callMethod method args results => quietly (callMethod run method args results)
  | .namecallName => do return .orNothing ((← state).namecall.map .text)
  | .upvalue n => do
    let w ← get
    return w.replyOption (w.state.upvalue? n)
  | .pushUpvalue n => quietly do push (((← state).upvalue? n).getD .nil)
  | .raise message => throw (.runtime message)
  | .argError index expected => do throw ((← state).argError index expected)
  | .display index => do return .text (← display run index)
  | .equal index other => do return .flag (← equal run index other)
  | .rawEqual index other => do
    let s ← state
    return .flag ((s.valueOrNil index).rawEqual (s.valueOrNil other))
  | .stateDebug => do return .text (← state).debugText
  -- application data
  | .setNumberData value => quietly (modifyState fun s => { s with numberData := some value })
  | .setTextData value => quietly (modifyState fun s => { s with textData := some value })
  | .getData => do return (← get).dataReply
  | .removeNumberData => do
    let old := (← state).numberData
    modifyState fun s => { s with numberData := none }
    return .orNothing (old.map fun n => .count n.toInt)
  | .removeTextData => do
    let old := (← state).textData
    modifyState fun s => { s with textData := none }
    return .orNothing (old.map .text)
  | .removeContext => do
    let old := (← state).context
    modifyState fun s => { s with context := none }
    return .flag old.isSome
  -- bindings
  | .install api host =>
    match api.load with
    | .ok api => do return .count (← install api host)
    | .error e => throw (.runtime e.message)
  | .openBuiltins => do return .count (← openBuiltins)
  | .openClasses => do return .count (← openClasses)
  | .openEnums => do return .count (← openEnums)
  | .newLibrary name metatable => quietly (newLibrary name metatable)
  | .finishLibrary isObject => quietly (finishLibrary isObject)
  | .libraryType index => do return .orNothing (((← get).libraryType index).map .text)
  | .pushBuiltin value => quietly (pushBuiltin value)
  | .pushObject id => quietly (pushObject id)
  | .getBuiltin index type => do
    return .orNothing (((← get).builtinAt? index type).map .variant)
  | .getAnyBuiltin index => do
    return .orNothing (((← get).anyBuiltinAt? index).map .variant)
  | .checkArg index spelling => do
    let c ← context
    return .variant (← checkArg c index (ArgType.parse spelling))
  | .matchesArg index spelling => do
    let c ← context
    return .flag (← matchesArg c index (ArgType.parse spelling))
  | .collectArgs first owner method => do
    let c ← context
    let m ← methodOf c owner method
    return .list ((← collectArgs c first m).map .variant)
  | .pushResult owner method value => do
    let c ← context
    let m ← methodOf c owner method
    return .count (← pushResult m value)
  -- native types
  | .pushNative value => quietly (pushNative value)
  | .getNative type index => do
    return .option (((← get).nativeAt? index type).map NativeValue.reply)
  | .checkNative type index => do return .list [(← checkNative type index).reply]
  | .isNative type index => do return .flag ((← get).nativeAt? index type).isSome
  | .nativeOfVariant type value => return .option ((type.ofVariant? value).map NativeValue.reply)
  | .pushConstantAs type constant => do
    return .count (← pushConstantAs type ((← get).looseConstant constant))
  -- lazy constants
  | .newConstant type name =>
    quietly (modify fun w => { w with constants := w.constants.push (type, name) })
  | .constantValue constant host => do
    let c := (← get).looseConstant constant
    return .variant (← granted (← constantOutcome c (pure host)))
  | .pushConstant constant => do
    return .count (← pushConstant ((← get).looseConstant constant))
  | .constantInfo constant => do return (← get).constantReply constant
  -- hosts
  | .hostNew host cls => do
    let (answer, db) := ((← get).host host).classes.instantiate cls
    modify fun w => w.setClasses host db
    return (← granted answer).reply
  | .hostFree host id => do
    let (freed, db) := ((← get).host host).classes.free id
    modify fun w => w.setClasses host db
    return .flag freed
  | .hostObject host id properties => do return (← get).objectReply host id properties
  | .hostCount host => do return .count ((← get).host host).classes.objectCount
  -- instructions that hold others
  | .repeated _ _ => return .nothing
  | .attempt _ => return .nothing

/-- Runs an operation a number of times. -/
def times (act : ScriptM Unit) : Nat → ScriptM Unit
  | 0 => return ()
  | n + 1 => do
    act
    times act n

mutual

/-- What an instruction does and answers. -/
def exec (run : Runner) : Instr → ScriptM Reply
  | .repeated count body => do
    let muted := (← get).muted
    modify fun w => { w with muted := true }
    let result ← outcome (times (execAll run body) count)
    modify fun w => { w with muted }
    match result with
    | .ok () => return .nothing
    | .error e => throw e
  | .attempt i => exec run i
  | i => perform run i

/-- Runs instructions up to the first that fails, and logs each. -/
def execAll (run : Runner) : List Instr → ScriptM Unit
  | [] => return ()
  | i :: rest => do
    let result ← outcome (exec run i)
    modify fun w => w.log i.plain result
    match result with
    | .ok _ => execAll run rest
    | .error e => throw e

end

end ScriptM

end ScriptBind
