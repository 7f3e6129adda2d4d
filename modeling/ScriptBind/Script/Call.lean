import ScriptBind.Script.Meta

/-!
# Calls

Calling functions, and the operations that call handlers of metatables.

How a function's code runs is a parameter here: a `Runner` runs the code of a function in the frame
that was opened for it and answers how many results it claims to have pushed.

* `ScriptM.call` — replaces a function and its arguments by the results; on failure they are gone.
* `ScriptM.indexValue` — a field, looked up through at most a hundred `__index` links.
* `ScriptM.callMethod` — calls a method through `__namecall`, or looks it up as a field.
* `ScriptM.display`, `ScriptM.equal` — text and equality with `__tostring` and `__eq`.
-/

namespace ScriptBind

/-- Runs the code of a function in the frame opened for it; the answer is the claimed number of
results. -/
abbrev Runner := FunctionId → ScriptM Nat

/-- The greatest number of nested calls. -/
def maxCallDepth : Nat := 200

/-- The greatest number of steps of an `__index` chain. -/
def maxIndexChain : Nat := 100

namespace ScriptM

/-! ## Calling -/

/-- The slot below the top `args` values, if it belongs to the running frame. This is what becomes of
a count whose own arithmetic fits the words of the machine (`Words.calleeCounts?`); any other count
ends the program. -/
def calleeSlot (args : Nat) : ScriptM Nat := do
  let s ← state
  if args < s.top then return s.stack.length - (args + 1)
  throw (.invalidIndex (State.countIndex (args + 1)))

/-- Results cut, or filled up with nils, to the number wanted. -/
def adjust (results : List Value) : Option Nat → List Value
  | none => results
  | some wanted => results.take wanted ++ List.replicate (wanted - results.length) .nil

/-- Leaves the results of a finished function in place of everything from `slot` upwards. -/
def settle (slot : Nat) (f : FunctionId) (wanted : Option Nat) (pushed : Nat) : ScriptM Unit := do
  let w ← get
  let stack := w.state.stack
  if stack.length < slot + 1 + pushed then
    modifyState fun s => s.truncate slot
    throw (.runtime (w.functionName f ++ " returned " ++ Number.natText pushed ++
      " results but left fewer on the stack"))
  let results := adjust (stack.drop (stack.length - pushed)) wanted
  modifyState fun s => { s with stack := stack.take slot ++ results }

/-- Runs a function whose slot is `slot` and whose arguments are everything above it. -/
def invoke (run : Runner) (slot : Nat) (f : FunctionId) (wanted : Option Nat) : ScriptM Unit := do
  let w ← get
  if maxCallDepth ≤ w.state.frames.length then
    modifyState fun s => s.truncate slot
    throw (.stackOverflow maxCallDepth)
  let upvalues := (w.functions[f.index]?.map fun g => g.upvalues).getD []
  modifyState fun s => { s with frames := ⟨slot + 1, upvalues⟩ :: s.frames }
  let result ← outcome (run f)
  modifyState fun s => { s with frames := s.frames.tail }
  match result with
  | .ok pushed => settle slot f wanted pushed
  | .error e =>
    modifyState fun s => s.truncate slot
    throw e

/-- Calls the value below the top `args` values, if the arithmetic of the count fits. A value with a
`__call` function is called through it and becomes the first argument. -/
def call (run : Runner) (args : Nat) (wanted : Option Nat) : ScriptM Unit := do
  let slot ← calleeSlot args
  let w ← get
  match w.state.stack.getD slot .nil with
  | .function f => invoke run slot f wanted
  | callee =>
    match w.metafield callee "__call" with
    | some (.function f) =>
      modifyState fun s => s.insertAt slot (.function f)
      invoke run slot f wanted
    | _ =>
      modifyState fun s => s.truncate slot
      throw (.notCallable callee.kind)

/-! ## Fields -/

/-- The raw entry of a table under a key, when there is one; other values have no entries. -/
def rawEntry (target key : Value) : ScriptM (Option Value) := do
  match target with
  | .table t =>
    match Key.ofValue key with
    | .error e => throw e
    | .ok k =>
      match (← get).rawGet t k with
      | .nil => return none
      | v => return some v
  | _ => return none

/-- A field looked up through at most `fuel` links. -/
def indexChain (run : Runner) (key : Value) : Nat → Value → ScriptM Value
  | 0, _ => throw (.runtime "'__index' chain too long; possible loop")
  | fuel + 1, target => do
    match ← rawEntry target key with
    | some v => return v
    | none =>
      match (← get).metafield target "__index" with
      | none =>
        match target with
        | .table _ => return .nil
        | other => throw (.notIndexable other.kind)
      | some (.function f) =>
        push (.function f)
        push target
        push key
        call run 2 (some 1)
        popValue
      | some next => indexChain run key fuel next

/-- The field of a value. -/
def indexValue (run : Runner) (target key : Value) : ScriptM Value :=
  indexChain run key maxIndexChain target

/-- Pushes a field of the value at an index. -/
def getField (run : Runner) (index : Int) (key : String) : ScriptM Unit := do
  let target ← query fun s => s.valueOrNil index
  push (← indexValue run target (.string key))

/-- Pushes a global. -/
def getGlobal (run : Runner) (name : String) : ScriptM Unit := do
  push (← indexValue run (.table (← state).globals) (.string name))

/-! ## Methods -/

/-- Runs an operation with the name of a method call in progress, and restores the name before
it. -/
def duringNamecall (method : String) (act : ScriptM Unit) : ScriptM Unit := do
  let previous ← query fun s => s.namecall
  modifyState fun s => { s with namecall := some method }
  let result ← outcome act
  modifyState fun s => { s with namecall := previous }
  match result with
  | .ok () => return ()
  | .error e => throw e

/-- Calls a method of the value below the top `args` values, which becomes the first argument. -/
def callMethod (run : Runner) (method : String) (args : Nat) (wanted : Option Nat) :
    ScriptM Unit := do
  let slot ← calleeSlot args
  let w ← get
  let receiver := w.state.stack.getD slot .nil
  match w.metafield receiver "__namecall" with
  | some (.function f) =>
    duringNamecall method do
      modifyState fun s => s.insertAt slot (.function f)
      call run (args + 1) wanted
  | _ =>
    match ← outcome (indexValue run receiver (.string method)) with
    | .ok function =>
      modifyState fun s => s.insertAt slot function
      call run (args + 1) wanted
    | .error e =>
      modifyState fun s => s.truncate slot
      throw e

/-! ## Text and equality -/

/-- The text of the value at an index. -/
def display (run : Runner) (index : Int) : ScriptM String := do
  let v ← query fun s => s.valueOrNil index
  match (← get).metafield v "__tostring" with
  | some (.function f) =>
    push (.function f)
    push v
    call run 1 (some 1)
    let text ← query fun s => s.toText? (-1)
    pop 1
    match text with
    | some t => return t
    | none => throw (.runtime "'__tostring' must return a string")
  | _ => return (← get).plainText v

/-- Whether both values can have an `__eq` handler in common. -/
def sameReferenceKind : Value → Value → Bool
  | .userdata _, .userdata _ => true
  | .table _, .table _ => true
  | _, _ => false

/-- Whether the values at two indices are equal. Only a handler that both values share is asked. -/
def equal (run : Runner) (index other : Int) : ScriptM Bool := do
  let a ← query fun s => s.valueOrNil index
  let b ← query fun s => s.valueOrNil other
  if a.rawEqual b then return true
  if !sameReferenceKind a b then return false
  let w ← get
  match w.metafield a "__eq", w.metafield b "__eq" with
  | some (.function f), some (.function g) =>
    if f = g then
      push (.function f)
      push a
      push b
      call run 2 (some 1)
      let result ← query fun s => s.toBoolean (-1)
      pop 1
      return result
    else return false
  | _, _ => return false

end ScriptM

end ScriptBind
