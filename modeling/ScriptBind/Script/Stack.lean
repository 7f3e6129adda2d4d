import ScriptBind.Script.World

/-!
# The value stack

Indices and counts of the running frame. Positive indices count from the bottom of the frame,
negative ones from the top of the stack, and zero names no slot. Every operation stays within the
frame or is refused with the index at fault and leaves the state as it is.

* `State.slot?` — the slot of an index; by `slot?_lt` and `base_le_of_slot?` it lies within the
  running frame.
* `State.push`, `pop`, `popValue`, `pushValue`, `remove`, `insert`, `setTop` — the operations.
* `State.argError` — the error for an argument of the wrong type.
-/

namespace ScriptBind

namespace State

/-! ## Geometry -/

/-- The lowest slot of the running frame. -/
def base (s : State) : Nat := (s.frames.head?.map fun f => f.base).getD 0

/-- How many values the running frame holds. -/
def top (s : State) : Nat := s.stack.length - s.base

/-- The slot that an index names. -/
def slot? (s : State) (index : Int) : Option Nat :=
  if 0 < index then
    let slot := s.base + index.toNat - 1
    if slot < s.stack.length then some slot else none
  else if index < 0 ∧ index.natAbs ≤ s.top then some (s.stack.length - index.natAbs)
  else none

/-! Every slot that an index names belongs to the running frame. -/

theorem slot?_zero (s : State) : s.slot? 0 = none := by
  simp [slot?]

theorem slot?_lt {s : State} {index : Int} {k : Nat} (h : s.slot? index = some k) :
    k < s.stack.length := by
  unfold slot? at h
  split at h
  · next hpos =>
    obtain ⟨hlt, hk⟩ := Option.ite_none_right_eq_some.mp h
    exact Option.some.inj hk ▸ hlt
  · obtain ⟨⟨hneg, hle⟩, hk⟩ := Option.ite_none_right_eq_some.mp h
    have hk : s.stack.length - index.natAbs = k := Option.some.inj hk
    have htop : s.top ≤ s.stack.length := Nat.sub_le ..
    omega

theorem base_le_of_slot? {s : State} {index : Int} {k : Nat} (h : s.slot? index = some k) :
    s.base ≤ k := by
  unfold slot? at h
  split at h
  · next hpos =>
    obtain ⟨_, hk⟩ := Option.ite_none_right_eq_some.mp h
    have hk : s.base + index.toNat - 1 = k := Option.some.inj hk
    omega
  · obtain ⟨⟨hneg, hle⟩, hk⟩ := Option.ite_none_right_eq_some.mp h
    have hk : s.stack.length - index.natAbs = k := Option.some.inj hk
    have htop : s.top = s.stack.length - s.base := rfl
    omega

/-- The slot that an index names, or the error that it names none. -/
def slot (s : State) (index : Int) : Except ScriptError Nat :=
  match s.slot? index with
  | some k => .ok k
  | none => .error (.invalidIndex index)

/-- The positive index of the same slot. -/
def absolute (s : State) (index : Int) : Except ScriptError Int := do
  return (← s.slot index) - s.base + 1

/-- The index that an error reports for a count: its negative, in 32 bits. -/
def countIndex (n : Int) : Int := (-n).bmod UInt32.size

/-! ## Values -/

def value? (s : State) (index : Int) : Option Value := (s.slot? index).bind fun k => s.stack[k]?

/-- The value at an index, nil outside the frame. -/
def valueOrNil (s : State) (index : Int) : Value := (s.value? index).getD .nil

/-- The type's name of the value at an index. -/
def kind (s : State) (index : Int) : String :=
  match s.value? index with
  | some v => v.kind
  | none => "no value"

def isNone (s : State) (index : Int) : Bool := (s.value? index).isNone

def isNoneOrNil (s : State) (index : Int) : Bool := (s.valueOrNil index).isNil

def toBoolean (s : State) (index : Int) : Bool := (s.valueOrNil index).isTruthy

def toNumber? (s : State) (index : Int) : Option Float := (s.value? index).bind Value.asNumber

def toText? (s : State) (index : Int) : Option String := (s.value? index).bind Value.asText

def toTable? (s : State) (index : Int) : Option TableId := (s.value? index).bind Value.asTable

def toUserdata? (s : State) (index : Int) : Option UserdataId :=
  (s.value? index).bind Value.asUserdata

/-- The error that the value at an index is not of the expected type. -/
def argError (s : State) (index : Int) (expected : String) : ScriptError :=
  .argumentType index expected (s.kind index)

/-- A value that must be there, or the error that it is not of the expected type. -/
def expect {α : Type} (s : State) (index : Int) (expected : String) :
    Option α → Except ScriptError α
  | some a => .ok a
  | none => .error (s.argError index expected)

def checkNumber (s : State) (index : Int) : Except ScriptError Float :=
  s.expect index "number" (s.toNumber? index)

/-- The number at an index without its fraction. -/
def checkInteger (s : State) (index : Int) : Except ScriptError Int64 := do
  let x ← s.checkNumber index
  if Number.isFinite64 x then return Number.truncate64 x
  throw (s.argError index "integer")

def checkText (s : State) (index : Int) : Except ScriptError String :=
  s.expect index "string" (s.toText? index)

def checkTable (s : State) (index : Int) : Except ScriptError TableId :=
  s.expect index "table" (s.toTable? index)

/-- The upvalue of a number, counted from one, of the running function. -/
def upvalue? (s : State) (n : Nat) : Option Value :=
  match s.frames, n with
  | f :: _, i + 1 => f.upvalues[i]?
  | _, _ => none

/-! ## Pushing and popping -/

def push (s : State) (v : Value) : State := { s with stack := s.stack ++ [v] }

/-- The state without the slots from `length` upwards. -/
def truncate (s : State) (length : Nat) : State := { s with stack := s.stack.take length }

/-- The state with a value put below the one in a slot. -/
def insertAt (s : State) (slot : Nat) (v : Value) : State :=
  { s with stack := s.stack.take slot ++ v :: s.stack.drop slot }

/-- Pushes a copy of the value at an index. -/
def pushValue (s : State) (index : Int) : Except ScriptError State := do
  let k ← s.slot index
  return s.push (s.stack.getD k .nil)

/-- Drops a number of values. -/
def pop (s : State) (count : Nat) : Except ScriptError State :=
  if count ≤ s.top then .ok (s.truncate (s.stack.length - count))
  else .error (.invalidIndex (countIndex count))

/-- Takes the top value. -/
def popValue (s : State) : Except ScriptError (Value × State) :=
  if s.top = 0 then .error (.invalidIndex (-1))
  else .ok (s.stack.getLastD .nil, s.truncate (s.stack.length - 1))

/-- Removes the value at an index; those above move down. -/
def remove (s : State) (index : Int) : Except ScriptError State := do
  let k ← s.slot index
  return { s with stack := s.stack.eraseIdx k }

/-- Moves the top value to an index; those above move up. -/
def insert (s : State) (index : Int) : Except ScriptError State := do
  let k ← s.slot index
  let (v, s) ← s.popValue
  return s.insertAt k v

/-- Grows the stack with nils, or cuts it, to a length. -/
def resize (s : State) (length : Nat) : State :=
  { s with stack := s.stack.take length ++ List.replicate (length - s.stack.length) .nil }

/-- Lets the frame end at an index, which counts from the current top when it is negative. -/
def setTop (s : State) (index : Int) : Except ScriptError State :=
  if 0 ≤ index then .ok (s.resize (s.base + index.toNat))
  else do
    let k ← s.slot index
    return s.resize (k + 1)

end State

namespace ScriptM

/-- Reads from the state. -/
def query {α : Type} (f : State → α) : ScriptM α := do return f (← state)

/-- Reads from the state what may be missing. -/
def check {α : Type} (f : State → Except ScriptError α) : ScriptM α := do
  match f (← state) with
  | .ok a => return a
  | .error e => throw e

def push (v : Value) : ScriptM Unit := modifyState fun s => s.push v

def pop (count : Nat) : ScriptM Unit := onState fun s => s.pop count

def popValue : ScriptM Value := do
  let (v, s) ← check State.popValue
  modifyState fun _ => s
  return v

/-- Pushes a new table. -/
def pushNewTable : ScriptM TableId := do
  let t ← allocTable
  push (.table t)
  return t

/-- Pushes a new function. -/
def pushFunction (f : Function) : ScriptM Unit := do
  push (.function (← allocFunction f))

/-- Pushes a new userdata. -/
def pushUserdata (p : Payload) : ScriptM UserdataId := do
  let u ← allocUserdata p
  push (.userdata u)
  return u

/-- Pushes a function of the binding layer. -/
def pushHandler (name : String) (h : Handler) (upvalues : List Value) : ScriptM Unit :=
  pushFunction ⟨name, .handler h, upvalues⟩

end ScriptM

end ScriptBind
