import ScriptBind.Script.Stack

/-!
# Index arithmetic in machine words

A stack index is an integer of 32 bits and a count one of 64 bits without a sign. Here the slots of
indices and counts are computed in these widths, step by step. A computation gives nothing where a
step does not fit its width or reads a slot beyond the stack. The operations of the stack work with
integers of any size; they agree with these computations where nothing overflows.

* `size?`, `difference?`, `int32?` — one step.
* `slot?`, `callee?` — the slot of an index, and of the function below a count of arguments.
* `absolute?`, `value?`, `pushValue?`, `remove?`, `insert?`, `setTop?`, `pop?` — the operations.
-/

namespace ScriptBind

namespace Words

/-! ## Steps -/

/-- A length or a count, if 64 bits hold it. -/
def size? (n : Nat) : Option Nat := if n < UInt64.size then some n else none

/-- How much one length exceeds another. -/
def difference? (m n : Nat) : Option Nat := if n ≤ m then some (m - n) else none

/-- An integer, if 32 bits hold it. -/
def int32? (i : Int) : Option Int :=
  if Int32.minValue.toInt ≤ i ∧ i ≤ Int32.maxValue.toInt then some i else none

/-- The lowest 32 bits of a count, as an integer. -/
def low32 (n : Nat) : Int := (n : Int).bmod UInt32.size

/-- An integer of 32 bits as a count; a negative one becomes a huge count. -/
def asSize (i : Int) : Nat := (i % UInt64.size).toNat

/-- The negative of a count in 32 bits. -/
def negative? (n : Nat) : Option Int := int32? (-low32 n)

/-- How many values a frame of so many has from an index on; the index may lie below it. -/
def countFrom? (top : Nat) (first : Int) : Option Int := do
  int32? ((← int32? (low32 top - first)) + 1)

/-! ## Slots -/

variable (s : State)

/-- The slot that an index names, or the error that it names none. -/
def slot? (index : Int32) : Option (Except ScriptError Nat) := do
  let i := index.toInt
  if 0 < i then
    -- one is taken away only from the whole sum, so that has to fit
    let above ← size? (s.base + i.toNat)
    let slot ← difference? above 1
    return if s.stack.length ≤ slot then .error (.invalidIndex i) else .ok slot
  else if i < 0 then
    let back := i.natAbs
    let held ← difference? s.stack.length s.base
    if held < back then return .error (.invalidIndex i)
    let slot ← difference? s.stack.length back
    return if s.stack.length ≤ slot then .error (.invalidIndex i) else .ok slot
  else return .error (.invalidIndex i)

/-- Does something at the slot that an index names. -/
def atSlot? {α : Type} (index : Int32) (act : Nat → Option α) : Option (Except ScriptError α) := do
  match ← slot? s index with
  | .ok k => return .ok (← act k)
  | .error e => return .error e

/-- How many values the running frame holds. -/
def top? : Option Int := do return low32 (← difference? s.stack.length s.base)

/-- What a call computes of the number of its arguments alone: how many values it takes, and the
index that it reports when the frame holds fewer. -/
def calleeCounts? (args : Nat) : Option (Nat × Int) := do
  let taken ← size? (args + 1)
  let back ← negative? args
  let reported ← int32? (back - 1)
  return (taken, reported)

/-- The slot below a number of arguments. -/
def callee? (args : Nat) : Option (Except ScriptError Nat) := do
  -- both come before the bounds are checked, so they are computed of counts that will be refused
  let (taken, reported) ← calleeCounts? args
  if s.stack.length < taken then return .error (.invalidIndex reported)
  let slot ← difference? s.stack.length taken
  if slot < s.base then return .error (.invalidIndex reported)
  let _ ← s.stack[slot]?
  return .ok slot

/-- The slot of the first of the results that a function in a frame above `slot` claims to have
pushed, if it has pushed as many. -/
def firstResult? (slot pushed : Nat) : Option (Option Nat) := do
  let base ← size? (slot + 1)
  if s.stack.length < base then return none
  let held ← difference? s.stack.length base
  if held < pushed then return none
  return some (← difference? s.stack.length pushed)

/-! ## Operations -/

def absolute? (index : Int32) : Option (Except ScriptError Int) :=
  atSlot? s index fun k => do
    let offset ← difference? k s.base
    return low32 (← size? (offset + 1))

def value? (index : Int32) : Option (Except ScriptError Value) :=
  atSlot? s index fun k => s.stack[k]?

def pushValue? (index : Int32) : Option (Except ScriptError State) :=
  atSlot? s index fun k => do return s.push (← s.stack[k]?)

def popValue? : Option (Except ScriptError (Value × State)) := do
  if (← top? s) = 0 then return .error (.invalidIndex (-1))
  return .ok (s.stack.getLastD .nil, s.truncate (s.stack.length - 1))

def remove? (index : Int32) : Option (Except ScriptError State) :=
  atSlot? s index fun k =>
    if k < s.stack.length then some { s with stack := s.stack.eraseIdx k } else none

def insert? (index : Int32) : Option (Except ScriptError State) := do
  match ← slot? s index with
  | .error e => return .error e
  | .ok k =>
    match ← popValue? s with
    | .error e => return .error e
    | .ok (v, t) => if k ≤ t.stack.length then some (.ok (t.insertAt k v)) else none

def setTop? (index : Int32) : Option (Except ScriptError State) :=
  let i := index.toInt
  if 0 ≤ i then do return .ok (s.resize (← size? (s.base + i.toNat)))
  else atSlot? s index fun k => do return s.resize (← size? (k + 1))

def pop? (count : Nat) : Option (Except ScriptError State) := do
  -- what the frame holds has been cut to 32 bits, and is huge as a count if that made it negative
  let held ← top? s
  if asSize held < count then return .error (.invalidIndex (← negative? count))
  return .ok (s.truncate (← difference? s.stack.length count))

end Words

end ScriptBind
