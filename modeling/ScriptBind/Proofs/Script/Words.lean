import Mathlib.Algebra.Group.Int.Defs
import Mathlib.Algebra.Group.Nat.Defs
import ScriptBind.Proofs.Script.Balance
import ScriptBind.Proofs.Script.Calling
import ScriptBind.Script.Words

/-!
# Machine words against integers of any size

The operations of the stack compute with integers of any size, `Words` with machine words. Both agree
on every index. On counts they agree but for those with the lowest 32 bits `2 ^ 31`, the negative of
which 32 bits do not hold, and for the greatest count, to which nothing can be added.

What agrees, agrees as long as the length of the stack fits (`Fits`, which holds of every vector), and
where the number of values in the frame is itself computed in 32 bits, as long as that fits too
(`Small`).

Main results:

* `Words.negative?_eq`, `calleeCounts?_eq` — the counts whose arithmetic overflows.
* `Words.slot?_eq`, `callee?_eq`, `firstResult?_eq` — the slots.
* `Words.absolute?_eq`, `insert?_eq`, `setTop?_eq`, `pop?_eq` and the like — the operations.
-/

namespace ScriptBind

/-- The stack is no longer than a vector can be. -/
def State.Fits (s : State) : Prop := s.stack.length < 2 ^ 63

instance (s : State) : Decidable s.Fits := inferInstanceAs (Decidable (_ < _))

/-- 32 bits hold the number of values in the running frame. -/
def State.Small (s : State) : Prop := s.top < 2 ^ 31

namespace Words

/-! ## Steps -/

/-- A size that fits is represented. -/
theorem size?_of_lt {n : Nat} (h : n < 2 ^ 64) : size? n = some n := by
  rw [size?, if_pos]
  rwa [UInt64.size]

/-- A difference is represented where nothing is borrowed. -/
theorem difference?_of_le {m n : Nat} (h : n ≤ m) : difference? m n = some (m - n) := if_pos h

/-- An index that fits is represented. -/
theorem int32?_of_fits {i : Int} (low : -2 ^ 31 ≤ i) (high : i < 2 ^ 31) : int32? i = some i := by
  have least : Int32.minValue.toInt = -2 ^ 31 := by decide
  have greatest : Int32.maxValue.toInt = 2 ^ 31 - 1 := by decide
  rw [int32?, if_pos]
  omega

/-- An index that is too great is not. -/
theorem int32?_of_le {i : Int} (h : 2 ^ 31 ≤ i) : int32? i = none := by
  have greatest : Int32.maxValue.toInt = 2 ^ 31 - 1 := by decide
  rw [int32?, if_neg]
  omega

/-- The low half of a size, read with its sign. -/
theorem low32_eq (n : Nat) :
    low32 n = if n % 2 ^ 32 < 2 ^ 31 then (n % 2 ^ 32 : Int) else n % 2 ^ 32 - 2 ^ 32 := by
  unfold low32
  rw [UInt32.size, Int.bmod_def]
  split <;> split <;> omega

/-- A small size is its own low half. -/
theorem low32_of_lt {n : Nat} (h : n < 2 ^ 31) : low32 n = n := by
  rw [low32_eq]
  split <;> omega

/-- The index that is reported for a count, in numbers. -/
theorem countIndex_eq (n : Nat) :
    State.countIndex n =
      if n % 2 ^ 32 ≤ 2 ^ 31 then -(n % 2 ^ 32 : Int) else 2 ^ 32 - n % 2 ^ 32 := by
  simp only [State.countIndex, UInt32.size, Int.bmod_def]
  split <;> split <;> omega

/-- A count that fits in 32 bits is reported as its negative. -/
theorem countIndex_of_le {n : Nat} (h : n ≤ 2 ^ 31) : State.countIndex n = -n := by
  rw [countIndex_eq]
  split <;> omega

/-- The index of one value more is the next one down, but for one remainder. -/
theorem countIndex_succ {n : Nat} (h : n % 2 ^ 32 ≠ 2 ^ 31) :
    State.countIndex (n + 1) = State.countIndex n - 1 := by
  have next := countIndex_eq (n + 1)
  rw [Int.natCast_succ] at next
  rw [next, countIndex_eq]
  split <;> split <;> omega

/-- The negative of a count overflows for one remainder only. -/
theorem negative?_eq (n : Nat) :
    negative? n = if n % 2 ^ 32 = 2 ^ 31 then none else some (State.countIndex n) := by
  have low := low32_eq n
  rw [negative?]
  by_cases half : n % 2 ^ 32 = 2 ^ 31
  · -- the lowest 32 bits are the least integer
    rw [if_pos half, int32?_of_le]
    rw [low]
    split <;> omega
  · have reported : -low32 n = State.countIndex n := by
      rw [low, countIndex_eq]
      split <;> split <;> omega
    have index := countIndex_eq n
    rw [if_neg half, reported, int32?_of_fits] <;> rw [index] <;> split <;> omega

/-- A number of arguments whose arithmetic overflows: no index can be reported for it, or the
function itself is one too many. -/
def Overflows (args : Nat) : Prop := args + 1 = 2 ^ 64 ∨ args % 2 ^ 32 = 2 ^ 31

instance (args : Nat) : Decidable (Overflows args) := inferInstanceAs (Decidable (_ ∨ _))

/-- The counts of a call are represented, unless one of them overflows. -/
theorem calleeCounts?_eq {args : Nat} (h : args < 2 ^ 64) :
    calleeCounts? args =
      if Overflows args then none else some (args + 1, State.countIndex (args + 1)) := by
  rw [calleeCounts?, negative?_eq]
  by_cases last : args + 1 = 2 ^ 64
  · have full : size? (args + 1) = none := by
      rw [size?, if_neg]
      rw [last, UInt64.size]
      decide
    rw [full, if_pos (show Overflows args from .inl last)]
    rfl
  · rw [size?_of_lt (by omega)]
    by_cases half : args % 2 ^ 32 = 2 ^ 31
    · rw [if_pos half, if_pos (show Overflows args from .inr half)]
      rfl
    · -- the negative of a count is never the least integer, so there is room for one less
      have fits : int32? (State.countIndex args - 1) = some (State.countIndex args - 1) := by
        have index := countIndex_eq args
        apply int32?_of_fits <;> rw [index] <;> split <;> omega
      rw [if_neg half, if_neg (show ¬ Overflows args from not_or.mpr ⟨last, half⟩),
        countIndex_succ half]
      simp only [Option.bind_eq_bind, Option.bind_some, fits]
      rfl

/-! ## Slots -/

variable {s : State}

/-- A positive index counts from the base of the frame. -/
theorem slot_of_pos {i : Int} (h : 0 < i) :
    s.slot i =
      if s.stack.length ≤ s.base + i.toNat - 1 then .error (.invalidIndex i)
      else .ok (s.base + i.toNat - 1) := by
  unfold State.slot State.slot?
  by_cases inside : s.base + i.toNat - 1 < s.stack.length
  · simp [h, inside, Nat.not_le.mpr inside]
  · simp [h, inside, Nat.not_lt.mp inside]

/-- A negative index counts from the top of the frame. -/
theorem slot_of_neg {i : Int} (h : i < 0) :
    s.slot i =
      if s.top < i.natAbs then .error (.invalidIndex i) else .ok (s.stack.length - i.natAbs) := by
  have notPos : ¬ 0 < i := by omega
  unfold State.slot State.slot?
  by_cases inside : i.natAbs ≤ s.top
  · simp [notPos, h, inside, Nat.not_lt.mpr inside]
  · simp [notPos, inside, Nat.not_le.mp inside]

/-- The slot of an index needs no more than the widths of the machine. -/
theorem slot?_eq (framed : s.Framed) (fits : s.Fits) (index : Int32) :
    slot? s index = some (s.slot index.toInt) := by
  have below : s.base ≤ s.stack.length := framed
  have long : s.stack.length < 2 ^ 63 := fits
  have low := index.le_toInt
  have high := index.toInt_lt
  unfold slot?
  dsimp only
  -- indices count from the top, name nothing, or count from the base of the frame
  rcases Int.lt_trichotomy index.toInt 0 with neg | zero | pos
  · have back : s.top = s.stack.length - s.base := rfl
    rw [slot_of_neg neg, if_neg (by omega), if_pos neg, difference?_of_le below]
    simp only [Option.bind_eq_bind, Option.bind_some, ← back]
    by_cases outside : s.top < index.toInt.natAbs
    · rw [if_pos outside, if_pos outside]
      rfl
    · have inside : ¬ s.stack.length ≤ s.stack.length - index.toInt.natAbs := by omega
      rw [if_neg outside, if_neg outside, difference?_of_le (by omega)]
      simp only [Option.bind_some, if_neg inside]
      rfl
  · have nowhere : s.slot 0 = .error (.invalidIndex 0) := by rw [State.slot, State.slot?_zero]
    rw [zero, nowhere]
    rfl
  · rw [slot_of_pos pos, if_pos pos, size?_of_lt (by omega)]
    simp only [Option.bind_eq_bind, Option.bind_some]
    rw [difference?_of_le (by omega)]
    rfl

/-- What is done at a slot is done at the slot of the index. -/
theorem atSlot?_eq {α : Type} {act : Nat → Option α} {f : Nat → α} (framed : s.Framed)
    (fits : s.Fits) (index : Int32)
    (same : ∀ k, s.base ≤ k → k < s.stack.length → act k = some (f k)) :
    atSlot? s index act = some (f <$> s.slot index.toInt) := by
  rw [atSlot?, slot?_eq framed fits]
  cases named : s.slot index.toInt with
  | error e => rfl
  | ok k =>
    have here := State.slot_eq_ok named
    have ended := same k (State.base_le_of_slot? here) (State.slot?_lt here)
    simp only [Option.bind_eq_bind, Option.bind_some, ended]
    rfl

/-- Only the counts whose own arithmetic overflows have no callee and no error. -/
theorem callee?_eq {args : Nat} (h : args < 2 ^ 64) (framed : s.Framed) :
    callee? s args =
      if Overflows args then none
      else if args < s.top then some (.ok (s.stack.length - (args + 1)))
      else some (.error (.invalidIndex (State.countIndex (args + 1)))) := by
  have below : s.base ≤ s.stack.length := framed
  have held : s.top = s.stack.length - s.base := rfl
  rw [callee?, calleeCounts?_eq h]
  by_cases wraps : Overflows args
  · simp [wraps]
  · simp only [if_neg wraps, Option.bind_eq_bind, Option.bind_some]
    by_cases enough : args < s.top
    · obtain ⟨low, high⟩ := State.slot_bounds enough
      have notAbove : ¬ s.stack.length < args + 1 := by omega
      rw [difference?_of_le (by omega)]
      simp [enough, notAbove, Nat.not_lt.mpr low, List.getElem?_eq_getElem high]
    · -- not enough in the frame, and perhaps not even on the whole stack
      by_cases above : s.stack.length < args + 1
      · simp [enough, above]
      · have outside : s.stack.length - (args + 1) < s.base := by omega
        rw [difference?_of_le (by omega)]
        simp [enough, above, outside]

/-- The results of a function are found without overflow, however many it claims to have pushed. -/
theorem firstResult?_eq {slot : Nat} (high : slot < 2 ^ 63) (pushed : Nat) :
    firstResult? s slot pushed =
      some (if s.stack.length < slot + 1 + pushed then none else some (s.stack.length - pushed)) := by
  rw [firstResult?, size?_of_lt (by omega)]
  by_cases short : s.stack.length < slot + 1
  · have few : s.stack.length < slot + 1 + pushed := by omega
    simp [short, few]
  · simp only [Option.bind_eq_bind, Option.bind_some, if_neg short]
    rw [difference?_of_le (by omega)]
    by_cases few : s.stack.length < slot + 1 + pushed
    · have less : s.stack.length - (slot + 1) < pushed := by omega
      simp [few, less]
    · have enough : ¬ s.stack.length - (slot + 1) < pushed := by omega
      rw [difference?_of_le (by omega)]
      simp [few, enough]

/-! ## Operations -/

/-- The number of values in a frame that is not too large. -/
theorem top?_eq (framed : s.Framed) (small : s.Small) : top? s = some (s.top : Int) := by
  rw [top?, difference?_of_le framed]
  exact congrArg some (low32_of_lt small)

/-- A size that fits is itself. -/
theorem asSize_of_lt {n : Nat} (h : n < 2 ^ 64) : asSize n = n := by
  have rest : (n : Int) % 2 ^ 64 = n := by omega
  unfold asSize
  rw [UInt64.size]
  exact (congrArg Int.toNat rest).trans (Int.toNat_natCast n)

/-- The absolute index is computed without overflow in a frame that is small enough. -/
theorem absolute?_eq (framed : s.Framed) (fits : s.Fits) (small : s.Small) (index : Int32) :
    absolute? s index = some (s.absolute index.toInt) := by
  refine (atSlot?_eq (f := fun k => (k : Int) - s.base + 1) framed fits index ?_).trans ?_
  · intro k low high
    have held : s.top = s.stack.length - s.base := rfl
    have few : s.top < 2 ^ 31 := small
    rw [difference?_of_le low, Option.bind_eq_bind, Option.bind_some, size?_of_lt (by omega)]
    show some (low32 (k - s.base + 1)) = _
    rw [low32_of_lt (by omega)]
    exact congrArg some (by omega)
  · rfl

/-- A value is read where there is one. -/
theorem value?_eq (framed : s.Framed) (fits : s.Fits) (index : Int32) :
    (value? s index).map Except.toOption = some (s.value? index.toInt) := by
  rw [value?, atSlot?_eq (f := fun k => s.stack.getD k .nil) framed fits index]
  · unfold State.slot State.value?
    cases named : s.slot? index.toInt with
    | none => rfl
    | some k =>
      have high := State.slot?_lt named
      show some (some (s.stack.getD k .nil)) = some s.stack[k]?
      simp [List.getElem?_eq_getElem high]
  · intro k _ high
    simp [List.getElem?_eq_getElem high]

/-- A value is copied without overflow. -/
theorem pushValue?_eq (framed : s.Framed) (fits : s.Fits) (index : Int32) :
    pushValue? s index = some (s.pushValue index.toInt) := by
  refine (atSlot?_eq (f := fun k => s.push (s.stack.getD k .nil)) framed fits index ?_).trans ?_
  · intro k _ high
    simp [List.getElem?_eq_getElem high]
  · rfl

/-- A value is removed without overflow. -/
theorem remove?_eq (framed : s.Framed) (fits : s.Fits) (index : Int32) :
    remove? s index = some (s.remove index.toInt) :=
  atSlot?_eq framed fits index fun _ _ high => if_pos high

/-- The top is taken off without overflow. -/
theorem popValue?_eq (framed : s.Framed) (small : s.Small) : popValue? s = some s.popValue := by
  rw [popValue?, top?_eq framed small, State.popValue]
  by_cases empty : s.top = 0
  · simp [empty]
  · simp [empty]

/-- The top is moved without overflow in a frame that is small enough. -/
theorem insert?_eq (framed : s.Framed) (fits : s.Fits) (small : s.Small) (index : Int32) :
    insert? s index = some (s.insert index.toInt) := by
  rw [insert?, slot?_eq framed fits, popValue?_eq framed small, State.insert]
  cases named : s.slot index.toInt with
  | error e => rfl
  | ok k =>
    have here := State.slot_eq_ok named
    have low := State.base_le_of_slot? here
    have high := State.slot?_lt here
    have held : s.top = s.stack.length - s.base := rfl
    -- the frame holds the value at the index, so there is a top value to take
    have taken : s.popValue = .ok (s.stack.getLastD .nil, s.truncate (s.stack.length - 1)) := by
      rw [State.popValue, if_neg (by omega)]
    have room : k ≤ (s.truncate (s.stack.length - 1)).stack.length := by
      simp only [State.truncate, List.length_take]
      omega
    rw [taken]
    exact if_pos room

/-- The height of the frame is set without overflow. -/
theorem setTop?_eq (framed : s.Framed) (fits : s.Fits) (index : Int32) :
    setTop? s index = some (s.setTop index.toInt) := by
  have below : s.base ≤ s.stack.length := framed
  have long : s.stack.length < 2 ^ 63 := fits
  have high := index.toInt_lt
  rw [setTop?, State.setTop]
  by_cases upward : 0 ≤ index.toInt
  · rw [if_pos upward, if_pos upward, size?_of_lt (by omega)]
    rfl
  · rw [if_neg upward, if_neg upward]
    refine (atSlot?_eq (f := fun k => s.resize (k + 1)) framed fits index ?_).trans ?_
    · intro k _ high
      rw [size?_of_lt (by omega)]
      rfl
    · rfl

/-- A pop that is refused computes an index, which overflows for one remainder. -/
theorem pop?_eq (framed : s.Framed) (small : s.Small) (count : Nat) :
    pop? s count =
      if s.top < count ∧ count % 2 ^ 32 = 2 ^ 31 then none else some (s.pop count) := by
  have few : s.top < 2 ^ 31 := small
  have held : s.top = s.stack.length - s.base := rfl
  have below : s.base ≤ s.stack.length := framed
  rw [pop?, top?_eq framed small, Option.bind_eq_bind, Option.bind_some, asSize_of_lt (by omega),
    negative?_eq, State.pop]
  by_cases enough : count ≤ s.top
  · rw [difference?_of_le (by omega)]
    simp [enough, Nat.not_lt.mpr enough]
  · have short : s.top < count := Nat.not_le.mp enough
    rw [if_pos short]
    -- of all refused counts, only those that wrap to the least integer have no negative
    by_cases half : count % 2 ^ 32 = 2 ^ 31
    · rw [if_pos half, if_pos ⟨short, half⟩]
      rfl
    · rw [if_neg half, if_neg fun both => half both.2, if_neg enough]
      rfl

end Words

end ScriptBind
