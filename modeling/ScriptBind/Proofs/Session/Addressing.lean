import ScriptBind.Proofs.Script.Words
import ScriptBind.Proofs.Session.Neutrality

/-!
# Indices and counts

An operation with a stack index acts on the slot that the index names, which belongs to the running
frame, or is refused with the index and changes nothing. An operation with a count takes as many
values as it says from the top of the frame, or is refused with the negative of the count.

The machine computes slots in words of fixed width. It finds every slot of every index, and every
result of a function, without an overflow. It stops at a count only where the index to be reported
does not fit: a call at the lowest 32 bits `2 ^ 31` and at the greatest count, a pop at the lowest 32
bits `2 ^ 31` when it is refused.

Main results:

* `Words.agrees` — the machine against integers of any size.
* `IndexEnds`, `CountEnds` — what indices and counts come to.
* `index_arithmetic` — all of it, at every moment of a run.
-/

namespace ScriptBind

open ScriptM

/-! ## In machine words -/

/-- The machine does what the operations of the stack do. -/
structure Words.Agrees (s : State) : Prop where
  absolute : s.Small → ∀ index : Int32, absolute? s index = some (s.absolute index.toInt)
  value : ∀ index : Int32, (value? s index).map Except.toOption = some (s.value? index.toInt)
  pushValue : ∀ index : Int32, pushValue? s index = some (s.pushValue index.toInt)
  remove : ∀ index : Int32, remove? s index = some (s.remove index.toInt)
  insert : s.Small → ∀ index : Int32, insert? s index = some (s.insert index.toInt)
  setTop : ∀ index : Int32, setTop? s index = some (s.setTop index.toInt)
  pop : s.Small → ∀ count : UInt64, pop? s count.toNat =
    if s.top < count.toNat ∧ count.toNat % 2 ^ 32 = 2 ^ 31 then none
    else some (s.pop count.toNat)
  callee : ∀ args : UInt64, callee? s args.toNat =
    if Overflows args.toNat then none
    else if args.toNat < s.top then some (.ok (s.stack.length - (args.toNat + 1)))
    else some (.error (.invalidIndex (State.countIndex (args.toNat + 1))))
  /-- A method call puts a function below the receiver and calls it with one argument more. -/
  method : s.Small → ∀ args : UInt64, args.toNat < s.top → ∀ function,
    let slot := s.stack.length - (args.toNat + 1)
    callee? (s.insertAt slot function) (args.toNat + 1) = some (.ok slot)
  /-- A function in a frame above `slot` claims to have pushed a number of results. -/
  results : ∀ slot < s.stack.length, ∀ (t : State) (pushed : UInt64),
    firstResult? t slot pushed.toNat =
      some (if t.stack.length < slot + 1 + pushed.toNat then none
        else some (t.stack.length - pushed.toNat))

theorem Words.agrees {s : State} (framed : s.Framed) (fits : s.Fits) : Words.Agrees s where
  absolute := absolute?_eq framed fits
  value := value?_eq framed fits
  pushValue := pushValue?_eq framed fits
  remove := remove?_eq framed fits
  insert := insert?_eq framed fits
  setTop := setTop?_eq framed fits
  pop small count := pop?_eq framed small count.toNat
  callee args := callee?_eq args.toNat_lt framed
  method small args held function := by
    obtain ⟨low, _⟩ := State.slot_bounds held
    have few : s.top < 2 ^ 31 := small
    have top_le : s.top ≤ s.stack.length := Nat.sub_le ..
    obtain ⟨more, here⟩ := @slot_insertAt s args.toNat _ low (by omega) function
    have inserted : (s.insertAt (s.stack.length - (args.toNat + 1)) function).Framed := by
      have same : (s.insertAt (s.stack.length - (args.toNat + 1)) function).top =
        (s.insertAt (s.stack.length - (args.toNat + 1)) function).stack.length -
          (s.insertAt (s.stack.length - (args.toNat + 1)) function).base := rfl
      unfold State.Framed
      omega
    -- the frame holds as many values as are passed on, so their number is below `2 ^ 31`
    have fine : ¬ Overflows (args.toNat + 1) := by
      unfold Overflows
      omega
    dsimp only
    rw [callee?_eq (by omega) inserted, if_neg fine, if_pos more, here]
  results slot high t pushed := firstResult?_eq (Nat.lt_trans high fits) pushed.toNat

/-! ## What indices come to -/

/-- What the operations at an index come to. -/
inductive IndexEnds (run : Runner) (w : World) (index : Int) : Prop
  /-- They act on the slot that the index names, counted from either end of the frame. -/
  | inside (k : Nat) (v : Value) (low : w.state.base ≤ k) (held : w.state.stack[k]? = some v)
      (place : (k : Int) =
        if 0 < index then w.state.base + index - 1 else w.state.stack.length + index)
      (absolute : exec run (.absolute index) w = (.ok (.count (k - w.state.base + 1)), w))
      (value : w.state.value? index = some v)
      (pushValue : exec run (.pushValue index) w =
        (.ok .nothing, w.withStack (w.state.stack ++ [v])))
      (remove : exec run (.remove index) w =
        (.ok .nothing, w.withStack (w.state.stack.eraseIdx k)))
      (insert : exec run (.insert index) w =
        (.ok .nothing, w.withStack (w.state.stack.take k ++
          w.state.stack.getLastD .nil :: (w.state.stack.drop k).dropLast)))
      (setTop : index < 0 → exec run (.setTop index) w =
        (.ok .nothing, w.withStack (w.state.stack.take (k + 1))))
  /-- They are refused, and the value is missing. -/
  | outside (nowhere : index = 0 ∨ w.state.top < index.natAbs)
      (absolute : exec run (.absolute index) w = (.error (.invalidIndex index), w))
      (value : w.state.value? index = none)
      (pushValue : exec run (.pushValue index) w = (.error (.invalidIndex index), w))
      (remove : exec run (.remove index) w = (.error (.invalidIndex index), w))
      (insert : exec run (.insert index) w = (.error (.invalidIndex index), w))
      (setTop : index < 0 → exec run (.setTop index) w = (.error (.invalidIndex index), w))

/-- An operation on the stack as an instruction. -/
theorem run_quietly_onState {f : State → Except ScriptError State} {w : World} :
    quietly (onState f) w =
      match f w.state with
      | .ok s => (.ok .nothing, { w with state := s })
      | .error e => (.error e, w) := by
  rw [run_quietly, run_onState]
  cases f w.state <;> rfl

theorem quietly_onState_ok {f : State → Except ScriptError State} {w : World} {s : State}
    (h : f w.state = .ok s) : quietly (onState f) w = (.ok .nothing, { w with state := s }) := by
  rw [run_quietly_onState, h]

theorem quietly_onState_error {f : State → Except ScriptError State} {w : World} {e : ScriptError}
    (h : f w.state = .error e) : quietly (onState f) w = (.error e, w) := by
  rw [run_quietly_onState, h]

theorem run_absolute (run : Runner) (index : Int) (w : World) :
    exec run (.absolute index) w = ((w.state.absolute index).map .count, w) := by
  show (do return .count (← check fun s => s.absolute index) : ScriptM Reply) w = _
  rw [run_bind, run_check]
  cases w.state.absolute index <;> rfl

/-- The place of a slot that an index names. -/
theorem State.place_of_slot? {s : State} {index : Int} {k : Nat} (h : s.slot? index = some k) :
    (k : Int) = if 0 < index then s.base + index - 1 else s.stack.length + index := by
  have held : s.top = s.stack.length - s.base := rfl
  unfold State.slot? at h
  by_cases pos : 0 < index
  · simp only [if_pos pos, Option.ite_none_right_eq_some, Option.some.injEq] at h
    rw [if_pos pos]
    omega
  · simp only [if_neg pos, Option.ite_none_right_eq_some, Option.some.injEq] at h
    rw [if_neg pos]
    omega

/-- Only zero and indices beyond the frame name no slot. -/
theorem State.nowhere_of_slot? {s : State} {index : Int} (framed : s.Framed)
    (h : s.slot? index = none) : index = 0 ∨ s.top < index.natAbs := by
  have held : s.top = s.stack.length - s.base := rfl
  have below : s.base ≤ s.stack.length := framed
  unfold State.slot? at h
  by_cases pos : 0 < index
  · rw [if_pos pos] at h
    have beyond : ¬ s.base + index.toNat - 1 < s.stack.length := fun inside =>
      nomatch (if_pos inside).symm.trans h
    omega
  · rw [if_neg pos] at h
    have beyond : ¬ (index < 0 ∧ index.natAbs ≤ s.top) := fun inside =>
      nomatch (if_pos inside).symm.trans h
    omega

/-- The top value moves to a slot of the frame. -/
theorem State.insert_of_slot? {s : State} {index : Int} {k : Nat} (h : s.slot? index = some k) :
    s.insert index = .ok { s with
      stack := s.stack.take k ++ s.stack.getLastD .nil :: (s.stack.drop k).dropLast } := by
  have held : s.top = s.stack.length - s.base := rfl
  have low := State.base_le_of_slot? h
  have high := State.slot?_lt h
  have taken : s.popValue = .ok (s.stack.getLastD .nil, s.truncate (s.stack.length - 1)) := by
    rw [State.popValue, if_neg (by omega)]
  -- without its last value the stack still parts at the slot, and only what is above lacks one
  have below : (s.stack.take (s.stack.length - 1)).take k = s.stack.take k := by
    rw [List.take_take, Nat.min_eq_left (by omega)]
  have above : (s.stack.take (s.stack.length - 1)).drop k = (s.stack.drop k).dropLast := by
    rw [List.dropLast_eq_take, List.length_drop, List.drop_take]
    congr 1
    omega
  rw [State.insert, State.slot, h]
  simp only [taken, bind, Except.bind, pure, Except.pure, State.insertAt, State.truncate, below,
    above]

theorem State.setTop_of_slot? {s : State} {index : Int} {k : Nat} (neg : index < 0)
    (h : s.slot? index = some k) :
    s.setTop index = .ok { s with stack := s.stack.take (k + 1) } := by
  have high := State.slot?_lt h
  have none_more : k + 1 - s.stack.length = 0 := by omega
  rw [State.setTop, if_neg (by omega), State.slot, h]
  simp only [bind, Except.bind, pure, Except.pure, State.resize, none_more, List.replicate_zero,
    List.append_nil]

theorem index_ends (run : Runner) {w : World} (framed : w.state.Framed) (index : Int) :
    IndexEnds run w index := by
  cases named : w.state.slot? index with
  | none =>
    -- all operations look for the slot first
    have refused : w.state.slot index = .error (.invalidIndex index) := by
      rw [State.slot, named]
    refine .outside (State.nowhere_of_slot? framed named) ?_ ?_ (quietly_onState_error ?_)
      (quietly_onState_error ?_) (quietly_onState_error ?_) fun neg => quietly_onState_error ?_
    · rw [run_absolute, State.absolute, refused]
      rfl
    · rw [State.value?, named]
      rfl
    · rw [State.pushValue, refused]
      rfl
    · rw [State.remove, refused]
      rfl
    · rw [State.insert, refused]
      rfl
    · rw [State.setTop, if_neg (by omega), refused]
      rfl
  | some k =>
    have here : w.state.slot index = .ok k := by rw [State.slot, named]
    have high := State.slot?_lt named
    have held : w.state.stack[k]? = some w.state.stack[k] := List.getElem?_eq_getElem high
    refine .inside k w.state.stack[k] (State.base_le_of_slot? named) held
      (State.place_of_slot? named) ?_ ?_ (quietly_onState_ok ?_) (quietly_onState_ok ?_)
      (quietly_onState_ok (State.insert_of_slot? named)) fun neg =>
        quietly_onState_ok (State.setTop_of_slot? neg named)
    · rw [run_absolute, State.absolute, here]
      rfl
    · rw [State.value?, named]
      exact held
    · have read : w.state.stack.getD k .nil = w.state.stack[k] := by simp [high]
      rw [State.pushValue, here, ← read]
      rfl
    · rw [State.remove, here]
      rfl

/-! ## What counts come to -/

/-- What the operations with a count come to. -/
structure CountEnds (n : Nat) (w : World) (count : Nat) : Prop where
  pop : exec (runAt n) (.pop count) w =
    if count ≤ w.state.top then
      (.ok .nothing, w.withStack (w.state.stack.take (w.state.stack.length - count)))
    else (.error (.invalidIndex (State.countIndex count)), w)
  /-- A call replaces what it takes from the frame, the function and its arguments. -/
  call : ∀ wanted,
    let ended := ScriptM.call (runAt n) count wanted w
    if count < w.state.top then
      w.state.base ≤ slotBelow w count ∧
        Replaces wanted (slotBelow w count) w ended.1 ended.2.state.stack ∧
        ended.2.state.frames = w.state.frames
    else ended = (.error (.invalidIndex (State.countIndex (count + 1))), w)
  callMethod : ∀ method wanted,
    let ended := ScriptM.callMethod (runAt n) method count wanted w
    if count < w.state.top then
      w.state.base ≤ slotBelow w count ∧
        Replaces wanted (slotBelow w count) w ended.1 ended.2.state.stack ∧
        ended.2.state.frames = w.state.frames
    else ended = (.error (.invalidIndex (State.countIndex (count + 1))), w)

theorem count_ends (n : Nat) {w : World} (framed : w.state.Framed) (count : Nat) :
    CountEnds n w count where
  pop := by
    show quietly (onState fun s => s.pop count) w = _
    by_cases enough : count ≤ w.state.top
    · rw [if_pos enough]
      exact quietly_onState_ok (if_pos enough)
    · rw [if_neg enough]
      exact quietly_onState_error (if_neg enough)
  call wanted := by
    dsimp only
    split
    -- with the callee in its frame a call ends like any other, and without it nothing happens
    next held =>
      have evolves := (Disciplined.call count wanted).evolving (Evolving.runAt n) w
      exact ⟨(State.slot_bounds held).1, (call_ends n wanted held).replaces, evolves.frames_eq⟩
    next refused => rw [run_call, if_neg refused]
  callMethod method wanted := by
    dsimp only
    split
    next held =>
      have evolves := (Disciplined.callMethod method count wanted).evolving (Evolving.runAt n) w
      have ends := callMethod_ends n method wanted framed held
      exact ⟨(State.slot_bounds held).1,
        ends.replaces framed (Nat.le_of_lt (State.slot_bounds held).2), evolves.frames_eq⟩
    next refused => rw [run_callMethod, if_neg refused]

/-! ## At every moment -/

/-- At every moment of a run, operations with indices and counts act on the running frame, or are
refused with the index, or the negative of the count, and change nothing. The machine computes the
same, without an overflow and without reading beyond the stack, wherever the index that is reported
for a count fits in 32 bits; the number of values in the frame has to fit as well where the machine
computes it in 32 bits. -/
theorem index_arithmetic {es : List Session.Event} {w : World} (moment : Session.Moment es w)
    (fits : w.state.Fits) (n : Nat) :
    Words.Agrees w.state ∧
      (∀ index : Int32, IndexEnds (runAt n) w index.toInt) ∧
      (∀ count : UInt64, CountEnds n w count.toNat) ∧
      ∀ count : UInt64, count.toNat < 2 ^ 31 →
        State.countIndex count.toNat = -count.toNat ∧
          State.countIndex (count.toNat + 1) = -count.toNat - 1 := by
  refine ⟨Words.agrees moment.framed fits, fun index => index_ends _ moment.framed _,
    fun count => count_ends n moment.framed _, fun count small => ?_⟩
  have next := Words.countIndex_of_le (n := count.toNat + 1) (by omega)
  refine ⟨Words.countIndex_of_le (by omega), ?_⟩
  rw [Int.natCast_succ] at next
  omega

/-- After two values have been pushed. -/
theorem index_arithmetic_pushed :
    let es : List Session.Event :=
      [.command (.run (.push (.number 1))), .command (.run (.push (.boolean true)))]
    let w := (Session.after es).world
    Session.Moment es w ∧ w.state.Fits ∧
      Words.Agrees w.state ∧
      (∀ index : Int32, IndexEnds (runAt maxCallDepth) w index.toInt) ∧
      ∀ count : UInt64, CountEnds maxCallDepth w count.toNat := by
  intro es w
  have moment : Session.Moment es w := .last es
  have fits : w.state.Fits := by decide
  obtain ⟨agrees, indices, counts, -⟩ := index_arithmetic moment fits maxCallDepth
  exact ⟨moment, fits, agrees, indices, counts⟩

/-- A frame without values refuses every count but zero. The machine has no index for these. -/
theorem index_arithmetic_overflows :
    State.countIndex (2 ^ 31 : Nat) = -2 ^ 31 ∧
      Words.pop? (State.new ⟨0⟩) (2 ^ 31) = none ∧
      Words.callee? (State.new ⟨0⟩) (2 ^ 31) = none ∧
      Words.callee? (State.new ⟨0⟩) (2 ^ 64 - 1) = none ∧
      Session.answer? [.run (.pop (2 ^ 31))] = none ∧
      Session.answer? [.run (.call (2 ^ 31) (some 0))] = none ∧
      Session.answer? [.run (.callMethod "m" (2 ^ 64 - 1) none)] = none := by
  refine ⟨?_, ?_, ?_, ?_, ?_, ?_, ?_⟩
  all_goals decide +kernel

end ScriptBind
