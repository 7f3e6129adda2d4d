import ScriptBind.Proofs.Script.Evolution

/-!
# Operations that leave the stack as it was

Many operations use the stack on the way and leave it as they found it, or with one value more.
`Neutral` and `Pushes` say so of an operation whose frame starts within the stack. Neutral
operations may follow each other; an operation that `Takes` the top value may follow one that adds
it.

Main results:

* `Neutral.bind`, `Pushes.after`, `AddsOne.taken` — how such operations compose.
* `Takes.popValue`, `Takes.pop` — the two ways to take a value.
-/

namespace ScriptBind

/-! ## The running frame within the stack -/

/-- The running frame starts within the stack. -/
def State.Framed (s : State) : Prop := s.base ≤ s.stack.length

/-- The floor of a frame stays, and with it the frame within the stack. -/
theorem Evolves.framed {w v : World} (h : Evolves w v) (framed : w.state.Framed) :
    v.state.Framed := by
  have floor := h.floor_prefix.length_le
  have hlen : w.state.floor.length = w.state.base := List.length_take_of_le framed
  show v.state.base ≤ _
  rw [h.base_eq]
  omega

namespace State

variable {s : State}

/-- A value pushed on a frame belongs to it. -/
theorem top_push_pos (framed : s.Framed) (v : Value) : 0 < (s.push v).top := by
  have length : (s.push v).stack.length = s.stack.length + 1 := List.length_append
  have hbase : (s.push v).base ≤ s.stack.length := framed
  rw [top, length]
  omega

/-- What was pushed is cut off again. -/
theorem truncate_push (v : Value) : (s.push v).truncate ((s.push v).stack.length - 1) = s := by
  have length : (s.push v).stack.length = s.stack.length + 1 := List.length_append
  rw [truncate, length, Nat.add_sub_cancel]
  show { s.push v with stack := (s.stack ++ [v]).take s.stack.length } = s
  rw [List.take_left]
  rfl

/-- What was pushed is popped again. -/
theorem pop_push (framed : s.Framed) (v : Value) : (s.push v).pop 1 = .ok s := by
  rw [pop, if_pos (Nat.succ_le_of_lt (top_push_pos framed v)), truncate_push]

/-- What was pushed is taken off again. -/
theorem popValue_push (framed : s.Framed) (v : Value) : (s.push v).popValue = .ok (v, s) := by
  have last : (s.push v).stack.getLastD .nil = v := List.getLastD_concat
  rw [popValue, if_neg (Nat.ne_of_gt (top_push_pos framed v)), truncate_push, last]

/-- What was pushed last is at the top. -/
theorem value?_push (framed : s.Framed) (v : Value) : (s.push v).value? (-1) = some v := by
  have held : ((-1 : Int) < 0) ∧ (-1 : Int).natAbs ≤ (s.push v).top :=
    ⟨by decide, Nat.succ_le_of_lt (top_push_pos framed v)⟩
  have slot : (s.push v).slot? (-1) = some s.stack.length := by
    have length : (s.push v).stack.length = s.stack.length + 1 := List.length_append
    rw [slot?, if_neg (by decide), if_pos held, length]
    rfl
  rw [value?, slot]
  exact List.getElem?_concat_length

end State

namespace ScriptM

variable {α β : Type}

/-! ## Neutral operations -/

/-- The world has the stack and the frames of another one. -/
structure Restored (w v : World) : Prop where
  stack : v.state.stack = w.state.stack
  frames : v.state.frames = w.state.frames

namespace Restored

/-- Nothing has been moved. -/
theorem refl (w : World) : Restored w w := ⟨rfl, rfl⟩

/-- What is restored twice is restored. -/
theorem trans {u v w : World} (h : Restored u v) (h' : Restored v w) : Restored u w :=
  ⟨h'.stack.trans h.stack, h'.frames.trans h.frames⟩

/-- The running frame still lies within the stack. -/
theorem framed {w v : World} (h : Restored w v) (framed : w.state.Framed) : v.state.Framed := by
  show v.state.base ≤ v.state.stack.length
  rw [State.base, h.frames, h.stack]
  exact framed

end Restored

/-- Whether it succeeds or fails, the operation leaves the stack and the frames as they were. -/
def Neutral (act : ScriptM α) : Prop := ∀ w, w.state.Framed → Restored w (act w).2

namespace Neutral

/-- A value that is returned leaves the stack as it is. -/
theorem pure (a : α) : Neutral (Pure.pure a : ScriptM α) := fun w _ => .refl w

/-- An error leaves the stack as it is. -/
theorem throw (e : ScriptError) : Neutral (MonadExcept.throw e : ScriptM α) := fun w _ => .refl w

theorem get : Neutral (MonadState.get : ScriptM World) := fun w _ => .refl w

/-- One neutral operation after another. -/
theorem bind {a : ScriptM α} {f : α → ScriptM β} (ha : Neutral a) (hf : ∀ x, Neutral (f x)) :
    Neutral (a >>= f) := by
  intro w framed
  have before := ha w framed
  rw [run_bind]
  split
  next x v h =>
    rw [h] at before
    exact before.trans (hf x v (before.framed framed))
  next e v h => rwa [h] at before

/-- One of two neutral operations. -/
theorem ite {p : Prop} [Decidable p] {a b : ScriptM α} (ha : Neutral a) (hb : Neutral b) :
    Neutral (if p then a else b) := by
  split
  · exact ha
  · exact hb

/-- A question about the state leaves the stack as it is. -/
theorem query (f : State → α) : Neutral (ScriptM.query f) := fun w _ => .refl w

theorem state : Neutral ScriptM.state := fun w _ => .refl w

/-- Tables lie beside the stack. -/
theorem changeTable (t : TableId) (f : Table → Except ScriptError Table) :
    Neutral (ScriptM.changeTable t f) := by
  refine get.bind fun w => ?_
  cases f (w.table t) with
  | ok new => exact fun w _ => ⟨rfl, rfl⟩
  | error e => exact throw e

end Neutral

/-! ## Taking and adding a value -/

/-- A pushed value is there for what follows. -/
theorem run_push_bind (v : Value) (rest : ScriptM α) (w : World) :
    (push v >>= fun _ => rest) w = rest (w.withStack (w.state.stack ++ [v])) := by
  rw [run_bind]
  rfl

/-- The operation takes the top value. -/
def Takes (act : ScriptM α) : Prop :=
  ∀ w v x, w.state.Framed → v.state.stack = w.state.stack ++ [x] →
    v.state.frames = w.state.frames → Restored w (act v).2

namespace Takes

/-- It is enough to look at states to which a value was pushed. -/
theorem of_push {act : ScriptM α}
    (h : ∀ (v : World) (s : State) (x : Value), s.Framed → v.state = s.push x →
      Restored { v with state := s } (act v).2) : Takes act := by
  intro w v x framed stack frames
  let s := { v.state with stack := w.state.stack }
  have hs : s.Framed := by
    show State.base _ ≤ _
    rw [State.base, frames]
    exact framed
  have pushed : v.state = s.push x := by
    show v.state = { v.state with stack := w.state.stack ++ [x] }
    rw [← stack]
  have under : Restored w { v with state := s } := ⟨rfl, frames⟩
  exact under.trans (h v s x hs pushed)

/-- One value is taken off. -/
theorem popValue : Takes ScriptM.popValue := by
  refine of_push fun v s x framed pushed => ?_
  rw [run_popValue, pushed, State.popValue_push framed]
  exact .refl _

/-- One value is taken off, and the rest leaves the stack as it is. -/
theorem pop {rest : ScriptM α} (h : Neutral rest) :
    Takes (ScriptM.pop 1 >>= fun _ => rest) := by
  refine of_push fun v s x framed pushed => ?_
  rw [run_bind, ScriptM.pop, run_onState, pushed, State.pop_push framed]
  exact h _ framed

/-- The value may be looked at before it is taken. -/
theorem query {f : State → α} {rest : α → ScriptM β} (h : ∀ a, Takes (rest a)) :
    Takes (ScriptM.query f >>= rest) := by
  intro w v x framed stack frames
  exact h _ w v x framed stack frames

end Takes

/-- What an operation ends in has one value more on the stack, and none when it failed. -/
def AddsOne (w : World) (ended : Except ScriptError α × World) : Prop :=
  ended.2.state.frames = w.state.frames ∧
    match ended.1 with
    | .ok _ => ∃ x, ended.2.state.stack = w.state.stack ++ [x]
    | .error _ => ended.2.state.stack = w.state.stack

/-- The operation adds one value to the stack, and none when it fails. -/
def Pushes (act : ScriptM α) : Prop := ∀ w, w.state.Framed → AddsOne w (act w)

namespace Pushes

/-- One value is put on. -/
theorem push (v : Value) : Pushes (ScriptM.push v) := fun _ _ => ⟨rfl, v, rfl⟩

/-- What comes before may fail, but leaves the stack as it was. -/
theorem after {a : ScriptM α} {f : α → ScriptM β} (ha : Neutral a) (hf : ∀ x, Pushes (f x)) :
    Pushes (a >>= f) := by
  intro w framed
  have before := ha w framed
  rw [run_bind]
  cases h : a w with
  | mk r v =>
    rw [h] at before
    cases r with
    | error e => exact ⟨before.frames, before.stack⟩
    | ok x =>
      have added := hf x v (before.framed framed)
      unfold AddsOne at added
      rwa [before.frames, before.stack] at added

end Pushes

/-- The value that an operation adds is taken by the next one. -/
theorem AddsOne.taken {act : ScriptM α} {rest : ScriptM β} {w u : World} (h : AddsOne w (act u))
    (framed : w.state.Framed) (takes : Takes rest) :
    Restored w ((act >>= fun _ => rest) u).2 := by
  rw [run_bind]
  generalize act u = ended at h
  obtain ⟨r, v⟩ := ended
  cases r with
  | ok _ =>
    obtain ⟨frames, x, stack⟩ := h
    exact takes w v x framed stack frames
  | error e => exact ⟨h.2, h.1⟩

end ScriptM

end ScriptBind
