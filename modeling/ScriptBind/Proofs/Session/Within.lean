import ScriptBind.Proofs.Session.Tracks

/-!
# Activities within a relation

What every step of a run does, the run does. `Bounds R P` says that the steps lie within a relation:
an instruction does, wherever a condition `P` allows it and the functions that it calls do, and so
do the handlers and the notes in the log. Then everything that runs lies within the relation, as long
as all its instructions are allowed.

Main results:

* `Bounds.ended` — from the start of an activity to its end.
* `Bounds.within` — from its start to the start of any part.
-/

namespace ScriptBind

open ScriptM

/-- The steps of a run lie within a relation: instructions where they are allowed, if the functions
that they call do; handlers, constants and notes in the log in any case. -/
structure Bounds (R : World → World → Prop) (P : Instr → World → Prop) : Prop where
  refl (w : World) : R w w
  trans {u v w : World} (first : R u v) (second : R v w) : R u w
  log (w : World) (reported : Nat) (muted : Bool) (trace : Array Entry) :
    R w { w with reported, muted, trace }
  handler (h : Handler) (w : World) : R w (h.run w).2
  constant (c : Constant) (w : World) : R w (pushConstant c w).2
  before {i : Instr} {run : Runner} {w u : World} {f : FunctionId} (allowed : P i w)
    (trusts : Trusts R (fun run => perform run i) run w)
    (asks : Asks (fun run => perform run i) run w f u) : R w u
  after {i : Instr} {run : Runner} {w : World} (allowed : P i w)
    (trusts : Trusts R (fun run => perform run i) run w) : R w (perform run i w).2

/-- All instructions that an activity includes are allowed where they start. -/
def Allows (P : Instr → World → Prop) (n : Nat) (a : Activity) (w : World) : Prop :=
  ∀ cs m i x, Includes n a w cs m (.instr i) x → P i x

theorem Allows.part {P : Instr → World → Prop} {n m : Nat} {a b : Activity} {w x : World}
    {cs : List Caller} (allows : Allows P n a w) (includes : Includes n a w cs m b x) :
    Allows P m b x :=
  fun _ _ _ _ more => allows _ _ _ _ (includes.trans more)

namespace Bounds

variable {R : World → World → Prop} {P : Instr → World → Prop} (bounds : Bounds R P)
include bounds

theorem mute (w : World) : R w w.mute := bounds.log w w.reported true w.trace

theorem noted (w : World) (i : Instr) (r : Except ScriptError Reply) : R w (w.log i r) := by
  unfold World.log
  split
  · exact bounds.refl w
  · exact bounds.log w _ w.muted _

/-- What is run several times lies within the relation if it does each time. -/
theorem times (act : ScriptM Unit) (count : Nat) {w : World}
    (each : ∀ k u, k < count → times act k w = (.ok (), u) → R u (act u).2) :
    R w (ScriptM.times act count w).2 := by
  -- on the number of rounds, of which the first one is taken off
  induction count generalizing w with
  | zero => exact bounds.refl w
  | succ count ih =>
    have first := each 0 w (Nat.succ_pos count) rfl
    rw [ScriptM.times, run_bind]
    cases ran : act w with
    | mk r v =>
      rw [ran] at first
      cases r with
      | error e => exact first
      | ok _ =>
        refine bounds.trans first (ih fun k u more later => each (k + 1) u (Nat.succ_lt_succ more) ?_)
        rw [ScriptM.times, run_bind, ran]
        exact later

mutual

/-- An instruction, if the functions that it may call lie within the relation. -/
theorem instr {n : Nat} (functions : ∀ f w, Allows P n (.function f) w → R w (runAt n f w).2)
    (i : Instr) (w : World) (allows : Allows P n (.instr i) w) : R w (exec (runAt n) i w).2 := by
  cases i
  case repeated count body =>
    have ran := bounds.times (execAll (runAt n) body) count (w := w.mute)
      fun k u more ran => block functions body u (allows.part (.repeated more ran (.self ..)))
    rw [run_exec_repeated]
    exact bounds.trans (bounds.mute w) (bounds.trans ran (bounds.log _ _ w.muted _))
  case attempt i => exact instr functions i w (allows.part (.attempt (.self ..)))
  all_goals exact bounds.after (allows _ _ _ _ (.self ..)) fun f u asks =>
    functions f u (allows.part (.called asks (.self ..)))

theorem block {n : Nat} (functions : ∀ f w, Allows P n (.function f) w → R w (runAt n f w).2) :
    (steps : List Instr) → (w : World) → Allows P n (.block steps) w →
      R w (execAll (runAt n) steps w).2
  | [], w, _ => bounds.refl w
  | i :: rest, w, allows => by
    have first := instr functions i w (allows.part (.blockFirst (.self ..)))
    rw [run_execAll_cons]
    cases ran : exec (runAt n) i w with
    | mk r u =>
      rw [ran] at first
      have noted := bounds.trans first (bounds.noted u i.plain r)
      cases r with
      | ok r =>
        exact bounds.trans noted (block functions rest _ (allows.part (.blockRest ran (.self ..))))
      | error e => exact noted

end

theorem body {n : Nat} (functions : ∀ f w, Allows P n (.function f) w → R w (runAt n f w).2)
    (steps : List Instr) (w : World) (allows : Allows P n (.body steps) w) :
    R w (runBody (runAt n) steps w).2 := by
  induction steps generalizing w with
  | nil => exact bounds.refl w
  | cons i rest ih =>
    have first := bounds.instr functions i w (allows.part (.bodyFirst (.self ..)))
    rw [run_runBody_cons]
    cases ran : exec (runAt n) i w with
    | mk r u =>
      rw [ran] at first
      have noted := bounds.trans first (bounds.noted u i.plain r)
      -- a body goes on after a failure only if it was an attempt
      have goesOn : ∀ on : r.isOk ∨ i.isAttempt, R w (runBody (runAt n) rest (u.log i.plain r)).2 :=
        fun on => bounds.trans noted (ih _ (allows.part (.bodyRest ran on (.self ..))))
      cases r with
      | ok r => exact goesOn (.inl rfl)
      | error e =>
        dsimp only
        split
        next attempt => exact goesOn (.inr attempt)
        next => exact noted

/-- A function, by induction on the number of calls that may nest below it. -/
theorem function (n : Nat) (f : FunctionId) (w : World) (allows : Allows P n (.function f) w) :
    R w (runAt n f w).2 := by
  induction n generalizing f w with
  | zero => exact bounds.refl w
  | succ n ih =>
    cases known : w.functions[f.index]? with
    | none =>
      rw [runAt, run_bind, run_get]
      simp only [known]
      exact bounds.refl w
    | some g =>
      cases code : g.code with
      | handler h =>
        rw [runAt, run_bind, run_get]
        simp only [known, code]
        exact bounds.handler h w
      | constant k =>
        rw [runAt, run_bind, run_get]
        simp only [known, code]
        exact bounds.constant _ w
      | body steps results quiet =>
        have ran := bounds.body ih steps _ (allows.part (.function known code (.self ..)))
        rw [run_runAt_body known code]
        cases quiet with
        | false =>
          simp only [Bool.false_eq_true, if_false] at ran ⊢
          rw [run_bind]
          generalize runBody (runAt n) steps w = ended at ran
          obtain ⟨r, u⟩ := ended
          cases r <;> exact ran
        | true =>
          simp only [if_true] at ran ⊢
          rw [run_bind, run_unlogged]
          generalize runBody (runAt n) steps w.mute = ended at ran
          obtain ⟨r, u⟩ := ended
          -- the log of a muted body comes back at the end
          have unmuted : R w { u with muted := w.muted }.reportAll :=
            bounds.trans (bounds.mute w) (bounds.trans ran (bounds.log u _ w.muted u.trace))
          cases r <;> exact unmuted

/-- What runs lies within the relation if all its instructions are allowed. -/
theorem ended {n : Nat} {a : Activity} {w : World} (allows : Allows P n a w) :
    R w (a.after n w) := by
  have functions := bounds.function n
  cases a with
  | function f => exact functions f w allows
  | body steps => exact bounds.body functions steps w allows
  | block steps => exact bounds.block functions steps w allows
  | instr i => exact bounds.instr functions i w allows

/-- So does everything from its start to the start of one of its parts. -/
theorem within {n m : Nat} {a b : Activity} {w x : World} {cs : List Caller}
    (includes : Includes n a w cs m b x) (allows : Allows P n a w) : R w x := by
  -- on the way to the part: what has ended on it is bounded by itself, and what is being called by
  -- what happens before
  induction includes with
  | self n a w => exact bounds.refl w
  | @function n m f g steps results quiet w x cs b known code _ ih =>
    have ended := ih (allows.part (.function known code (.self ..)))
    cases quiet with
    | false => exact ended
    | true => exact bounds.trans (bounds.mute w) ended
  | bodyFirst _ ih => exact ih (allows.part (.bodyFirst (.self ..)))
  | @bodyRest n m i rest w u x cs b r ran goesOn _ ih =>
    have first := bounds.ended (allows.part (.bodyFirst (.self n (.instr i) w)))
    rw [Activity.after, ran] at first
    exact bounds.trans (bounds.trans first (bounds.noted u i.plain r))
      (ih (allows.part (.bodyRest ran goesOn (.self ..))))
  | blockFirst _ ih => exact ih (allows.part (.blockFirst (.self ..)))
  | @blockRest n m i rest w u x cs b r ran _ ih =>
    have first := bounds.ended (allows.part (.blockFirst (.self n (.instr i) w)))
    rw [Activity.after, ran] at first
    exact bounds.trans (bounds.trans first (bounds.noted u i.plain (.ok r)))
      (ih (allows.part (.blockRest ran (.self ..))))
  | @repeated n m k count body w u x cs b more ran _ ih =>
    have first := bounds.times (execAll (runAt n) body) k (w := w.mute)
      fun j v earlier ran' => bounds.ended
        (allows.part (.repeated (Nat.lt_trans earlier more) ran' (.self n (.block body) v)))
    rw [ran] at first
    exact bounds.trans (bounds.trans (bounds.mute w) first)
      (ih (allows.part (.repeated more ran (.self ..))))
  | attempt _ ih => exact ih (allows.part (.attempt (.self ..)))
  | @called n m i f w u x cs b asks _ ih =>
    have here : R w u := bounds.before (allows _ _ _ _ (.self ..)) (fun g v asked =>
      bounds.function n g v (allows.part (.called asked (.self ..)))) asks
    exact bounds.trans here (ih (allows.part (.called asks (.self ..))))

/-- And everything up to any of its moments. -/
theorem passes {n : Nat} {a : Activity} {w v : World} (h : Passes n a w v)
    (allows : Allows P n a w) : R w v := by
  obtain ⟨cs, m, b, x, includes, rfl | rfl⟩ := h.exists_includes
  · exact bounds.within includes allows
  · exact bounds.trans (bounds.within includes allows) (bounds.ended (allows.part includes))

end Bounds

end ScriptBind
