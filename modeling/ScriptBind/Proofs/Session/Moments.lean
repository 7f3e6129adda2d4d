import ScriptBind.Proofs.Script.Balance
import ScriptBind.Proofs.Session.Passing

/-!
# The moments of a run

The worlds that a run passes come in an order: each comes after the start of every activity that it
is part of, and before its end. A function that an instruction gets called returns to it, whatever
it did.

Whatever lies outside the current state only ever changes by elementary changes; the current state
may besides be exchanged for another one. `Proceeds` is this relation between an earlier and a later
world, and `Leads` the same while the programs of the hosts change their classes as they like.

Main results:

* `Passes.proceeds`, `Passes.proceeds_after` — a moment of an activity lies between its start and
  its end.
* `Forward.framed` — the running frame lies within the stack.
-/

namespace ScriptBind

open ScriptM

/-! ## Later worlds -/

/-- `Proceeds w v`: elementary changes, and changes of the current state, lead from `w` to `v`. -/
inductive Proceeds : World → World → Prop
  | evolves {w v : World} (h : Evolves w v) : Proceeds w v
  | state (w : World) (s : State) : Proceeds w { w with state := s }
  | trans {u v w : World} (first : Proceeds u v) (second : Proceeds v w) : Proceeds u w

/-- Nothing has happened yet. -/
theorem Proceeds.refl (w : World) : Proceeds w w := .evolves (.refl w)

/-- `Leads w v`: `w` proceeds to `v`, and at any time a host may get other classes and objects. -/
inductive Leads : World → World → Prop
  | evolves {w v : World} (h : Evolves w v) : Leads w v
  | state (w : World) (s : State) : Leads w { w with state := s }
  | classes (w : World) (host : Nat) (db : ClassDb) : Leads w (w.setClasses host db)
  | trans {u v w : World} (first : Leads u v) (second : Leads v w) : Leads u w

/-- To proceed is to lead on without a change of classes from outside. -/
theorem Proceeds.leads {w v : World} (h : Proceeds w v) : Leads w v := by
  induction h with
  | evolves h => exact .evolves h
  | state w s => exact .state w s
  | trans _ _ ih ih' => exact ih.trans ih'

/-- A function is entered in a world that has proceeded. -/
theorem Enters.proceeds {w u : World} (h : Enters w u) : Proceeds w u := by
  induction h with
  | call _ _ _ => exact .state _ _
  | after before _ ih => exact (Proceeds.evolves before).trans ih
  | namecall _ ih => exact (Proceeds.state _ _).trans ih

/-- What is done in one state proceeds. -/
theorem Forward.proceeds {w v : World} (h : Forward w v) : Proceeds w v := by
  induction h with
  | evolves h => exact .evolves h
  | enters h => exact h.proceeds
  | trans _ _ ih ih' => exact ih.trans ih'

/-- When a function is over, the world has proceeded. -/
theorem Returns.proceeds {u v : World} (h : Returns u v) : Proceeds u v := by
  induction h with
  | left => exact .state _ _
  | before _ after ih => exact ih.trans (.evolves after)
  | namecall _ _ ih => exact ih.trans (.state _ _)

/-! ## The running frame within the stack -/

/-- The frame of a function that is entered lies within the stack. -/
theorem Enters.framed {w u : World} (h : Enters w u) (framed : w.state.Framed) :
    u.state.Framed := by
  induction h with
  | call _ high _ => exact high
  | after before _ ih => exact ih (before.framed framed)
  | namecall _ ih => exact ih framed

/-- The running frame lies within the stack later. -/
theorem Forward.framed {w v : World} (h : Forward w v) (framed : w.state.Framed) :
    v.state.Framed := by
  induction h with
  | evolves h => exact h.framed framed
  | enters h => exact h.framed framed
  | trans _ _ ih ih' => exact ih' (ih framed)

/-! ## Moments of an activity -/

/-- The body of a function is run one instruction after the other, and each is logged. -/
theorem run_runBody_cons (run : Runner) (i : Instr) (rest : List Instr) (w : World) :
    runBody run (i :: rest) w =
      match exec run i w with
      | (.ok r, u) => runBody run rest (u.log i.plain (.ok r))
      | (.error e, u) =>
        if i.isAttempt then runBody run rest (u.log i.plain (.error e))
        else (.error e, u.log i.plain (.error e)) := by
  rw [runBody, run_bind, run_outcome]
  obtain ⟨r, u⟩ := exec run i w
  dsimp only
  rw [run_bind, run_modify]
  cases r with
  | ok r => rfl
  | error e =>
    dsimp only
    split <;> rfl

/-- A block is run one instruction after the other, and each is logged. -/
theorem run_execAll_cons (run : Runner) (i : Instr) (rest : List Instr) (w : World) :
    execAll run (i :: rest) w =
      match exec run i w with
      | (.ok r, u) => execAll run rest (u.log i.plain (.ok r))
      | (.error e, u) => (.error e, u.log i.plain (.error e)) := by
  rw [execAll, run_bind, run_outcome]
  obtain ⟨r, u⟩ := exec run i w
  dsimp only
  rw [run_bind, run_modify]
  cases r <;> rfl

/-- A function whose instructions are not logged runs in a muted world. -/
theorem run_unlogged (act : ScriptM Unit) (w : World) :
    unlogged act w =
      ((act w.mute).1, { (act w.mute).2 with muted := w.muted }.reportAll) := by
  unfold unlogged
  rw [run_bind, run_get]
  dsimp only
  rw [run_bind, run_modify]
  dsimp only
  rw [run_bind, run_outcome, ← World.mute]
  obtain ⟨r, u⟩ := act w.mute
  dsimp only
  rw [run_bind, run_modify]
  cases r <;> rfl

/-- A block that is repeated runs in a muted world. -/
theorem run_exec_repeated (run : Runner) (count : Nat) (body : List Instr) (w : World) :
    exec run (.repeated count body) w =
      ((times (execAll run body) count w.mute).1.map fun _ => .nothing,
        { (times (execAll run body) count w.mute).2 with muted := w.muted }) := by
  rw [exec, run_bind, run_get]
  dsimp only
  rw [run_bind, run_modify]
  dsimp only
  rw [run_bind, run_outcome, ← World.mute]
  obtain ⟨r, u⟩ := times (execAll run body) count w.mute
  dsimp only
  rw [run_bind, run_modify]
  cases r <;> rfl

/-- A function with a body runs it, muted if it is quiet. -/
theorem run_runAt_body {n : Nat} {f : FunctionId} {g : Function} {steps : List Instr} {results : Nat}
    {quiet : Bool} {w : World} (known : w.functions[f.index]? = some g)
    (code : g.code = .body steps results quiet) :
    runAt (n + 1) f w =
      (do
        if quiet then unlogged (runBody (runAt n) steps) else runBody (runAt n) steps
        return results : ScriptM Nat) w := by
  rw [runAt, run_bind, run_get]
  simp only [known, code]

namespace Activity

/-- An activity leaves a world that has proceeded. -/
theorem proceeds_after (n : Nat) (a : Activity) (w : World) : Proceeds w (a.after n w) :=
  .evolves (a.evolves n w)

/-- A function ends where its body ends. -/
theorem body_proceeds {n : Nat} {f : FunctionId} {g : Function} {steps : List Instr} {results : Nat}
    {quiet : Bool} {w : World} (known : w.functions[f.index]? = some g)
    (code : g.code = .body steps results quiet) :
    Proceeds ((body steps).after n (if quiet then w.mute else w)) ((function f).after (n + 1) w) := by
  show Proceeds _ (runAt (n + 1) f w).2
  rw [run_runAt_body known code]
  -- a quiet body runs in a muted world, whose log is given back at the end
  cases quiet with
  | false =>
    simp only [Bool.false_eq_true, if_false]
    rw [run_bind]
    show Proceeds (runBody (runAt n) steps w).2 _
    obtain ⟨r, u⟩ := runBody (runAt n) steps w
    cases r <;> exact .refl u
  | true =>
    simp only [if_true]
    rw [run_bind, run_unlogged]
    show Proceeds (runBody (runAt n) steps w.mute).2 _
    obtain ⟨r, u⟩ := runBody (runAt n) steps w.mute
    cases r <;> exact .evolves (.log u _ w.muted _)

/-- A body goes on where its first instruction ends. -/
theorem bodyFirst_proceeds (n : Nat) (i : Instr) (rest : List Instr) (w : World) :
    Proceeds ((instr i).after n w) ((body (i :: rest)).after n w) := by
  show Proceeds (exec (runAt n) i w).2 (runBody (runAt n) (i :: rest) w).2
  have goesOn : ∀ v, Proceeds v (runBody (runAt n) rest v).2 := (body rest).proceeds_after n
  rw [run_runBody_cons]
  obtain ⟨r, u⟩ := exec (runAt n) i w
  have logged : ∀ r, Proceeds u (u.log i.plain r) := fun r => .evolves (Evolving.log i.plain r u)
  cases r with
  | ok r => exact (logged _).trans (goesOn _)
  | error e =>
    dsimp only
    split
    · exact (logged _).trans (goesOn _)
    · exact logged _

/-- The first instruction of a block is done before the block is. -/
theorem blockFirst_proceeds (n : Nat) (i : Instr) (rest : List Instr) (w : World) :
    Proceeds ((instr i).after n w) ((block (i :: rest)).after n w) := by
  show Proceeds (exec (runAt n) i w).2 (execAll (runAt n) (i :: rest) w).2
  have goesOn : ∀ v, Proceeds v (execAll (runAt n) rest v).2 := (block rest).proceeds_after n
  rw [run_execAll_cons]
  obtain ⟨r, u⟩ := exec (runAt n) i w
  have logged : ∀ r, Proceeds u (u.log i.plain r) := fun r => .evolves (Evolving.log i.plain r u)
  cases r with
  | ok r => exact (logged _).trans (goesOn _)
  | error e => exact logged _

/-- What has been run some of the times is run the rest of the times. -/
theorem times_proceeds (n : Nat) (body : List Instr) {count k : Nat} {w u : World} (more : k < count)
    (ran : times (execAll (runAt n) body) k w = (.ok (), u)) :
    Proceeds ((block body).after n u) (times (execAll (runAt n) body) count w).2 := by
  have evolving : ∀ m v, Proceeds v (times (execAll (runAt n) body) m v).2 := fun m v =>
    .evolves (((Disciplined.execAll body).times m).evolving (Evolving.runAt n) v)
  induction k generalizing count w with
  | zero =>
    cases ran
    obtain ⟨m, rfl⟩ : ∃ m, count = m + 1 := ⟨count - 1, by omega⟩
    show Proceeds (execAll (runAt n) body u).2 (times (execAll (runAt n) body) (m + 1) u).2
    rw [times, run_bind]
    obtain ⟨r, v⟩ := execAll (runAt n) body u
    cases r with
    | ok _ => exact evolving m v
    | error e => exact .refl v
  | succ k ih =>
    obtain ⟨m, rfl⟩ : ∃ m, count = m + 1 := ⟨count - 1, by omega⟩
    rw [times, run_bind] at ran ⊢
    -- the first time went well, or there would be no more
    cases hv : execAll (runAt n) body w with
    | mk r v =>
      rw [hv] at ran
      cases r with
      | ok _ => exact ih (by omega) ran
      | error e => cases ran

/-- The runs of a repeated block are done before the instruction is. -/
theorem repeated_proceeds (n count : Nat) (body : List Instr) (w : World) :
    Proceeds (times (execAll (runAt n) body) count w.mute).2
      ((instr (.repeated count body)).after n w) := by
  show Proceeds _ (exec (runAt n) (.repeated count body) w).2
  rw [run_exec_repeated]
  exact .evolves (.log _ _ w.muted _)

end Activity

namespace Passes

variable {n : Nat} {a : Activity} {w v : World}

/-- A moment comes after the start. -/
theorem proceeds (h : Passes n a w v) : Proceeds w v := h.forward.proceeds

/-- A moment comes before the end. A function that an instruction got called returns to it. -/
theorem proceeds_after (h : Passes n a w v) : Proceeds v (a.after n w) := by
  induction h with
  | start n a w => exact a.proceeds_after n w
  | finish n a w => exact .refl _
  | function known code _ ih => exact ih.trans (Activity.body_proceeds known code)
  | bodyFirst _ ih => exact ih.trans (Activity.bodyFirst_proceeds ..)
  | @bodyRest n i rest w u v r ran goesOn _ ih =>
    have ended : (Activity.body (i :: rest)).after n w =
        (Activity.body rest).after n (u.log i.plain r) := by
      rw [Activity.after, run_runBody_cons, ran]
      cases r with
      | ok r => rfl
      | error e =>
        have attempt : i.isAttempt = true := goesOn.resolve_left Bool.false_ne_true
        simp only [attempt, if_true]
        rfl
    rw [ended]
    exact ih
  | blockFirst _ ih => exact ih.trans (Activity.blockFirst_proceeds ..)
  | @blockRest n i rest w u v r ran _ ih =>
    have ended : (Activity.block (i :: rest)).after n w =
        (Activity.block rest).after n (u.log i.plain (.ok r)) := by
      rw [Activity.after, run_execAll_cons, ran]
      rfl
    rw [ended]
    exact ih
  | @repeated n k count body w u v more ran _ ih =>
    exact (ih.trans (Activity.times_proceeds n body more ran)).trans (Activity.repeated_proceeds ..)
  | attempt _ ih => exact ih
  | @called n i f w u v asks _ ih =>
    obtain ⟨run', same, differ⟩ := asks
    obtain ⟨g, x, here, returns⟩ := (Disciplined.exec i).returns (Evolving.runAt n) differ
    -- the runners differ nowhere else
    have at_ : (g, x) = (f, u) := Classical.byContradiction fun other => here (same g x other)
    cases at_
    exact ih.trans returns.proceeds

end Passes

end ScriptBind
