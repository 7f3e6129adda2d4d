import ScriptBind.Proofs.Session.Evolution

/-!
# The worlds that a run passes

What a program leaves behind is one thing, what it does on the way another: a function could move
its caller's values and put them back. `Passes` lists the worlds that a running function goes
through: those between its instructions, those between the instructions that they hold, and those
of the functions that its instructions get called, directly or through a handler of a metatable.

Main results:

* `Disciplined.enters` — a function is called only in a world that the operation enters.
* `Passes.above` — in every world that a run passes, the frames of the world that it starts from are
  at the bottom of the frame list, and what lay below the running frame is at the bottom of the
  stack.
-/

namespace ScriptBind

open ScriptM

/-! ## Asking the runner -/

/-- In the world `w`, the operation gets the function `f` run in the world `u`: it can be told apart
by what another runner does there, and nowhere else. -/
def Asks {α : Type} (op : Runner → ScriptM α) (run : Runner) (w : World) (f : FunctionId)
    (u : World) : Prop :=
  ∃ run' : Runner, (∀ g v, (g, v) ≠ (f, u) → run' g v = run g v) ∧ op run' w ≠ op run w

theorem Disciplined.enters {α : Type} {op : Runner → ScriptM α} (h : Disciplined op) {run : Runner}
    (hrun : ∀ f, Evolving (run f)) {w u : World} {f : FunctionId} (asks : Asks op run w f u) :
    Enters w u := by
  refine Classical.byContradiction fun outside => ?_
  obtain ⟨run', same, differs⟩ := asks
  refine differs (h.agree hrun fun g v enters => same g v ?_)
  rintro ⟨rfl, rfl⟩
  exact outside enters

/-! ## Passing -/

/-- The world in which nothing is logged. -/
def World.mute (w : World) : World := { w with muted := true }

/-- What runs: a function in its frame, the rest of a function's body, the rest of the instructions
that an instruction holds, or one instruction. -/
inductive Activity where
  | function (f : FunctionId)
  | body (steps : List Instr)
  | block (steps : List Instr)
  | instr (i : Instr)

/-- The world that an activity leaves, with at most `n` calls nested in it. -/
def Activity.after (n : Nat) : Activity → World → World
  | function f, w => (runAt n f w).2
  | body steps, w => (runBody (runAt n) steps w).2
  | block steps, w => (execAll (runAt n) steps w).2
  | instr i, w => (exec (runAt n) i w).2

/-- `Passes n a w v`: the activity `a`, which starts in the world `w` and in which at most `n` calls
nest, is at one moment in the world `v`. -/
inductive Passes : Nat → Activity → World → World → Prop
  | start (n : Nat) (a : Activity) (w : World) : Passes n a w w
  | finish (n : Nat) (a : Activity) (w : World) : Passes n a w (a.after n w)
  -- functions
  | function {n : Nat} {f : FunctionId} {g : Function} {steps : List Instr} {results : Nat}
      {quiet : Bool} {w v : World} (known : w.functions[f.index]? = some g)
      (code : g.code = .body steps results quiet)
      (passes : Passes n (.body steps) (if quiet then w.mute else w) v) :
      Passes (n + 1) (.function f) w v
  | bodyFirst {n : Nat} {i : Instr} {rest : List Instr} {w v : World}
      (passes : Passes n (.instr i) w v) : Passes n (.body (i :: rest)) w v
  | bodyRest {n : Nat} {i : Instr} {rest : List Instr} {w u v : World}
      {r : Except ScriptError Reply} (ran : exec (runAt n) i w = (r, u))
      (goesOn : r.isOk ∨ i.isAttempt) (passes : Passes n (.body rest) (u.log i.plain r) v) :
      Passes n (.body (i :: rest)) w v
  -- instructions that hold others
  | blockFirst {n : Nat} {i : Instr} {rest : List Instr} {w v : World}
      (passes : Passes n (.instr i) w v) : Passes n (.block (i :: rest)) w v
  | blockRest {n : Nat} {i : Instr} {rest : List Instr} {w u v : World} {r : Reply}
      (ran : exec (runAt n) i w = (.ok r, u))
      (passes : Passes n (.block rest) (u.log i.plain (.ok r)) v) :
      Passes n (.block (i :: rest)) w v
  | repeated {n k count : Nat} {body : List Instr} {w u v : World} (more : k < count)
      (ran : times (execAll (runAt n) body) k w.mute = (.ok (), u))
      (passes : Passes n (.block body) u v) : Passes n (.instr (.repeated count body)) w v
  | attempt {n : Nat} {i : Instr} {w v : World} (passes : Passes n (.instr i) w v) :
      Passes n (.instr (.attempt i)) w v
  -- calls
  | called {n : Nat} {i : Instr} {f : FunctionId} {w u v : World}
      (asks : Asks (fun run => exec run i) (runAt n) w f u) (passes : Passes n (.function f) u v) :
      Passes n (.instr i) w v

/-! ## What lies below -/

/-- The frames of the world are still there, and so is what lies below its running frame. -/
structure Above (w v : World) : Prop where
  frames : w.state.frames <:+ v.state.frames
  floor : w.state.floor <+: v.state.floor

namespace Above

theorem trans {u v w : World} (h : Above u v) (h' : Above v w) : Above u w :=
  ⟨h.frames.trans h'.frames, h.floor.trans h'.floor⟩

end Above

theorem Evolves.above {w v : World} (h : Evolves w v) : Above w v :=
  ⟨h.frames_eq ▸ List.suffix_refl _, State.floor_prefix_floor h.frames_eq h.floor_prefix⟩

/-- A function is activated above the frame of its caller. -/
theorem Enters.above {w u : World} (h : Enters w u) : Above w u := by
  induction h with
  | @call w slot f low _ _ =>
    exact ⟨List.suffix_cons .., State.floor_prefix_take (Nat.le_succ_of_le low)⟩
  | after before _ ih => exact before.above.trans ih
  | namecall _ ih => exact ⟨ih.frames, ih.floor⟩

theorem Activity.evolves (n : Nat) (a : Activity) (w : World) : Evolves w (a.after n w) := by
  cases a with
  | function f => exact Evolving.runAt n f w
  | body steps => exact Evolving.runBody (Evolving.runAt n) steps w
  | block steps => exact (Disciplined.execAll steps).evolving (Evolving.runAt n) w
  | instr i => exact (Disciplined.exec i).evolving (Evolving.runAt n) w

/-- `Forward w v`: elementary changes and activations lead from `w` to `v`. -/
inductive Forward : World → World → Prop
  | evolves {w v : World} (h : Evolves w v) : Forward w v
  | enters {w u : World} (h : Enters w u) : Forward w u
  | trans {u v w : World} (first : Forward u v) (second : Forward v w) : Forward u w

/-- Every world that a run passes comes forward of the one that it starts from. -/
theorem Passes.forward {n : Nat} {a : Activity} {w v : World} (h : Passes n a w v) :
    Forward w v := by
  have muted : ∀ w : World, Forward w w.mute := fun w => .evolves (.log w _ true _)
  have evolving := fun n i => (Disciplined.exec i).evolving (Evolving.runAt n)
  -- on the way to the world: what has ended on it evolves, and what has been called is entered
  induction h with
  | start n a w => exact .evolves (.refl w)
  | finish n a w => exact .evolves (a.evolves n w)
  | @function n f g steps results quiet w v _ _ _ ih =>
    cases quiet with
    | true => exact (muted w).trans ih
    | false => exact ih
  | bodyFirst _ ih => exact ih
  | @bodyRest n i rest w u v r ran _ _ ih =>
    have before : Evolves w u := (evolving n i).ran ran
    exact (Forward.evolves (before.trans (Evolving.log i.plain r u))).trans ih
  | blockFirst _ ih => exact ih
  | @blockRest n i rest w u v r ran _ ih =>
    have before : Evolves w u := (evolving n i).ran ran
    exact (Forward.evolves (before.trans (Evolving.log i.plain (.ok r) u))).trans ih
  | @repeated n k count body w u v _ ran _ ih =>
    have before : Evolves w.mute u :=
      (((Disciplined.execAll body).times k).evolving (Evolving.runAt n)).ran ran
    exact (muted w).trans ((Forward.evolves before).trans ih)
  | attempt _ ih => exact ih
  | @called n i f w u v asks _ ih =>
    exact (Forward.enters ((Disciplined.exec i).enters (Evolving.runAt n) asks)).trans ih

theorem Forward.above {w v : World} (h : Forward w v) : Above w v := by
  induction h with
  | evolves h => exact h.above
  | enters h => exact h.above
  | trans _ _ ih ih' => exact ih.trans ih'

/-- No world that a run passes has lost a frame, or a value below the frame, of the world that the
run started from. -/
theorem Passes.above {n : Nat} {a : Activity} {w v : World} (h : Passes n a w v) : Above w v :=
  h.forward.above

end ScriptBind
