import ScriptBind.Proofs.Script.Evolution

/-!
# How operations call functions

The operations that call functions get them run by their runner. `Disciplined` says what they do
with it: they evolve whenever the runner does, and they hand a function to it only in worlds that
they enter (`Enters`), so two runners that agree there cannot be told apart.

Main results:

* `run_invoke`, `run_call` — activating a function and calling a value, as equations between the
  world before and the world after.
* `Disciplined` — one lemma for each operation that calls functions: `call`, `indexValue`,
  `callMethod`, `display`, `equal`.
-/

namespace ScriptBind

namespace World

/-- The world without the values from `slot` upwards. -/
def cutAt (w : World) (slot : Nat) : World := { w with state := w.state.truncate slot }

/-- The function that a call of the value in `slot` runs, and the world that it starts from: a value
with a `__call` function is called through it and becomes its first argument. -/
def callee? (w : World) (slot : Nat) : Option (FunctionId × World) :=
  match w.state.stack.getD slot .nil with
  | .function f => some (f, w)
  | callee =>
    match w.metafield callee "__call" with
    | some (.function f) => some (f, { w with state := w.state.insertAt slot (.function f) })
    | _ => none

end World

namespace ScriptM

/-! ## Equations -/

/-- What a finished function leaves is settled in one step: its results, if it pushed as many as it
claims, stand in place of everything from its slot upwards. -/
theorem run_settle (slot : Nat) (f : FunctionId) (wanted : Option Nat) (pushed : Nat) (v : World) :
    settle slot f wanted pushed v =
      if v.state.stack.length < slot + 1 + pushed then
        (.error (.runtime (v.functionName f ++ " returned " ++ Number.natText pushed ++
          " results but left fewer on the stack")), v.cutAt slot)
      else
        (.ok (), v.withStack (v.state.stack.take slot ++
          adjust (v.state.stack.drop (v.state.stack.length - pushed)) wanted)) := by
  unfold settle
  rw [run_bind]
  simp only [run_get]
  split
  · rw [run_bind]
    rfl
  · rfl

/-- A finished function's results replace everything from its slot upwards; an activation that is
refused or fails leaves nothing there. -/
theorem run_invoke (run : Runner) (slot : Nat) (f : FunctionId) (wanted : Option Nat) (w : World) :
    invoke run slot f wanted w =
      if maxCallDepth ≤ w.state.frames.length then
        (.error (.stackOverflow maxCallDepth), w.cutAt slot)
      else
        match run f (w.entered slot f) with
        | (.ok pushed, v) =>
          if v.state.stack.length < slot + 1 + pushed then
            (.error (.runtime (v.functionName f ++ " returned " ++ Number.natText pushed ++
              " results but left fewer on the stack")), v.left slot [])
          else
            (.ok (), v.left slot
              (adjust (v.state.stack.drop (v.state.stack.length - pushed)) wanted))
        | (.error e, v) => (.error e, v.left slot []) := by
  unfold invoke
  rw [run_bind, run_get]
  dsimp only
  split
  · rw [run_bind]
    rfl
  -- the function runs in a frame of its own, which is taken away however it ends
  · rw [run_bind, run_modifyState]
    dsimp only
    rw [run_bind, run_outcome, ← World.entered]
    obtain ⟨r, v⟩ := run f (w.entered slot f)
    dsimp only
    rw [run_bind, run_modifyState]
    cases r with
    | ok pushed =>
      dsimp only
      rw [run_settle]
      simp only [World.cutAt, State.truncate, World.left, List.append_nil]
      rfl
    | error e =>
      dsimp only
      rw [run_bind]
      simp only [World.left, List.append_nil]
      rfl

/-- The function lies below its arguments, if the frame has enough values. -/
theorem run_calleeSlot (args : Nat) (w : World) :
    calleeSlot args w =
      if args < w.state.top then (.ok (w.state.stack.length - (args + 1)), w)
      else (.error (.invalidIndex (State.countIndex (args + 1))), w) := by
  unfold calleeSlot
  rw [run_bind, run_state]
  dsimp only
  split <;> rfl

/-- A call finds the function below its arguments and invokes it. -/
theorem run_call (run : Runner) (args : Nat) (wanted : Option Nat) (w : World) :
    call run args wanted w =
      if args < w.state.top then
        let slot := w.state.stack.length - (args + 1)
        match w.callee? slot with
        | some (f, u) => invoke run slot f wanted u
        | none => (.error (.notCallable (w.state.stack.getD slot .nil).kind), w.cutAt slot)
      else (.error (.invalidIndex (State.countIndex (args + 1))), w) := by
  unfold call
  rw [run_bind, run_calleeSlot]
  by_cases h : args < w.state.top
  · simp only [if_pos h]
    rw [run_bind, run_get]
    unfold World.callee?
    dsimp only
    -- what is no function can have one in its metatable
    cases w.state.stack.getD (w.state.stack.length - (args + 1)) Value.nil with
    | function f => rfl
    | _ =>
      dsimp only
      cases w.metafield _ "__call" with
      | none => rfl
      | some callee => cases callee <;> rfl
  · simp only [if_neg h]

/-- The name of the method is set back, whatever has happened. -/
theorem run_duringNamecall (method : String) (act : ScriptM Unit) (w : World) :
    duringNamecall method act w =
      ((act (w.withNamecall (some method))).1,
        (act (w.withNamecall (some method))).2.withNamecall w.state.namecall) := by
  unfold duringNamecall query
  rw [run_bind, run_bind, run_state]
  dsimp only
  rw [run_pure]
  dsimp only
  rw [run_bind, run_modifyState]
  dsimp only
  rw [run_bind, run_outcome, ← World.withNamecall]
  obtain ⟨r, v⟩ := act (w.withNamecall (some method))
  dsimp only
  rw [run_bind, run_modifyState]
  cases r <;> rfl

/-- A method that is looked up is called in place of the receiver's slot. -/
theorem run_callLooked (run : Runner) (method : String) (args : Nat) (wanted : Option Nat)
    (w : World) (slot : Nat) (receiver : Value) :
    (do
      match ← outcome (indexValue run receiver (.string method)) with
      | .ok function =>
        modifyState fun s => s.insertAt slot function
        call run (args + 1) wanted
      | .error e =>
        modifyState fun s => s.truncate slot
        throw e : ScriptM Unit) w =
      match indexValue run receiver (.string method) w with
      | (.ok function, v) =>
        call run (args + 1) wanted { v with state := v.state.insertAt slot function }
      | (.error e, v) => (.error e, v.cutAt slot) := by
  rw [run_bind, run_outcome]
  obtain ⟨r, v⟩ := indexValue run receiver (.string method) w
  cases r with
  | ok function =>
    dsimp only
    rw [run_bind]
    rfl
  | error e =>
    dsimp only
    rw [run_bind]
    rfl

/-- A method call hands the receiver to its handler, or looks the method up like a field. -/
theorem run_callMethod (run : Runner) (method : String) (args : Nat) (wanted : Option Nat)
    (w : World) :
    callMethod run method args wanted w =
      if args < w.state.top then
        let slot := w.state.stack.length - (args + 1)
        let receiver := w.state.stack.getD slot .nil
        match w.metafield receiver "__namecall" with
        | some (.function f) =>
          duringNamecall method (do
            modifyState fun s => s.insertAt slot (.function f)
            call run (args + 1) wanted) w
        | _ =>
          match indexValue run receiver (.string method) w with
          | (.ok function, v) =>
            call run (args + 1) wanted { v with state := v.state.insertAt slot function }
          | (.error e, v) => (.error e, v.cutAt slot)
      else (.error (.invalidIndex (State.countIndex (args + 1))), w) := by
  unfold callMethod
  rw [run_bind, run_calleeSlot]
  by_cases h : args < w.state.top
  · simp only [if_pos h]
    rw [run_bind, run_get]
    dsimp only
    -- a handler that is no function counts as none
    cases w.metafield _ "__namecall" with
    | none => exact run_callLooked ..
    | some handler =>
      cases handler with
      | function f => rfl
      | _ => exact run_callLooked ..
  · simp only [if_neg h]

end ScriptM

/-! ## Disciplined operations -/

/-- An operation that evolves whenever its runner does, and that hands functions to the runner only
in worlds that it enters: elsewhere the runner may as well be another one. Where another runner
makes a difference, the operation goes on from what its own runner leaves there. -/
structure Disciplined {α : Type} (op : Runner → ScriptM α) : Prop where
  evolving {run : Runner} (h : ∀ f, Evolving (run f)) : Evolving (op run)
  agree {run run' : Runner} {w : World} (h : ∀ f, Evolving (run f))
    (same : ∀ f u, Enters w u → run' f u = run f u) : op run' w = op run w
  returns {run run' : Runner} {w : World} (h : ∀ f, Evolving (run f)) (differ : op run' w ≠ op run w) :
    ∃ f u, run' f u ≠ run f u ∧ Returns (run f u).2 (op run w).2

/-- An operation that is disciplined as long as a slot belongs to the running frame. Operations that
put a value into the slot, or cut the stack off there, would do harm to the frames below otherwise.
The running frame stays the same while a world evolves, so the slot still belongs to it later. -/
structure DisciplinedIn {α : Type} (slot : Nat) (op : Runner → ScriptM α) : Prop where
  evolving {run : Runner} {w : World} (h : ∀ f, Evolving (run f)) (low : w.state.base ≤ slot) :
    Evolves w (op run w).2
  agree {run run' : Runner} {w : World} (h : ∀ f, Evolving (run f)) (low : w.state.base ≤ slot)
    (same : ∀ f u, Enters w u → run' f u = run f u) : op run' w = op run w
  returns {run run' : Runner} {w : World} (h : ∀ f, Evolving (run f)) (low : w.state.base ≤ slot)
    (differ : op run' w ≠ op run w) :
    ∃ f u, run' f u ≠ run f u ∧ Returns (run f u).2 (op run w).2

namespace DisciplinedIn

open ScriptM

variable {α β : Type} {slot : Nat}

/-- One operation after another, if the first leaves the slot in the frame. -/
theorem bind {a : Runner → ScriptM α} {f : Runner → α → ScriptM β} (ha : DisciplinedIn slot a)
    (hf : ∀ x, DisciplinedIn slot fun run => f run x) :
    DisciplinedIn slot fun run => a run >>= f run where
  evolving := by
    intro run w h low
    have before := ha.evolving h low
    rw [run_bind]
    split
    next x v hv =>
      rw [hv] at before
      exact before.trans ((hf x).evolving h (before.base_eq ▸ low))
    next e v hv =>
      rw [hv] at before
      exact before
  agree := by
    intro run run' w h low same
    have before := ha.evolving h low
    rw [run_bind, run_bind, ha.agree h low same]
    split
    next x v hv =>
      rw [hv] at before
      exact (hf x).agree h (before.base_eq ▸ low) fun g u enters => same g u (.after before enters)
    next => rfl
  returns := by
    intro run run' w h low differ
    have before := ha.evolving h low
    by_cases first : a run' w = a run w
    -- the first operation is the same, so it is the second one that differs
    · rw [run_bind, run_bind, first] at differ
      rw [run_bind]
      cases hv : a run w with
      | mk r v =>
        rw [hv] at differ before
        cases r with
        | ok x => exact (hf x).returns h (before.base_eq ▸ low) differ
        | error e => exact absurd rfl differ
    · obtain ⟨g, u, here, returns⟩ := ha.returns h low first
      have after : Evolves (a run w).2 ((a run >>= f run) w).2 := by
        rw [run_bind]
        cases hv : a run w with
        | mk r v =>
          rw [hv] at before
          cases r with
          | ok x => exact (hf x).evolving h (before.base_eq ▸ low)
          | error e => exact .refl v
      exact ⟨g, u, here, .before returns after⟩

/-- An operation that calls no function. -/
theorem const {act : ScriptM α} (h : ∀ w, w.state.base ≤ slot → Evolves w (act w).2) :
    DisciplinedIn slot fun _ => act :=
  ⟨fun _ => h _, fun _ _ _ => rfl, fun _ _ differ => absurd rfl differ⟩

/-- A value is put into the slot. -/
theorem insertAt (v : Value) : DisciplinedIn slot fun _ => modifyState fun s => s.insertAt slot v :=
  const fun _ low => .reshape (State.reshapes_insertAt low v)

/-- The stack is cut off at the slot. -/
theorem truncate : DisciplinedIn slot fun _ => modifyState fun s => s.truncate slot :=
  const fun _ low => .reshape (State.reshapes_truncate low)

/-- What is done during a method call is bracketed by the name. -/
theorem duringNamecall {act : Runner → ScriptM Unit} (ha : DisciplinedIn slot act)
    (method : String) : DisciplinedIn slot fun run => ScriptM.duringNamecall method (act run) where
  evolving h low := by
    rw [run_duringNamecall]
    exact .namecall (ha.evolving h low)
  agree := by
    intro run run' w h low same
    -- the name of the method is not part of the frame
    have named : w.state.base ≤ slot → (w.withNamecall (some method)).state.base ≤ slot := id
    rw [run_duringNamecall, run_duringNamecall,
      ha.agree h (named low) fun g u enters => same g u (.namecall enters)]
  returns := by
    intro run run' w h low differ
    have named : w.state.base ≤ slot → (w.withNamecall (some method)).state.base ≤ slot := id
    rw [run_duringNamecall, run_duringNamecall] at differ
    rw [run_duringNamecall]
    obtain ⟨g, u, here, returns⟩ := ha.returns h (named low) fun same => differ (by rw [same])
    exact ⟨g, u, here, .namecall returns _⟩

end DisciplinedIn

namespace Disciplined

open ScriptM

variable {α β : Type}

/-- An operation that calls no function. -/
theorem const {act : ScriptM α} (h : Evolving act) : Disciplined fun _ => act :=
  ⟨fun _ => h, fun _ _ => rfl, fun _ differ => absurd rfl differ⟩

/-- A disciplined operation is so within any frame. -/
theorem inside {op : Runner → ScriptM α} (h : Disciplined op) (slot : Nat) : DisciplinedIn slot op :=
  ⟨fun evolving _ => h.evolving evolving _, fun evolving _ => h.agree evolving,
    fun evolving _ => h.returns evolving⟩

/-- The running frame has at least the slot with which it begins. -/
theorem of_inside {op : Runner → ScriptM α} (h : ∀ slot, DisciplinedIn slot op) : Disciplined op :=
  ⟨fun evolving w => (h w.state.base).evolving evolving (Nat.le_refl _),
    fun {_ _ w} evolving => (h w.state.base).agree evolving (Nat.le_refl _),
    fun {_ _ w} evolving => (h w.state.base).returns evolving (Nat.le_refl _)⟩

/-- One operation after another. -/
theorem bind {a : Runner → ScriptM α} {f : Runner → α → ScriptM β} (ha : Disciplined a)
    (hf : ∀ x, Disciplined fun run => f run x) : Disciplined fun run => a run >>= f run :=
  .of_inside fun slot => (ha.inside slot).bind fun x => (hf x).inside slot

/-- One of two operations. -/
theorem ite {p : Prop} [Decidable p] {a b : Runner → ScriptM α} (ha : Disciplined a)
    (hb : Disciplined b) : Disciplined fun run => if p then a run else b run := by
  split
  · exact ha
  · exact hb

/-- An operation whose error is caught. -/
theorem outcome {a : Runner → ScriptM α} (ha : Disciplined a) :
    Disciplined fun run => ScriptM.outcome (a run) where
  evolving h := (ha.evolving h).outcome
  agree h same := by rw [run_outcome, run_outcome, ha.agree h same]
  returns h differ := by
    refine ha.returns h fun same => differ ?_
    rw [run_outcome, run_outcome, same]

end Disciplined

/-! ## Calls -/

/-- A slot below the top `args` values belongs to the running frame. -/
theorem State.slot_bounds {s : State} {args : Nat} (h : args < s.top) :
    s.base ≤ s.stack.length - (args + 1) ∧ s.stack.length - (args + 1) < s.stack.length := by
  have htop : s.top = s.stack.length - s.base := rfl
  omega

namespace World

/-- To cut the stack off above a slot of the frame is an elementary change. -/
theorem evolves_cutAt {w : World} {slot : Nat} (low : w.state.base ≤ slot) :
    Evolves w (w.cutAt slot) :=
  .reshape (State.reshapes_truncate low)

/-- The callee is found in the slot or put there, so the running frame stays and holds the slot. -/
theorem evolves_of_callee? {w u : World} {slot : Nat} {f : FunctionId}
    (low : w.state.base ≤ slot) (high : slot < w.state.stack.length)
    (h : w.callee? slot = some (f, u)) :
    Evolves w u ∧ u.state.base = w.state.base ∧ slot < u.state.stack.length := by
  unfold callee? at h
  split at h
  · cases h
    exact ⟨.refl w, rfl, high⟩
  · split at h
    · cases h
      refine ⟨.reshape (State.reshapes_insertAt low _), rfl, ?_⟩
      simp only [State.insertAt, List.length_append, List.length_take, List.length_cons]
      omega
    · cases h

end World

namespace ScriptM

variable {run run' : Runner} {w : World}

/-- A function that is invoked gets a frame of its own and leaves results in its place. -/
theorem evolves_invoke (h : ∀ f, Evolving (run f)) {slot : Nat} (low : w.state.base ≤ slot)
    (high : slot < w.state.stack.length) (f : FunctionId) (wanted : Option Nat) :
    Evolves w (invoke run slot f wanted w).2 := by
  rw [run_invoke]
  split
  next => exact w.evolves_cutAt low
  next room =>
    have ran := h f (w.entered slot f)
    have room : w.state.frames.length < maxCallDepth := Nat.lt_of_not_le room
    split
    next pushed v hv =>
      rw [hv] at ran
      split
      · exact .call low high room ran
      · exact .call low high room ran
    next e v hv =>
      rw [hv] at ran
      exact .call low high room ran

/-- An invocation hands on only functions in worlds that it enters. -/
theorem invoke_agree {slot : Nat} (low : w.state.base ≤ slot)
    (high : slot < w.state.stack.length) (same : ∀ f u, Enters w u → run' f u = run f u)
    (f : FunctionId) (wanted : Option Nat) :
    invoke run' slot f wanted w = invoke run slot f wanted w := by
  rw [run_invoke, run_invoke]
  split
  next => rfl
  next room => rw [same f _ (.call low high (Nat.lt_of_not_le room))]

/-- A function that has been run is left in any case. -/
theorem invoke_returns {slot : Nat} {f : FunctionId} {wanted : Option Nat}
    (differ : invoke run' slot f wanted w ≠ invoke run slot f wanted w) :
    run' f (w.entered slot f) ≠ run f (w.entered slot f) ∧
      Returns (run f (w.entered slot f)).2 (invoke run slot f wanted w).2 := by
  rw [run_invoke, run_invoke] at differ
  rw [run_invoke]
  by_cases full : maxCallDepth ≤ w.state.frames.length
  · rw [if_pos full, if_pos full] at differ
    exact absurd rfl differ
  · rw [if_neg full, if_neg full] at differ
    rw [if_neg full]
    refine ⟨fun same => differ (by rw [same]), ?_⟩
    -- whatever the function leaves behind, its frame is cut off
    obtain ⟨r, v⟩ := run f (w.entered slot f)
    cases r with
    | error e => exact .left v slot []
    | ok pushed =>
      dsimp only
      split
      · exact .left v slot []
      · exact .left v slot _

end ScriptM

namespace Disciplined

open ScriptM

/-- A call invokes a function in its slot. -/
theorem call (args : Nat) (wanted : Option Nat) : Disciplined fun run => call run args wanted where
  -- the callee may be put below its arguments first, and only then is there a slot to enter
  evolving := by
    intro run h w
    rw [run_call]
    split
    next hargs =>
      obtain ⟨low, high⟩ := State.slot_bounds hargs
      dsimp only
      split
      next f u hu =>
        obtain ⟨before, hbase, hslot⟩ := World.evolves_of_callee? low high hu
        exact before.trans (evolves_invoke h (hbase ▸ low) hslot f wanted)
      next => exact w.evolves_cutAt low
    next => exact .refl w
  agree := by
    intro run run' w h same
    rw [run_call, run_call]
    split
    next hargs =>
      obtain ⟨low, high⟩ := State.slot_bounds hargs
      dsimp only
      split
      next f u hu =>
        obtain ⟨before, hbase, hslot⟩ := World.evolves_of_callee? low high hu
        exact invoke_agree (hbase ▸ low) hslot (fun g v enters => same g v (.after before enters))
          f wanted
      next => rfl
    next => rfl
  returns := by
    intro run run' w h differ
    rw [run_call, run_call] at differ
    rw [run_call]
    by_cases hargs : args < w.state.top
    · simp only [if_pos hargs] at differ ⊢
      cases callee : w.callee? (w.state.stack.length - (args + 1)) with
      | none =>
        rw [callee] at differ
        exact absurd rfl differ
      | some found =>
        rw [callee] at differ
        exact ⟨found.1, _, invoke_returns differ⟩
    · rw [if_neg hargs, if_neg hargs] at differ
      exact absurd rfl differ

/-! ## Fields -/

/-- The table of a value is only read. -/
theorem rawEntry (target key : Value) : Disciplined fun _ => rawEntry target key := by
  refine const ?_
  unfold ScriptM.rawEntry
  cases target with
  | table t =>
    dsimp only
    cases Key.ofValue key with
    | error e => exact .throw e
    | ok k =>
      refine Evolving.get.bind fun w => ?_
      split
      · exact .pure _
      · exact .pure _
  | _ => exact .pure none

/-- A handler is called with the value and the key, and its first result is taken. -/
theorem handlerCall (f : FunctionId) (target key : Value) :
    Disciplined fun run =>
      (do
        push (.function f)
        push target
        push key
        ScriptM.call run 2 (some 1)
        popValue : ScriptM Value) :=
  (const (.push _)).bind fun _ => (const (.push _)).bind fun _ => (const (.push _)).bind fun _ =>
    (call 2 (some 1)).bind fun _ => const .popValue

/-- A chain of metatables calls at most one function, at its end. -/
theorem indexChain (key : Value) (fuel : Nat) (target : Value) :
    Disciplined fun run => indexChain run key fuel target := by
  -- on the fuel, one metatable after the other
  induction fuel generalizing target with
  | zero => exact const (.throw _)
  | succ fuel ih =>
    refine (rawEntry target key).bind fun entry => ?_
    cases entry with
    | some v => exact const (.pure v)
    | none =>
      refine (const .get).bind fun w => ?_
      cases w.metafield target "__index" with
      | none =>
        cases target with
        | table t => exact const (.pure _)
        | _ => exact const (.throw _)
      | some next =>
        cases next with
        | function f => exact handlerCall f target key
        | _ => exact ih _

/-- To index a value is to walk its chain. -/
theorem indexValue (target key : Value) : Disciplined fun run => indexValue run target key :=
  indexChain key maxIndexChain target

/-- A field is indexed and pushed. -/
theorem getField (index : Int) (key : String) : Disciplined fun run => getField run index key :=
  (const (.query _)).bind fun target =>
    (indexValue target (.string key)).bind fun v => const (.push v)

/-- A global is a field of the globals. -/
theorem getGlobal (name : String) : Disciplined fun run => getGlobal run name :=
  (const .state).bind fun s =>
    (indexValue (.table s.globals) (.string name)).bind fun v => const (.push v)

/-! ## Methods -/

/-- The slot of a callee belongs to the running frame. -/
theorem calleeSlot {f : Runner → Nat → ScriptM β} (args : Nat)
    (hf : ∀ slot, DisciplinedIn slot fun run => f run slot) :
    Disciplined fun run => calleeSlot args >>= f run := by
  have found (run : Runner) {w : World} (hargs : args < w.state.top) :
      (ScriptM.calleeSlot args >>= f run) w = f run (w.state.stack.length - (args + 1)) w := by
    rw [run_bind, run_calleeSlot, if_pos hargs]
  have refused (run : Runner) {w : World} (hargs : ¬ args < w.state.top) :
      (ScriptM.calleeSlot args >>= f run) w =
        (.error (.invalidIndex (State.countIndex (args + 1))), w) := by
    rw [run_bind, run_calleeSlot, if_neg hargs]
  -- without enough arguments nothing is called; otherwise the rest runs with the slot of the callee
  constructor
  · intro run h w
    by_cases hargs : args < w.state.top
    · rw [found run hargs]
      exact (hf _).evolving h (State.slot_bounds hargs).1
    · rw [refused run hargs]
      exact .refl w
  · intro run run' w h same
    by_cases hargs : args < w.state.top
    · rw [found run hargs, found run' hargs]
      exact (hf _).agree h (State.slot_bounds hargs).1 same
    · rw [refused run hargs, refused run' hargs]
  · intro run run' w h differ
    by_cases hargs : args < w.state.top
    · rw [found run hargs, found run' hargs] at differ
      rw [found run hargs]
      exact (hf _).returns h (State.slot_bounds hargs).1 differ
    · rw [refused run hargs, refused run' hargs] at differ
      exact absurd rfl differ

/-- Both ways to a method leave the running frame in place, so the callee goes into a slot of it. -/
theorem callMethod (method : String) (args : Nat) (wanted : Option Nat) :
    Disciplined fun run => callMethod run method args wanted := by
  refine calleeSlot args fun slot => ((const .get).inside slot).bind fun w => ?_
  have called (callee : Value) : DisciplinedIn slot fun run =>
      (modifyState fun s => s.insertAt slot callee) >>= fun _ =>
        ScriptM.call run (args + 1) wanted :=
    (DisciplinedIn.insertAt callee).bind fun _ => (call (args + 1) wanted).inside slot
  have looked : DisciplinedIn slot fun run => (do
      match ← ScriptM.outcome
          (ScriptM.indexValue run (w.state.stack.getD slot .nil) (.string method)) with
      | .ok callee =>
        modifyState fun s => s.insertAt slot callee
        ScriptM.call run (args + 1) wanted
      | .error e =>
        modifyState fun s => s.truncate slot
        throw e : ScriptM Unit) := by
    refine ((indexValue _ _).outcome.inside slot).bind fun found => ?_
    cases found with
    | ok callee => exact called callee
    | error e => exact DisciplinedIn.truncate.bind fun _ => (const (.throw e)).inside slot
  dsimp only
  cases w.metafield (w.state.stack.getD slot .nil) "__namecall" with
  | none => exact looked
  | some handler =>
    cases handler with
    | function f => exact (called (.function f)).duringNamecall method
    | _ => exact looked

/-! ## Text and equality -/

/-- A value is put into words, which may call a function for it. -/
theorem display (index : Int) : Disciplined fun run => display run index := by
  refine (const (.query _)).bind fun v => (const .get).bind fun w => ?_
  -- a value without a handler that can be called shows itself
  have plain : Disciplined fun _ => (do return (← MonadState.get).plainText v : ScriptM String) :=
    const (.reads _)
  cases w.metafield v "__tostring" with
  | none => exact plain
  | some handler =>
    cases handler with
    | function f =>
      refine (const (.push _)).bind fun _ => (const (.push _)).bind fun _ =>
        (call 1 (some 1)).bind fun _ => (const (.query _)).bind fun text =>
          (const (.pop 1)).bind fun _ => ?_
      cases text with
      | some t => exact const (.pure t)
      | none => exact const (.throw _)
    | _ => exact plain

/-- Two values are compared, which may call the function that they share. -/
theorem equal (index other : Int) : Disciplined fun run => equal run index other := by
  refine (const (.query _)).bind fun a => (const (.query _)).bind fun b => ?_
  refine ite (const (.pure true)) (ite (const (.pure false)) ((const .get).bind fun w => ?_))
  -- a handler is asked only when both values have the same one
  split
  next f g _ _ =>
    refine ite ?_ (const (.pure false))
    exact (const (.push _)).bind fun _ => (const (.push _)).bind fun _ =>
      (const (.push _)).bind fun _ => (call 2 (some 1)).bind fun _ =>
        (const (.query _)).bind fun r => (const (.pop 1)).bind fun _ => const (.pure r)
  next => exact const (.pure false)

end Disciplined

end ScriptBind
