import ScriptBind.Proofs.Session.Activities
import ScriptBind.Proofs.Session.CallContract

/-!
# What operations do between calls

An operation that gets functions called does something of its own before, between and after the
calls. `Tracks R` says that this lies within a relation between worlds: where every function that is
called keeps to the relation, the operation does, and it calls functions only in worlds that the
relation reaches. Which functions are called is what `Asks` says; for that a function that fails has
to make the whole operation fail, or the rest could hide whether it was called.

Main results:

* `Tracks.bind`, `Tracks.caught` — how such operations compose.
* `Tracks.call`, `indexValue`, `display`, `equal`, `callMethod` — the operations that call functions.
* `asks_callMethod` — the two ways of a method call.
-/

namespace ScriptBind

open ScriptM

/-! ## Runners that answer one call in their own way -/

open Classical in
/-- The runner that leaves `answer` where the function `f` is called in the world `u`. -/
noncomputable def answering (run : Runner) (f : FunctionId) (u : World)
    (answer : Except ScriptError Nat × World) : Runner :=
  fun g v => if (g, v) = (f, u) then answer else run g v

section Answering

variable {run : Runner} {f : FunctionId} {w u : World} {answer : Except ScriptError Nat × World}

/-- The one call is answered as it is told. -/
theorem answering_here : answering run f u answer f u = answer := if_pos rfl

/-- All other calls are answered as before. -/
theorem answering_other (g : FunctionId) (v : World) (other : (g, v) ≠ (f, u)) :
    answering run f u answer g v = run g v :=
  if_neg other

/-- An operation for which it makes a difference how a call is answered has asked for it. -/
theorem asks_of_answering {α : Type} {op : Runner → ScriptM α}
    (differs : op (answering run f u answer) w ≠ op run w) : Asks op run w f u :=
  ⟨answering run f u answer, answering_other, differs⟩

/-- Who does not ask for a function does not learn how it is answered. -/
theorem op_answering {α : Type} {op : Runner → ScriptM α} (not_asked : ¬ Asks op run w f u) :
    op (answering run f u answer) w = op run w :=
  Classical.byContradiction fun differs => not_asked (asks_of_answering differs)

end Answering

/-! ## Operations within a relation -/

/-- The operation fails with a function that it asks for, and nothing is reported after that. -/
def Heeds {α : Type} (op : Runner → ScriptM α) : Prop :=
  ∀ ⦃run : Runner⦄ ⦃w u : World⦄ ⦃f : FunctionId⦄, Asks op run w f u →
    ∀ (e : ScriptError) (b : World), ∃ e' v,
      op (answering run f u (.error e, b)) w = (.error e', v) ∧ v.reported = b.reported

/-- All functions that the operation asks for keep to the relation. -/
def Trusts {α : Type} (R : World → World → Prop) (op : Runner → ScriptM α) (run : Runner)
    (w : World) : Prop :=
  ∀ f u, Asks op run w f u → R u (run f u).2

/-- What the operation does besides calling functions lies within the relation. -/
structure Tracks {α : Type} (R : World → World → Prop) (op : Runner → ScriptM α) : Prop where
  heeds : Heeds op
  /-- Where a function is called. -/
  before {run : Runner} {w u : World} {f : FunctionId} (trusts : Trusts R op run w)
    (asks : Asks op run w f u) : R w u
  /-- What the operation leaves. -/
  after {run : Runner} {w : World} (trusts : Trusts R op run w) : R w (op run w).2

/-- The relation allows to do nothing, one thing after the other, and to change the stack and the
frames. -/
structure Roomy (R : World → World → Prop) : Prop where
  refl (w : World) : R w w
  trans {u v w : World} (first : R u v) (second : R v w) : R u w
  moves (w : World) (stack : List Value) (frames : List Frame) :
    R w { w with state := { w.state with stack, frames } }

/-- The operation, and a change of the state where it fails. -/
def ScriptM.clearing {α : Type} (clear : State → State) (act : ScriptM α) : ScriptM α := fun w =>
  match act w with
  | (.ok x, v) => (.ok x, v)
  | (.error e, v) => (.error e, { v with state := clear v.state })

section Composed

variable {α β : Type} {R : World → World → Prop} {run : Runner} {w u v : World} {f : FunctionId}
  {a : Runner → ScriptM α} {g : Runner → α → ScriptM β}

/-- What an operation asks for, one that fails with it asks for as well. -/
theorem Heeds.asks_of (heeds : Heeds a) {op : Runner → ScriptM β} {x : World}
    (fails : ∀ {run e v}, a run w = (.error e, v) → (op run x).2.reported = v.reported)
    (asks : Asks a run w f u) : Asks op run x f u := by
  -- another runner fails there, and leaves one more request reported than the operation does
  let left := (op run x).2
  let b : World := { left with reported := left.reported + 1 }
  obtain ⟨e, v, failed, reported⟩ := heeds asks (.stackOverflow maxCallDepth) b
  have differs : op (answering run f u (.error (.stackOverflow maxCallDepth), b)) x ≠ op run x := by
    intro same
    have equal : v.reported = left.reported :=
      (fails failed).symm.trans (congrArg (fun r => r.2.reported) same)
    exact Nat.succ_ne_self _ (reported.symm.trans equal)
  exact asks_of_answering differs

/-- What the first operation asks for, the composed one asks for. -/
theorem Heeds.asks_first (heeds : Heeds a) (asks : Asks a run w f u) :
    Asks (fun run => a run >>= g run) run w f u :=
  heeds.asks_of (fun failed => by rw [run_bind, failed]) asks

/-- What the second operation asks for in the world that the first one leaves, the composed one
asks for. -/
theorem Heeds.asks_second (heeds : Heeds a) {x : α} (ran : a run w = (.ok x, v))
    (asks : Asks (fun run => g run x) run v f u) : Asks (fun run => a run >>= g run) run w f u := by
  by_cases first : Asks a run w f u
  · exact heeds.asks_first first
  · obtain ⟨run', same, differs⟩ := asks
    have unasked : a run' w = a run w :=
      Classical.byContradiction fun other => first ⟨run', same, other⟩
    refine ⟨run', same, ?_⟩
    dsimp only
    rw [run_bind, run_bind, unasked, ran]
    exact differs

/-- A failure of the first operation keeps the second one from running. -/
theorem Heeds.bind (ha : Heeds a) (hg : ∀ x, Heeds fun run => g run x) :
    Heeds fun run => a run >>= g run := by
  intro run w u f asks e b
  by_cases first : Asks a run w f u
  · obtain ⟨e', v, failed, reported⟩ := ha first e b
    refine ⟨e', v, ?_, reported⟩
    dsimp only
    rw [run_bind, failed]
  · obtain ⟨x, v, ran, later⟩ := asks.of_bind.resolve_left first
    obtain ⟨e', x', failed, reported⟩ := hg x later e b
    refine ⟨e', x', ?_, reported⟩
    dsimp only
    rw [run_bind, op_answering first, ran]
    exact failed

namespace Tracks

/-- An operation that calls no function. -/
theorem const {act : ScriptM α} (h : ∀ w, R w (act w).2) : Tracks R fun _ => act :=
  ⟨fun _ _ _ _ asks => absurd asks (Asks.not_const _), fun _ asks => absurd asks (Asks.not_const _),
    fun _ => h _⟩

/-- What is between the calls of two operations is between those of both. -/
theorem bind (roomy : Roomy R) (ha : Tracks R a) (hg : ∀ x, Tracks R fun run => g run x) :
    Tracks R fun run => a run >>= g run where
  heeds := ha.heeds.bind fun x => (hg x).heeds
  before := by
    intro run w u f trusts asks
    have first : Trusts R a run w := fun f u asks => trusts f u (ha.heeds.asks_first asks)
    -- a function is asked for by the first operation, or by the second one once the first ends
    rcases asks.of_bind with asks | ⟨x, v, ran, asks⟩
    · exact ha.before first asks
    · have left := ha.after first
      rw [ran] at left
      exact roomy.trans left
        ((hg x).before (fun f u asks => trusts f u (ha.heeds.asks_second ran asks)) asks)
  after := by
    intro run w trusts
    have left := ha.after fun f u asks => trusts f u (ha.heeds.asks_first asks)
    rw [run_bind]
    cases ran : a run w with
    | mk r v =>
      rw [ran] at left
      cases r with
      | ok x =>
        exact roomy.trans left
          ((hg x).after fun f u asks => trusts f u (ha.heeds.asks_second ran asks))
      | error e => exact left

/-- One of two operations. -/
theorem ite {p : Prop} [Decidable p] {a b : Runner → ScriptM α} (ha : Tracks R a)
    (hb : Tracks R b) : Tracks R fun run => if p then a run else b run := by
  split
  · exact ha
  · exact hb

/-- A failure may be followed by a change of the state. -/
theorem clearing (roomy : Roomy R) (ha : Tracks R a) {clear : State → State}
    (cleared : ∀ w : World, R w { w with state := clear w.state }) :
    Tracks R fun run => clearing clear (a run) := by
  -- clearing happens afterwards and calls nothing, so what is asked for is asked for before
  have asked {run w f u} (asks : Asks (fun run => ScriptM.clearing clear (a run)) run w f u) :
      Asks a run w f u := by
    obtain ⟨run', same, differs⟩ := asks
    refine ⟨run', same, fun equal => differs ?_⟩
    dsimp only [ScriptM.clearing]
    rw [equal]
  have trusted {run w} (trusts : Trusts R (fun run => ScriptM.clearing clear (a run)) run w) :
      Trusts R a run w := fun f u asks => trusts f u <| ha.heeds.asks_of
    (fun failed => by rw [ScriptM.clearing, failed]) asks
  refine ⟨fun run w u f asks e b => ?_, fun trusts asks => ha.before (trusted trusts) (asked asks),
    fun {run w} trusts => ?_⟩
  · obtain ⟨e', v, failed, reported⟩ := ha.heeds (asked asks) e b
    exact ⟨e', { v with state := clear v.state }, by rw [ScriptM.clearing, failed], reported⟩
  · have left := ha.after (trusted trusts)
    unfold ScriptM.clearing
    cases ran : a run w with
    | mk r v =>
      rw [ran] at left
      cases r with
      | ok x => exact left
      | error e => exact roomy.trans left (cleared v)

end Tracks

end Composed

/-! ## Calls -/

/-- Any two worlds are related by what says nothing. -/
theorem roomy_any : Roomy fun _ _ => True :=
  ⟨fun _ => trivial, fun _ _ => trivial, fun _ _ _ => trivial⟩

namespace Roomy

variable {R : World → World → Prop} (roomy : Roomy R) {w v : World}
include roomy

/-- The frame may be reshaped. -/
theorem reshape {s : State} (h : w.state.Reshapes s) : R w { w with state := s } := by
  obtain ⟨stack, -, rfl⟩ := h
  exact roomy.moves w stack w.state.frames

/-- A value may be moved up on the stack. -/
theorem insertAt (w : World) (slot : Nat) (v : Value) :
    R w { w with state := w.state.insertAt slot v } :=
  roomy.moves w _ w.state.frames

/-- The search for a function that stands for a value changes nothing but the stack. -/
theorem callee {slot : Nat} {f : FunctionId} (callee : w.callee? slot = some (f, v)) : R w v := by
  unfold World.callee? at callee
  split at callee
  · cases callee
    exact roomy.refl w
  · split at callee
    · cases callee
      exact roomy.insertAt w slot _
    · cases callee

end Roomy

namespace Tracks

variable {α : Type} {R : World → World → Prop} (roomy : Roomy R)
include roomy

/-- An operation that only looks at the world. -/
theorem reads {act : ScriptM α} (h : ∀ w, (act w).2 = w) : Tracks R fun _ => act :=
  const fun w => by
    rw [h]
    exact roomy.refl w

/-- A push lies within the relation. -/
theorem push (v : Value) : Tracks R fun _ => ScriptM.push v :=
  const fun w => roomy.moves w _ w.state.frames

/-- An operation of the state that reshapes the frame lies within the relation. -/
theorem onState {f : State → Except ScriptError State}
    (h : ∀ {s s' : State}, f s = .ok s' → s.Reshapes s') : Tracks R fun _ => ScriptM.onState f :=
  const fun w => by
    rw [run_onState]
    split
    next s hs => exact roomy.reshape (h hs)
    next => exact roomy.refl w

theorem popValue : Tracks R fun _ => ScriptM.popValue :=
  const fun w => by
    rw [run_popValue]
    split
    next v s hs => exact roomy.reshape (State.reshapes_of_popValue hs)
    next => exact roomy.refl w

/-- A call does nothing besides but move values on the stack and open and close a frame. -/
theorem call (args : Nat) (wanted : Option Nat) : Tracks R fun run => call run args wanted where
  heeds := by
    intro run w u f asks e b
    obtain ⟨held, room, v, callee, rfl⟩ := callee_of_asks_call asks
    have room : ¬ maxCallDepth ≤ v.state.frames.length := by
      rw [(callee?_keeps held callee).1]
      exact Nat.not_le_of_lt room
    refine ⟨e, b.left (slotBelow w args) [], ?_, rfl⟩
    dsimp only
    rw [run_call_callee _ wanted held callee, run_invoke, if_neg room, answering_here]
  before := by
    intro run w u f _ asks
    obtain ⟨-, -, v, callee, rfl⟩ := callee_of_asks_call asks
    exact roomy.trans (roomy.callee callee) (roomy.moves v v.state.stack _)
  after := by
    intro run w trusts
    by_cases held : args < w.state.top
    case neg =>
      rw [run_call, if_neg held]
      exact roomy.refl w
    cases callee : w.callee? (slotBelow w args) with
    | none =>
      rw [run_call_none _ wanted held callee]
      exact roomy.moves w _ w.state.frames
    | some found =>
      obtain ⟨f, v⟩ := found
      refine roomy.trans (roomy.callee callee) ?_
      rw [run_call_callee _ wanted held callee, run_invoke]
      split
      next => exact roomy.moves v _ v.state.frames
      next room =>
        rw [(callee?_keeps held callee).1] at room
        -- there is room for the callee, so it runs
        have ran := trusts _ _ (asks_call run wanted held (Nat.lt_of_not_le room) callee)
        have entered : R v (v.entered (slotBelow w args) f) := roomy.moves v v.state.stack _
        refine roomy.trans entered ?_
        generalize run f (v.entered (slotBelow w args) f) = ended at ran
        obtain ⟨r, x⟩ := ended
        have left : ∀ results, R _ (x.left (slotBelow w args) results) := fun results =>
          roomy.trans ran (roomy.moves x _ _)
        cases r with
        | error e => exact left []
        | ok pushed =>
          dsimp only
          split
          · exact left []
          · exact left _

/-! ## Fields -/

/-- The table of a value is only read. -/
theorem rawEntry (target key : Value) : Tracks R fun _ => ScriptM.rawEntry target key := by
  refine reads roomy fun w => ?_
  unfold ScriptM.rawEntry
  cases target with
  | table t =>
    dsimp only
    cases Key.ofValue key with
    | error e => rfl
    | ok k =>
      dsimp only
      rw [run_bind, run_get]
      dsimp only
      cases w.rawGet t k <;> rfl
  | _ => rfl

/-- A chain of metatables is walked without a change, up to the function that is called. -/
theorem indexChain (key : Value) (fuel : Nat) (target : Value) :
    Tracks R fun run => ScriptM.indexChain run key fuel target := by
  induction fuel generalizing target with
  | zero => exact reads roomy fun _ => rfl
  | succ fuel ih =>
    refine (rawEntry roomy target key).bind roomy fun entry => ?_
    cases entry with
    | some v => exact reads roomy fun _ => rfl
    | none =>
      refine (reads roomy fun _ => rfl).bind roomy fun w => ?_
      cases w.metafield target "__index" with
      | none => cases target <;> exact reads roomy fun _ => rfl
      | some next =>
        cases next with
        | function f =>
          exact (push roomy _).bind roomy fun _ => (push roomy _).bind roomy fun _ =>
            (push roomy _).bind roomy fun _ => (call roomy 2 (some 1)).bind roomy fun _ =>
              popValue roomy
        | _ => exact ih _

/-- A value is indexed. -/
theorem indexValue (target key : Value) : Tracks R fun run => ScriptM.indexValue run target key :=
  indexChain roomy key maxIndexChain target

/-- A field is pushed. -/
theorem getField (index : Int) (key : String) :
    Tracks R fun run => ScriptM.getField run index key :=
  (reads roomy fun _ => rfl).bind roomy fun target =>
    (indexValue roomy target (.string key)).bind roomy fun v => push roomy v

/-- A global is pushed. -/
theorem getGlobal (name : String) : Tracks R fun run => ScriptM.getGlobal run name :=
  (reads roomy fun _ => rfl).bind roomy fun s =>
    (indexValue roomy (.table s.globals) (.string name)).bind roomy fun v => push roomy v

/-! ## Text and equality -/

/-- A value is put into words, which a function may do. -/
theorem display (index : Int) : Tracks R fun run => ScriptM.display run index := by
  refine (reads roomy fun _ => rfl).bind roomy fun v => (reads roomy fun _ => rfl).bind roomy
    fun w => ?_
  cases w.metafield v "__tostring" with
  | none => exact reads roomy fun _ => rfl
  | some handler =>
    cases handler with
    | function f =>
      refine (push roomy _).bind roomy fun _ => (push roomy _).bind roomy fun _ =>
        (call roomy 1 (some 1)).bind roomy fun _ => (reads roomy fun _ => rfl).bind roomy
          fun text => (onState roomy State.reshapes_of_pop).bind roomy fun _ => ?_
      cases text <;> exact reads roomy fun _ => rfl
    | _ => exact reads roomy fun _ => rfl

/-- Two values are compared, which a function may do. -/
theorem equal (index other : Int) : Tracks R fun run => ScriptM.equal run index other := by
  refine (reads roomy fun _ => rfl).bind roomy fun a => (reads roomy fun _ => rfl).bind roomy
    fun b => ?_
  refine ite (reads roomy fun _ => rfl) (ite (reads roomy fun _ => rfl)
    ((reads roomy fun _ => rfl).bind roomy fun w => ?_))
  split
  next f g _ _ =>
    refine ite ?_ (reads roomy fun _ => rfl)
    exact (push roomy _).bind roomy fun _ => (push roomy _).bind roomy fun _ =>
      (push roomy _).bind roomy fun _ => (call roomy 2 (some 1)).bind roomy fun _ =>
        (reads roomy fun _ => rfl).bind roomy fun r =>
          (onState roomy State.reshapes_of_pop).bind roomy fun _ => reads roomy fun _ => rfl
  next => exact reads roomy fun _ => rfl

/-- What is answered does not matter. -/
theorem quietly {a : Runner → ScriptM Unit} (ha : Tracks R a) :
    Tracks R fun run => ScriptM.quietly (a run) :=
  ha.bind roomy fun _ => reads roomy fun _ => rfl

end Tracks

/-! ## Methods -/

/-- The function in the `__namecall` field of the value below the top `args` values. -/
def World.namecallHandler? (w : World) (args : Nat) : Option FunctionId :=
  match w.metafield (w.state.stack.getD (slotBelow w args) .nil) "__namecall" with
  | some (.function f) => some f
  | _ => none

/-- The world in which a method call hands its receiver to a handler. -/
def World.dispatched (w : World) (method : String) (slot : Nat) (f : FunctionId) : World :=
  { w.withNamecall (some method) with
    state := (w.withNamecall (some method)).state.insertAt slot (.function f) }

/-- The call of a method that is looked up as a field of its receiver. -/
def ScriptM.callLooked (run : Runner) (method : String) (args : Nat) (wanted : Option Nat)
    (slot : Nat) (receiver : Value) : ScriptM Unit := do
  let function ← clearing (fun s => s.truncate slot) (indexValue run receiver (.string method))
  modifyState fun s => s.insertAt slot function
  call run (args + 1) wanted

/-- A method is called through a handler, with its name in the slot for it, or looked up. -/
theorem run_callMethod_ways (run : Runner) (method : String) {args : Nat} (wanted : Option Nat)
    {w : World} (held : args < w.state.top) :
    callMethod run method args wanted w =
      match w.namecallHandler? args with
      | some f =>
        ((call run (args + 1) wanted (w.dispatched method (slotBelow w args) f)).1,
          (call run (args + 1) wanted (w.dispatched method (slotBelow w args) f)).2.withNamecall
            w.state.namecall)
      | none =>
        callLooked run method args wanted (slotBelow w args)
          (w.state.stack.getD (slotBelow w args) .nil) w := by
  rw [run_callMethod, if_pos held]
  unfold World.namecallHandler? ScriptM.callLooked clearing
  dsimp only
  rw [run_bind, ← slotBelow]
  -- either way the look-up has one outcome, which is at hand only when there is no handler
  generalize indexValue run (w.state.stack.getD (slotBelow w args) .nil) (.string method) w = looked
  obtain ⟨r, v⟩ := looked
  cases w.metafield (w.state.stack.getD (slotBelow w args) .nil) "__namecall" with
  | none => cases r <;> rfl
  | some handler =>
    cases handler with
    | function f =>
      dsimp only
      rw [run_duringNamecall]
      rfl
    | _ => cases r <;> rfl

/-- A method call with too few values is refused at once. -/
theorem run_callMethod_refused (run : Runner) (method : String) {args : Nat}
    (wanted : Option Nat) {w : World} (refused : ¬ args < w.state.top) :
    callMethod run method args wanted w =
      (.error (.invalidIndex (State.countIndex (args + 1))), w) := by
  rw [run_callMethod, if_neg refused]

/-- A method call asks for what one of its two ways asks for. -/
theorem asks_callMethod {run : Runner} {method : String} {args : Nat} {wanted : Option Nat}
    {w u : World} {f : FunctionId}
    (asks : Asks (fun run => callMethod run method args wanted) run w f u) :
    args < w.state.top ∧
      match w.namecallHandler? args with
      | some g =>
        Asks (fun run => call run (args + 1) wanted) run (w.dispatched method (slotBelow w args) g)
          f u
      | none =>
        Asks (fun run => callLooked run method args wanted (slotBelow w args)
          (w.state.stack.getD (slotBelow w args) .nil)) run w f u := by
  obtain ⟨run', same, differs⟩ := asks
  dsimp only at differs
  by_cases held : args < w.state.top
  case neg =>
    rw [run_callMethod_refused _ method wanted held, run_callMethod_refused _ method wanted held]
      at differs
    exact absurd rfl differs
  refine ⟨held, ?_⟩
  rw [run_callMethod_ways _ method wanted held, run_callMethod_ways _ method wanted held] at differs
  split at differs
  next g _ => exact ⟨run', same, fun equal => differs (by dsimp only at equal; rw [equal])⟩
  next => exact ⟨run', same, differs⟩

/-- A method that is looked up as a field is called like any function. -/
theorem Tracks.callLooked {R : World → World → Prop} (roomy : Roomy R) (method : String)
    (args : Nat) (wanted : Option Nat) (slot : Nat) (receiver : Value) :
    Tracks R fun run => callLooked run method args wanted slot receiver :=
  ((indexValue roomy receiver (.string method)).clearing roomy fun w =>
      roomy.moves w _ w.state.frames).bind roomy fun function =>
    (const fun w => roomy.insertAt w slot function).bind roomy fun _ =>
      call roomy (args + 1) wanted

section Ways

variable {run : Runner} {method : String} {args : Nat} {wanted : Option Nat} {w u : World}
  {f : FunctionId} (held : args < w.state.top)
include held

/-- What the call of a handler asks for, the method call asks for. -/
theorem asks_of_handler {g : FunctionId} (handler : w.namecallHandler? args = some g)
    (asks : Asks (fun run => call run (args + 1) wanted) run
      (w.dispatched method (slotBelow w args) g) f u) :
    Asks (fun run => callMethod run method args wanted) run w f u := by
  refine (Tracks.call roomy_any (args + 1) wanted).heeds.asks_of (fun {run e v} failed => ?_) asks
  rw [run_callMethod_ways _ method wanted held, handler]
  dsimp only
  rw [failed]
  rfl

/-- What the call of a field asks for, the method call asks for. -/
theorem asks_of_lookup (handler : w.namecallHandler? args = none)
    (asks : Asks (fun run => callLooked run method args wanted (slotBelow w args)
      (w.state.stack.getD (slotBelow w args) .nil)) run w f u) :
    Asks (fun run => callMethod run method args wanted) run w f u := by
  refine (Tracks.callLooked roomy_any method args wanted _ _).heeds.asks_of
    (fun {run e v} failed => ?_) asks
  rw [run_callMethod_ways _ method wanted held, handler]
  dsimp only
  rw [failed]

end Ways

/-- A method call keeps to a relation that leaves the state open. -/
theorem Tracks.callMethod {R : World → World → Prop} (roomy : Roomy R)
    (states : ∀ (w : World) (s : State), R w { w with state := s })
    (method : String) (args : Nat) (wanted : Option Nat) :
    Tracks R fun run => callMethod run method args wanted := by
  have calls := call roomy (args + 1) wanted
  have looks := callLooked roomy method args wanted
  refine ⟨fun run w u f asks e b => ?_, fun {run w u f} trusts asks => ?_, fun {run w} trusts => ?_⟩
  -- a handler is called in the name of the method, which is part of the state
  · obtain ⟨held, way⟩ := asks_callMethod asks
    rw [run_callMethod_ways _ method wanted held]
    split at way
    next g handler =>
      obtain ⟨e', v, failed, reported⟩ := calls.heeds way e b
      refine ⟨e', v.withNamecall w.state.namecall, ?_, reported⟩
      dsimp only at failed ⊢
      rw [failed]
    next handler => exact (looks _ _).heeds way e b
  · obtain ⟨held, way⟩ := asks_callMethod asks
    split at way
    next g handler =>
      exact roomy.trans (states w _)
        (calls.before (fun f u asks => trusts f u (asks_of_handler held handler asks)) way)
    next handler =>
      exact (looks _ _).before (fun f u asks => trusts f u (asks_of_lookup held handler asks)) way
  · by_cases held : args < w.state.top
    case neg =>
      rw [run_callMethod_refused _ method wanted held]
      exact roomy.refl w
    rw [run_callMethod_ways _ method wanted held]
    split
    next g handler =>
      have called := calls.after fun f u asks => trusts f u (asks_of_handler held handler asks)
      exact roomy.trans (states w _) (roomy.trans called (states _ _))
    next handler =>
      exact (looks _ _).after fun f u asks => trusts f u (asks_of_lookup held handler asks)

/-! ## Instructions -/

/-- Whether the instruction may get functions called in another way than as a method. -/
def Instr.mayCall : Instr → Bool
  | .call _ _ | .getField _ _ | .getGlobal _ | .index _ _ | .display _ | .equal _ _ => true
  | _ => false

/-- The instructions that get functions called do nothing besides but move values. -/
theorem Tracks.perform {R : World → World → Prop} (roomy : Roomy R) {i : Instr}
    (mayCall : i.mayCall = true) : Tracks R fun run => perform run i := by
  cases i
  all_goals dsimp only [ScriptM.perform]
  case call args results => exact (Tracks.call roomy args results).quietly roomy
  case getField index key => exact (Tracks.getField roomy index key).quietly roomy
  case getGlobal name => exact (Tracks.getGlobal roomy name).quietly roomy
  case index target key =>
    exact (Tracks.reads roomy fun _ => rfl).bind roomy fun key =>
      (Tracks.reads roomy fun _ => rfl).bind roomy fun target =>
        (Tracks.indexValue roomy target key).bind roomy fun v => .reads roomy fun _ => rfl
  case display index =>
    exact (Tracks.display roomy index).bind roomy fun _ => .reads roomy fun _ => rfl
  case equal index other =>
    exact (Tracks.equal roomy index other).bind roomy fun _ => .reads roomy fun _ => rfl
  all_goals cases mayCall

end ScriptBind
