import ScriptBind.Proofs.Session.CallContract
import ScriptBind.Proofs.Session.Runs

/-!
# Operations that leave the stack as it was

The operations that call handlers of metatables push a handler and its operands on the way, and the
handler may do anything above them. Whatever it does, and whether it fails, they leave the stack and
the frames of the caller as they found them: but for the value that a field is pushed as, and for
the results that a method call puts in place of the receiver and the arguments.

Main results:

* `answered` — a value that is called with a few others and asked for one result leaves just that,
  or nothing.
* `composites_keep` — `indexValue`, `equal`, `display`, `getField`, `getGlobal` and `callMethod`, at
  every moment of a run.
-/

namespace ScriptBind

namespace ScriptM

/-! ## How a call ends -/

namespace CallEnds

variable {run : Runner} {slot : Nat} {wanted : Option Nat} {w : World} {stack : List Value}

/-- A call that fails drops the function and the arguments. -/
theorem eq_of_error {e : ScriptError} (h : CallEnds run slot wanted w (.error e) stack) :
    stack = w.state.stack.take slot := by
  cases h <;> rfl

/-- A call that succeeds leaves results in place of the function and the arguments. -/
theorem eq_of_ok (h : CallEnds run slot wanted w (.ok ()) stack) :
    ∃ results, stack = w.state.stack.take slot ++ adjust results wanted := by
  cases h with
  | returned _ _ _ _ => exact ⟨_, rfl⟩

end CallEnds

/-! ## Asking a handler -/

variable {α : Type}

/-- A value that is pushed with its arguments, called, and asked for one result leaves just that,
or nothing at all when the call fails. -/
theorem answered (n : Nat) (callee : Value) (args : List Value) {w : World}
    (framed : w.state.Framed) :
    AddsOne w (call (runAt n) args.length (some 1)
      (w.withStack (w.state.stack ++ callee :: args))) := by
  let u := w.withStack (w.state.stack ++ callee :: args)
  have length : u.state.stack.length = w.state.stack.length + (args.length + 1) :=
    List.length_append
  have hslot : slotBelow u args.length = w.state.stack.length := by
    rw [slotBelow, length]
    omega
  have below : u.state.stack.take (slotBelow u args.length) = w.state.stack := by
    rw [hslot]
    exact List.take_left
  -- the frame starts below the callee
  have held : args.length < u.state.top := by
    have hbase : u.state.base ≤ w.state.stack.length := framed
    rw [State.top, length]
    omega
  have ends := call_ends n (some 1) held
  have frames : (call (runAt n) args.length (some 1) u).2.state.frames = w.state.frames :=
    ((Disciplined.call args.length (some 1)).evolving (Evolving.runAt n) u).frames_eq
  show AddsOne w (call (runAt n) args.length (some 1) u)
  generalize call (runAt n) args.length (some 1) u = ended at ends frames
  obtain ⟨r, v⟩ := ended
  cases r with
  | ok _ =>
    obtain ⟨results, stack⟩ := ends.eq_of_ok
    obtain ⟨x, single⟩ := List.length_eq_one_iff.mp (length_adjust results 1)
    exact ⟨frames, x, by rw [stack, below, single]⟩
  | error e => exact ⟨frames, ends.eq_of_error.trans below⟩

/-- A handler is asked for one result, which is taken. -/
theorem asked (n : Nat) (callee : Value) (args : List Value) {rest : ScriptM α} (h : Takes rest)
    {w : World} (framed : w.state.Framed) :
    Restored w ((call (runAt n) args.length (some 1) >>= fun _ => rest)
      (w.withStack (w.state.stack ++ callee :: args))).2 :=
  (answered n callee args framed).taken framed h

namespace Neutral

theorem ask_one (n : Nat) (callee a : Value) {rest : ScriptM α} (h : Takes rest) :
    Neutral (do
      push callee
      push a
      call (runAt n) 1 (some 1)
      rest) := by
  intro w framed
  rw [run_push_bind, run_push_bind]
  simp only [World.withStack, List.append_assoc, List.cons_append, List.nil_append]
  exact asked n callee [a] h framed

theorem ask_two (n : Nat) (callee a b : Value) {rest : ScriptM α} (h : Takes rest) :
    Neutral (do
      push callee
      push a
      push b
      call (runAt n) 2 (some 1)
      rest) := by
  intro w framed
  rw [run_push_bind, run_push_bind, run_push_bind]
  simp only [World.withStack, List.append_assoc, List.cons_append, List.nil_append]
  exact asked n callee [a, b] h framed

/-! ## Looking up, showing and comparing -/

theorem rawEntry (target key : Value) : Neutral (ScriptM.rawEntry target key) := by
  unfold ScriptM.rawEntry
  cases target with
  | table t =>
    dsimp only
    cases Key.ofValue key with
    | error e => exact throw e
    | ok k =>
      refine get.bind fun w => ?_
      split
      · exact pure _
      · exact pure _
  | _ => exact pure none

/-- The induction is on the links that may follow. -/
theorem indexChain (n : Nat) (key : Value) (fuel : Nat) (target : Value) :
    Neutral (ScriptM.indexChain (runAt n) key fuel target) := by
  induction fuel generalizing target with
  | zero => exact throw _
  | succ fuel ih =>
    refine (rawEntry target key).bind fun entry => ?_
    cases entry with
    | some v => exact pure v
    | none =>
      refine get.bind fun w => ?_
      -- without a handler the walk ends, a function is asked, and any other value is walked to
      cases w.metafield target "__index" with
      | none =>
        cases target with
        | table t => exact pure _
        | _ => exact throw _
      | some next =>
        cases next with
        | function f => exact ask_two n (.function f) target key .popValue
        | _ => exact ih _

theorem indexValue (n : Nat) (target key : Value) :
    Neutral (ScriptM.indexValue (runAt n) target key) :=
  indexChain n key maxIndexChain target

theorem display (n : Nat) (index : Int) : Neutral (ScriptM.display (runAt n) index) := by
  refine (query _).bind fun v => get.bind fun w => ?_
  have plain : Neutral (do return (← MonadState.get).plainText v : ScriptM String) :=
    get.bind fun _ => pure _
  cases w.metafield v "__tostring" with
  | none => exact plain
  | some handler =>
    cases handler with
    | function f =>
      refine ask_one n (.function f) v (.query fun text => .pop ?_)
      cases text with
      | some t => exact pure t
      | none => exact throw _
    | _ => exact plain

theorem equal (n : Nat) (index other : Int) : Neutral (ScriptM.equal (runAt n) index other) := by
  refine (query _).bind fun a => (query _).bind fun b => ?_
  refine ite (pure true) (ite (pure false) (get.bind fun w => ?_))
  split
  next f g _ _ =>
    exact ite (ask_two n (.function f) a b (.query fun r => .pop (pure r))) (pure false)
  next => exact pure false

end Neutral

/-! ## Fields -/

theorem pushes_getField (n : Nat) (index : Int) (key : String) :
    Pushes (getField (runAt n) index key) :=
  .after (.query _) fun target =>
    .after (Neutral.indexValue n target (.string key)) fun v => .push v

theorem pushes_getGlobal (n : Nat) (name : String) : Pushes (getGlobal (runAt n) name) :=
  .after .state fun s =>
    .after (Neutral.indexValue n (.table s.globals) (.string name)) fun v => .push v

/-! ## Methods -/

/-- What a method call of the receiver in `slot` ends in, and the stack that it leaves. -/
inductive MethodEnds (run : Runner) (slot : Nat) (method : String) (wanted : Option Nat)
    (w : World) : Except ScriptError Unit → List Value → Prop
  /-- The receiver's `__namecall` handler is called. -/
  | handled {f : FunctionId} {r : Except ScriptError Unit} {stack : List Value}
      (handler : w.metafield (w.state.stack.getD slot .nil) "__namecall" = some (.function f))
      (ends : CallEnds run slot wanted
        { w with
          state := { w.state.insertAt slot (.function f) with namecall := some method } } r stack) :
      MethodEnds run slot method wanted w r stack
  /-- The receiver's field is called. -/
  | field {function : Value} {v : World} {r : Except ScriptError Unit} {stack : List Value}
      (other : ∀ f, w.metafield (w.state.stack.getD slot .nil) "__namecall" ≠ some (.function f))
      (found : indexValue run (w.state.stack.getD slot .nil) (.string method) w =
        (.ok function, v))
      (ends : CallEnds run slot wanted { v with state := v.state.insertAt slot function } r stack) :
      MethodEnds run slot method wanted w r stack
  /-- The receiver's field cannot be looked up. -/
  | unknown {e : ScriptError} {v : World}
      (other : ∀ f, w.metafield (w.state.stack.getD slot .nil) "__namecall" ≠ some (.function f))
      (failed : indexValue run (w.state.stack.getD slot .nil) (.string method) w = (.error e, v)) :
      MethodEnds run slot method wanted w (.error e) (w.state.stack.take slot)

/-- A function put below a slot moves up what stands from there. -/
theorem take_insertAt {s : State} {slot : Nat} (high : slot ≤ s.stack.length) (v : Value) :
    (s.insertAt slot v).stack.take slot = s.stack.take slot :=
  List.take_left' (List.length_take_of_le high)

/-- A function put below the receiver has one more argument. -/
theorem slot_insertAt {s : State} {args slot : Nat} (low : s.base ≤ slot)
    (hslot : slot + (args + 1) = s.stack.length) (v : Value) :
    args + 1 < (s.insertAt slot v).top ∧
      (s.insertAt slot v).stack.length - (args + 1 + 1) = slot := by
  have length : (s.insertAt slot v).stack.length = s.stack.length + 1 := by
    simp only [State.insertAt, List.length_append, List.length_take, List.length_cons,
      List.length_drop]
    omega
  have htop : (s.insertAt slot v).top = (s.insertAt slot v).stack.length - s.base := rfl
  omega

/-- A function put below the receiver is called with the receiver as its first argument. -/
theorem call_ends_inserted (n : Nat) {args slot : Nat} (wanted : Option Nat) {w : World}
    (low : w.state.base ≤ slot) (hslot : slot + (args + 1) = w.state.stack.length) (v : Value) :
    let u := { w with state := w.state.insertAt slot v }
    CallEnds (runAt n) slot wanted u (call (runAt n) (args + 1) wanted u).1
      (call (runAt n) (args + 1) wanted u).2.state.stack := by
  intro u
  obtain ⟨held, here⟩ := slot_insertAt low hslot v
  have ends := call_ends n (w := u) wanted held
  rwa [show slotBelow u (args + 1) = slot from here] at ends

theorem callMethod_ends (n : Nat) (method : String) {args : Nat} (wanted : Option Nat) {w : World}
    (framed : w.state.Framed) (held : args < w.state.top) :
    MethodEnds (runAt n) (slotBelow w args) method wanted w
      (callMethod (runAt n) method args wanted w).1
      (callMethod (runAt n) method args wanted w).2.state.stack := by
  obtain ⟨low, high⟩ := State.slot_bounds held
  have hslot : slotBelow w args + (args + 1) = w.state.stack.length := by
    have below : slotBelow w args = w.state.stack.length - (args + 1) := rfl
    have htop : w.state.top ≤ w.state.stack.length := Nat.sub_le ..
    omega
  rw [run_callMethod, if_pos held]
  dsimp only
  rw [← slotBelow]
  split
  next f handler =>
    rw [run_duringNamecall, run_bind, run_modifyState]
    exact .handled handler
      (call_ends_inserted n (w := w.withNamecall (some method)) wanted low hslot (.function f))
  next other =>
    have other : ∀ f, w.metafield (w.state.stack.getD (slotBelow w args) .nil) "__namecall" ≠
        some (.function f) := fun f handler => other f handler
    -- the look-up has left the stack as it was, so the callee goes where the receiver stands
    have looked := Neutral.indexValue n (w.state.stack.getD (slotBelow w args) .nil)
      (.string method) w framed
    cases found : indexValue (runAt n) (w.state.stack.getD (slotBelow w args) .nil)
        (.string method) w with
    | mk r v =>
      rw [found] at looked
      cases r with
      | ok function =>
        refine .field other found (call_ends_inserted n wanted ?_ ?_ function)
        · show State.base _ ≤ _
          rw [State.base, looked.frames]
          exact low
        · rw [looked.stack]
          exact hslot
      | error e =>
        dsimp only [World.cutAt, State.truncate]
        rw [looked.stack]
        exact .unknown other found

/-- Results, as many as were wanted, stand in place of everything from `slot` upwards; after a
failure nothing does. -/
def Replaces (wanted : Option Nat) (slot : Nat) (w : World) :
    Except ScriptError Unit → List Value → Prop
  | .ok (), stack => ∃ results : List Value, (∀ k, wanted = some k → results.length = k) ∧
      stack = w.state.stack.take slot ++ results
  | .error _, stack => stack = w.state.stack.take slot

theorem CallEnds.replaces {run : Runner} {wanted : Option Nat} {slot : Nat} {w : World}
    {r : Except ScriptError Unit} {stack : List Value} (h : CallEnds run slot wanted w r stack) :
    Replaces wanted slot w r stack := by
  cases r with
  | ok _ =>
    obtain ⟨results, hstack⟩ := h.eq_of_ok
    refine ⟨adjust results wanted, ?_, hstack⟩
    rintro k rfl
    exact length_adjust results k
  | error e => exact h.eq_of_error

theorem MethodEnds.replaces {n slot : Nat} {method : String} {wanted : Option Nat} {w : World}
    {r : Except ScriptError Unit} {stack : List Value} (framed : w.state.Framed)
    (high : slot ≤ w.state.stack.length) (h : MethodEnds (runAt n) slot method wanted w r stack) :
    Replaces wanted slot w r stack := by
  -- what is called stands where the receiver stood
  have called : ∀ {u : World} (function : Value),
      u.state.stack = (w.state.insertAt slot function).stack →
      CallEnds (runAt n) slot wanted u r stack → Replaces wanted slot w r stack := by
    intro u function inserted ends
    have below : u.state.stack.take slot = w.state.stack.take slot := by
      rw [inserted]
      exact take_insertAt high function
    have replaces := ends.replaces
    cases r with
    | ok _ =>
      obtain ⟨results, wanted, hstack⟩ := replaces
      exact ⟨results, wanted, by rw [hstack, below]⟩
    | error e => exact Eq.trans replaces below
  cases h with
  | @handled f _ _ handler ends => exact called (.function f) rfl ends
  | @field function v _ _ other found ends =>
    have looked := Neutral.indexValue n (w.state.stack.getD slot .nil) (.string method) w framed
    rw [found] at looked
    refine called function ?_ ends
    dsimp only [State.insertAt]
    rw [looked.stack]
  | unknown other failed => rfl

/-! ## All of them -/

/-- What the composite operations leave of the stack and the frames of a world. -/
structure CompositesKeep (n : Nat) (w : World) : Prop where
  indexValue : ∀ target key, Restored w (ScriptM.indexValue (runAt n) target key w).2
  equal : ∀ index other, Restored w (ScriptM.equal (runAt n) index other w).2
  display : ∀ index, Restored w (ScriptM.display (runAt n) index w).2
  getField : ∀ index key, AddsOne w (ScriptM.getField (runAt n) index key w)
  getGlobal : ∀ name, AddsOne w (ScriptM.getGlobal (runAt n) name w)
  /-- Results stand in place of the receiver and the arguments, if the frame holds as many values;
  otherwise nothing changes. -/
  callMethod : ∀ method args wanted,
    let ended := ScriptM.callMethod (runAt n) method args wanted w
    if args < w.state.top then
      let slot := w.state.stack.length - (args + 1)
      MethodEnds (runAt n) slot method wanted w ended.1 ended.2.state.stack ∧
        Replaces wanted slot w ended.1 ended.2.state.stack ∧
        ended.2.state.frames = w.state.frames
    else ended = (.error (.invalidIndex (State.countIndex (args + 1))), w)

/-- At every moment of a run, and whatever the handlers of metatables do, the composite operations
leave the stack and the frames as they were, but for the value or the results that they are asked
for. -/
theorem composites_keep {es : List Session.Event} {w : World} (moment : Session.Moment es w)
    (n : Nat) : CompositesKeep n w where
  indexValue target key := Neutral.indexValue n target key w moment.framed
  equal index other := Neutral.equal n index other w moment.framed
  display index := Neutral.display n index w moment.framed
  getField index key := pushes_getField n index key w moment.framed
  getGlobal name := pushes_getGlobal n name w moment.framed
  callMethod := by
    intro method args wanted
    dsimp only
    split
    -- a call without a receiver is refused before anything happens
    next held =>
      have ends := callMethod_ends n method wanted moment.framed held
      have evolves := (Disciplined.callMethod method args wanted).evolving (Evolving.runAt n) w
      exact ⟨ends, ends.replaces moment.framed (Nat.le_of_lt (State.slot_bounds held).2),
        evolves.frames_eq⟩
    next refused => rw [run_callMethod, if_neg refused]

/-- After a value and a function have been pushed. -/
theorem composites_keep_pushed :
    let es : List Session.Event :=
      [.command (.run (.push (.number 1))),
        .command (.run (.pushFunction "f" [.raise "refused"] 0 false []))]
    Session.Moment es (Session.after es).world ∧
      CompositesKeep maxCallDepth (Session.after es).world :=
  ⟨.between _ [] (List.append_nil _).symm,
    composites_keep (.between _ [] (List.append_nil _).symm) maxCallDepth⟩

end ScriptM

end ScriptBind
