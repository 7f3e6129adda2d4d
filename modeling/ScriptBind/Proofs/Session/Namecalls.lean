import ScriptBind.Proofs.Session.States
import ScriptBind.Proofs.Session.Tracks

/-!
# The method call in progress

A handler that is called through `__namecall` learns the name of the method from a slot of the state.
The slot belongs to the innermost method call that goes through such a handler and is not over: a
method call fills it for its handler and restores it afterwards, and nothing else touches it.

Main results:

* `namecall_of_asks` — what is in the slot when an instruction gets a function called.
* `Includes.namecall_eq` — what is in it while the callers of a chain wait.
* `Session.namecall_slot` — what is in it at every moment of a run.
-/

namespace ScriptBind

open ScriptM

/-! ## Nothing else touches the slot -/

/-- Elementary changes leave the slot: a method call in progress has an end. -/
theorem Evolves.namecall_eq {w v : World} (h : Evolves w v) : v.state.namecall = w.state.namecall := by
  induction h with
  | trans _ _ ih ih' => exact ih'.trans ih
  | call _ _ _ _ ih => exact ih
  | _ => rfl

/-- The slots of two worlds hold the same. -/
def SameNamecall (w v : World) : Prop := v.state.namecall = w.state.namecall

theorem roomy_sameNamecall : Roomy SameNamecall where
  refl _ := rfl
  trans first second := Eq.trans second first
  moves _ _ _ := rfl

/-! ## What a caller puts there -/

/-- The name under which an instruction calls a handler of its receiver. -/
def Caller.method? (c : Caller) : Option String :=
  match c.instr with
  | .callMethod method args _ => (c.world.namecallHandler? args).map fun _ => method
  | _ => none

/-- A function that an instruction gets called finds the name of the method there if it is called as
the handler of a method call, and otherwise what its caller found. -/
theorem namecall_of_asks {i : Instr} {n : Nat} {w u : World} {f : FunctionId}
    (asks : Asks (fun run => perform run i) (runAt n) w f u) :
    u.state.namecall = (Caller.method? ⟨i, w⟩).or w.state.namecall := by
  -- what runs meanwhile leaves the slot
  have trusts {α : Type} {op : Runner → ScriptM α} {w : World} :
      Trusts SameNamecall op (runAt n) w := fun f u _ => (Evolving.runAt n f u).namecall_eq
  have roomy := roomy_sameNamecall
  cases i
  case callMethod method args results =>
    have asks : Asks (fun run => callMethod run method args results) (runAt n) w f u :=
      asks.of_bind.resolve_right fun ⟨_, _, _, asks⟩ => Asks.not_const _ asks
    obtain ⟨-, way⟩ := asks_callMethod asks
    unfold Caller.method?
    dsimp only
    split at way
    next g handler =>
      rw [handler]
      exact (Tracks.call roomy (args + 1) results).before trusts way
    next handler =>
      rw [handler]
      exact (Tracks.callLooked roomy method args results _ _).before trusts way
  all_goals first
    | exact (Tracks.perform roomy rfl).before trusts asks
    | exact absurd asks (Asks.not_const _)

/-- A method call leaves the slot as it found it. -/
theorem namecall_callMethod (n : Nat) (method : String) (args : Nat) (wanted : Option Nat)
    (w : World) : (callMethod (runAt n) method args wanted w).2.state.namecall = w.state.namecall :=
  ((Disciplined.callMethod method args wanted).evolving (Evolving.runAt n) w).namecall_eq

/-- The method of the innermost caller that has one. -/
def innermost (cs : List Caller) : Option String := (cs.filterMap Caller.method?).head?

theorem innermost_concat (cs : List Caller) (c : Caller) :
    innermost (cs ++ [c]) = (innermost cs).or c.method? := by
  unfold innermost
  rw [List.filterMap_append, List.head?_append]
  cases method : c.method? with
  | none => rw [List.filterMap_cons_none method]; rfl
  | some name => rw [List.filterMap_cons_some method]; rfl

/-- While callers wait, the slot holds the method of the innermost one that has one; without such a
caller it holds what it held at the start. -/
theorem Includes.namecall_eq {n m : Nat} {a b : Activity} {w x : World} {cs : List Caller}
    (h : Includes n a w cs m b x) : x.state.namecall = (innermost cs).or w.state.namecall := by
  have executed : ∀ n i, Evolving (exec (runAt n) i) := fun n i =>
    (Disciplined.exec i).evolving (Evolving.runAt n)
  -- on the way to the activity: what has ended has restored the slot, and only a call changes it
  induction h with
  | self => rfl
  | @function n m f g steps results quiet w x cs b known code _ ih =>
    rw [ih]
    cases quiet <;> rfl
  | bodyFirst _ ih => exact ih
  | @bodyRest n m i rest w u x cs b r ran _ _ ih =>
    rw [ih, ((executed n i).ran ran |>.trans (Evolving.log i.plain r u)).namecall_eq]
  | blockFirst _ ih => exact ih
  | @blockRest n m i rest w u x cs b r ran _ ih =>
    rw [ih, ((executed n i).ran ran |>.trans (Evolving.log i.plain (.ok r) u)).namecall_eq]
  | @repeated n m k count body w u x cs b _ ran _ ih =>
    have before : Evolves w.mute u :=
      (((Disciplined.execAll body).times k).evolving (Evolving.runAt n)).ran ran
    rw [ih, before.namecall_eq]
    rfl
  | attempt _ ih => exact ih
  | called asks _ ih => rw [ih, namecall_of_asks asks, innermost_concat, Option.or_assoc]

/-! ## In a run -/

namespace Session

theorem lasting_namecall : Lasting fun s => s.namecall = none where
  new _ _ := rfl
  evolves h holds := h.namecall_eq.trans holds

/-- At every moment of a run some chain of callers waits, and the slot holds the method of the
innermost of them that goes through a handler; it is empty when there is none. Whatever a method call
ends in, the slot is then what it was before. -/
theorem namecall_slot (es : List Event) :
    (∀ w, Moment es w ↔ ∃ cs, Under es cs w) ∧
      (∀ cs w, Under es cs w → w.state.namecall = innermost cs) ∧
      ∀ n method args wanted w,
        (callMethod (runAt n) method args wanted w).2.state.namecall = w.state.namecall := by
  have idle : ∀ before, (after before).world.state.namecall = none := fun before =>
    (everywhere_after lasting_namecall before).current
  refine ⟨fun w => moment_iff_under, fun cs w under => ?_, namecall_callMethod⟩
  -- the slot is empty before each command, so all that it holds comes from the callers
  have running : ∀ {before : List Event} {i : Instr} {m : Nat} {b : Activity} {x : World},
      Includes maxCallDepth (.instr i) (after before).world cs m b x →
        x.state.namecall = innermost cs := by
    intro before i m b x includes
    rw [includes.namecall_eq, idle before, Option.or_none]
  cases under with
  | between before rest split => exact idle before
  | starts split includes => exact running includes
  | @ends before rest i _ m b x split includes =>
    rw [(b.evolves m x).namecall_eq]
    exact running includes

/-- A table with a `__namecall` handler that asks for the name of the method. -/
def greeter : List Event :=
  [.command (.run .newTable), .command (.run .newTable),
    .command (.run (.pushFunction "handler" [.namecallName] 0 true [])),
    .command (.run (.setField (-2) "__namecall")), .command (.run (.setMetatable (-2)))]

/-- While the handler of a greeting runs, the slot holds its name. -/
theorem namecall_slot_greeting :
    ∃ cs w, Under (greeter ++ [.command (.run (.callMethod "greet" 0 (some 0)))]) cs w ∧
      w.state.namecall = some "greet" := by
  let w := (after greeter).world
  have handler : w.namecallHandler? 0 = some ⟨0⟩ := by decide +kernel
  have held : 0 < w.state.top := by decide +kernel
  let u := w.dispatched "greet" (slotBelow w 0) ⟨0⟩
  have callee : u.callee? (slotBelow u 1) = some (⟨0⟩, u) := rfl
  have called := asks_call (runAt maxCallDepth) (some 0) (by decide +kernel) (by decide +kernel)
    callee
  have asks : Asks (fun run => ScriptM.perform run (.callMethod "greet" 0 (some 0))) _ w _ _ :=
    (Tracks.callMethod roomy_any (fun _ _ => trivial) "greet" 0 (some 0)).heeds.asks_first
      (asks_of_handler held handler called)
  have under : Under (greeter ++ [.command (.run (.callMethod "greet" 0 (some 0)))]) _ _ :=
    .starts rfl (.called asks (.self ..))
  exact ⟨_, _, under, (namecall_slot _).2.1 _ _ under⟩

end Session

end ScriptBind
