import ScriptBind.Proofs.Session.Runs

/-!
# What every state of a session has

A session works in one state at a time and keeps the others as they were left. What a new state has,
and no elementary change takes away, all of them have between any two events.

Main results:

* `Everywhere.happen` — an event.
* `everywhere_after` — a run from the start.
-/

namespace ScriptBind

open ScriptM

namespace Session

/-- A property of states that new ones have and that elementary changes keep. -/
structure Lasting (P : State → Prop) : Prop where
  new (globals : TableId) (context : Option Context) : P { State.new globals with context }
  evolves {w v : World} (h : Evolves w v) (holds : P w.state) : P v.state

/-- The current state has the property, and so have the states that were left. -/
structure Everywhere (P : State → Prop) (s : Session) : Prop where
  current : P s.world.state
  states : ∀ state ∈ s.states, P state

theorem Lasting.withRuntime {P : State → Prop} (lasting : Lasting P) {w v : World} {setup : Setup}
    {host registry : Nat} (ready : w.withRuntime setup host registry = .ok v) : P v.state := by
  have opened := evolving_openLibraries setup (w.withContext host registry)
  rw [World.withRuntime_eq_ok.mp ready] at opened
  exact lasting.evolves opened (lasting.new _ _)

namespace Everywhere

variable {P : State → Prop} {s : Session} (holds : s.Everywhere P)
include holds

theorem updated : ∀ state ∈ s.states.setIfInBounds s.current s.world.state, P state := by
  intro state h
  rcases Array.mem_or_eq_of_mem_setIfInBounds h with known | rfl
  · exact holds.states state known
  · exact holds.current

theorem enter {w : World} (h : P w.state) : (s.enter w).Everywhere P := by
  refine ⟨h, fun state mem => ?_⟩
  rcases Array.mem_push.mp mem with known | rfl
  · exact holds.updated state known
  · exact h

theorem goTo (i : Nat) : (s.goTo i).Everywhere P := by
  unfold Session.goTo
  dsimp only
  split
  next state found => exact ⟨holds.updated state (Array.mem_of_getElem? found), holds.updated⟩
  next => exact holds

variable (lasting : Lasting P)
include lasting

theorem withWorld {w : World} (h : Evolves s.world w) : { s with world := w }.Everywhere P :=
  ⟨lasting.evolves h holds.current, holds.states⟩

/-- A state that is built is a new one, and nothing else happens to the others. -/
theorem setUp (setup : Setup) : (s.setUp setup).2.Everywhere P := by
  obtain ⟨_, ended⟩ | ⟨_, ended⟩ | ⟨_, _, _, _, _, -, ready, ended⟩ := s.setUp_cases setup
  · rwa [ended]
  · rw [ended]
    exact holds.withWorld lasting (setup.evolves_hosted s.world)
  · rw [ended]
    have entered := holds.enter (lasting.withRuntime ready)
    exact ⟨entered.current, entered.states⟩

theorem step (c : Command) : (s.step c).2.Everywhere P := by
  have performed : (s.perform c).2.Everywhere P := by
    cases c with
    | newState => exact holds.enter (lasting.new _ none)
    | use i => exact holds.goTo i
    | newRuntime setup => exact holds.setUp lasting setup
    | run i =>
      rw [perform_run]
      exact holds.withWorld lasting (evolves_exec i s.world)
  exact ⟨performed.current, performed.states⟩

theorem happen (e : Event) : (s.happen e).Everywhere P := by
  cases e with
  | command c => exact holds.step lasting c
  | access registry type name a =>
    unfold Session.happen
    dsimp only
    split
    next c declared =>
      exact holds.withWorld lasting (a.evolves (World.stands_of_declared? declared))
    next => exact holds

end Everywhere

/-- Between any two events, all states have what lasts. -/
theorem everywhere_after {P : State → Prop} (lasting : Lasting P) (es : List Event) :
    (after es).Everywhere P := by
  have start : start.Everywhere P :=
    ⟨lasting.new _ none, fun state h => by
      rw [Array.mem_singleton.mp h]
      exact lasting.new _ none⟩
  have step : ∀ (es : List Event) (s : Session), s.Everywhere P →
      (es.foldl happen s).Everywhere P := by
    intro es
    induction es with
    | nil => exact fun _ holds => holds
    | cons e rest ih => exact fun s holds => ih _ (holds.happen lasting e)
  exact step es _ start

end Session

end ScriptBind
