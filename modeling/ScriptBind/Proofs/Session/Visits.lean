import Mathlib.Data.List.Induction
import ScriptBind.Proofs.Session.Frozen

/-!
# Along the run of a session

A session has many states and works in one of them at a time. What holds from one world to the next
while the session works in a state, and is not disturbed by what happens in others, holds from any
moment to any later moment in the same state. `Session.Lasts` lists what has to be known of such a
relation: that it holds along runs of allowed instructions, and along the little that happens
besides.

Main results:

* `Session.Lasts.visits` — the relation along a run of a session.
-/

namespace ScriptBind

open ScriptM

/-- There is more, and nothing that there was is different: new tables and registries. -/
structure World.Extended (w v : World) : Prop where
  state : v.state = w.state
  userdata : v.userdata = w.userdata
  hosts : v.hosts = w.hosts
  functions : v.functions = w.functions
  spared (t : TableId) : Spares t w v
  registry {i : Nat} {r : Registry} (known : w.registries[i]? = some r) :
    v.registries[i]? = some r

theorem World.extended_of_tables {w v : World} (state : v.state = w.state)
    (userdata : v.userdata = w.userdata) (hosts : v.hosts = w.hosts)
    (functions : v.functions = w.functions) (registries : v.registries = w.registries)
    (tables : v.tables = w.tables ∨ v.tables = w.tables.push Table.empty) : w.Extended v where
  state := state
  userdata := userdata
  hosts := hosts
  functions := functions
  spared t := by
    rcases tables with same | more
    · exact .of_tables same
    · intro _
      rw [World.table, more]
      exact congrFun w.table_push_empty t
  registry known := by rwa [registries]

namespace Session

variable {s t : Session} {i : Nat}

/-! ## Other states -/

/-- The world as the state of a number meets it, be it the current state or one that was left. -/
def seen (s : Session) (i : Nat) : World :=
  { s.world with
    state := if s.current = i then s.world.state else s.states.getD i (State.new ⟨0⟩) }

theorem seen_current (s : Session) : s.seen s.current = s.world := by
  rw [seen, if_pos rfl]

/-- The current state has its place among the states, and there is a state of the number. -/
structure Has (s : Session) (i : Nat) : Prop where
  current : s.current < s.states.size
  known : i < s.states.size

/-- To go to another state changes nothing for the one that is left or for the others. -/
theorem seen_goTo (has : s.Has i) (j : Nat) : (s.goTo j).seen i = s.seen i ∧ (s.goTo j).Has i := by
  unfold goTo
  dsimp only
  split
  case h_2 => exact ⟨rfl, has⟩
  next state found =>
    have size : (s.states.setIfInBounds s.current s.world.state).size = s.states.size :=
      Array.size_setIfInBounds
    have bound := (Array.getElem?_eq_some_iff.mp found).1
    refine ⟨?_, bound, size ▸ has.known⟩
    -- the state of the number is now where it was put when it was left
    have put : (s.states.setIfInBounds s.current s.world.state).getD i (State.new ⟨0⟩) =
        if s.current = i then s.world.state else s.states.getD i (State.new ⟨0⟩) := by
      simp only [Array.getD_eq_getD_getElem?, Array.getElem?_setIfInBounds]
      split
      next here => simp [here, has.known]
      next => rfl
    unfold seen
    dsimp only
    rw [← put]
    split
    next here =>
      rw [here] at found
      simp [Array.getD_eq_getD_getElem?, found]
    next => rfl

/-- A new state is entered, and its world is the same for all others. -/
theorem seen_enter (has : s.Has i) (w : World) :
    (s.enter w).seen i = { w with state := (s.seen i).state } ∧ (s.enter w).Has i := by
  -- the new state is listed after all others, and those are put away before it is entered
  have apart : s.states.size ≠ i := Nat.ne_of_gt has.known
  refine ⟨?_, ?_, ?_⟩
  · unfold seen enter
    dsimp only
    rw [if_neg apart]
    simp only [Array.getD_eq_getD_getElem?, Array.getElem?_push, Array.size_setIfInBounds,
      if_neg apart.symm, Array.getElem?_setIfInBounds]
    split
    next here => simp [here, has.known]
    next => rfl
  · simp [enter]
  · have known := has.known
    simp [enter]
    omega

/-! ## What lasts -/

/-- The event brings no other host, and its instruction comes down to allowed ones. -/
def Event.Within (allowed : Instr → World → Prop) (e : Event) (w : World) : Prop :=
  (∀ j, e = .command (.run j) → Allows allowed maxCallDepth (.instr j) w) ∧
  ∀ setup plan, e = .command (.newRuntime setup) → setup.host ≠ some (.fresh plan)

/-- `s.Visits later t w`: the run of `later` from the session `s` is at one moment in the world `w`,
between two events or inside an instruction, after events that have made `t` of the session. -/
inductive Visits (s : Session) (later : List Event) : Session → World → Prop
  | between (mid rest : List Event) (split : later = mid ++ rest) :
      Visits s later (mid.foldl happen s) (mid.foldl happen s).world
  | within {mid rest : List Event} {j : Instr} {w : World}
      (split : later = mid ++ .command (.run j) :: rest)
      (passes : Passes maxCallDepth (.instr j) (mid.foldl happen s).world w) :
      Visits s later (mid.foldl happen s) w

/-- A relation that holds from a world to those that come after it, as long as all instructions are
allowed and no other host comes. -/
structure Lasts (R : World → World → Prop) (allowed : Instr → World → Prop) : Prop where
  trans {u v w : World} (first : R u v) (second : R v w) : R u w
  runs {n : Nat} {a : Activity} {w v : World} (passes : Passes n a w v)
    (calm : Allows allowed n a w) : R w v
  accesses {w : World} {registry : Nat} {type name : String} {c : Constant}
    (declared : w.declared? registry type name = some c) (a : Access) : R w (a.perform c w).2
  libraries (setup : Setup) (w : World) : R w (ScriptM.openLibraries setup w).2
  aside {w v : World} (extended : w.Extended v) : R w v
  /-- Things happen in another state, and the one that was left is taken up again. -/
  elsewhere {w v : World} (s : State) (there : R { w with state := s } v) :
    R w { v with state := w.state }

namespace Lasts

variable {R : World → World → Prop} {allowed : Instr → World → Prop} (lasts : Lasts R allowed)
include lasts

theorem refl (w : World) : R w w := lasts.aside ⟨rfl, rfl, rfl, rfl, fun _ _ => rfl, id⟩

/-- What happens in the current state happens elsewhere for the others. -/
theorem world {w : World} (holds : R s.world w) :
    R (s.seen i) ({ s with world := w }.seen i) := by
  unfold seen
  dsimp only
  split
  · exact holds
  · exact lasts.elsewhere s.world.state holds

/-- A new state has its own table of globals. -/
theorem withNewState (w : World) (p : State) :
    R { w with state := p } { w.withNewState with state := p } :=
  lasts.aside (World.extended_of_tables rfl rfl rfl rfl rfl (.inr rfl))

theorem withRuntime {w v : World} {setup : Setup} {host registry : Nat}
    (ready : w.withRuntime setup host registry = .ok v) (p : State) :
    R { w with state := p } { v with state := p } := by
  let r := w.withContext host registry
  have made : R { w with state := r.state } r := lasts.withNewState w r.state
  have opened := lasts.libraries setup r
  rw [World.withRuntime_eq_ok.mp ready] at opened
  exact lasts.elsewhere (w := { w with state := p }) r.state (lasts.trans made opened)

/-- A state with bindings to a host that is known already. -/
theorem setUp (has : s.Has i) {setup : Setup} (known : ∀ plan, setup.host ≠ some (.fresh plan)) :
    R (s.seen i) ((s.setUp setup).2.seen i) ∧ (s.setUp setup).2.Has i := by
  have hosted : setup.hosted s.world = s.world := by
    unfold Setup.hosted
    split
    · rfl
    next source host =>
      cases source with
      | existing h => rfl
      | fresh p => exact absurd host (known p)
  obtain ⟨_, ended⟩ | ⟨_, ended⟩ | ⟨_, _, v, x, _, enlists, ready, ended⟩ := s.setUp_cases setup
  · rw [ended]
    exact ⟨lasts.refl _, has⟩
  · rw [ended, hosted]
    exact ⟨lasts.refl _, has⟩
  · rw [hosted] at enlists
    have registry {i : Nat} {k : Registry} (known : s.world.registries[i]? = some k) :
        v.registries[i]? = some k := enlists.evolves.registry_known known
    obtain ⟨registries, rfl⟩ := enlists.exists_registries
    -- the registries come first, and then what the new state does with them
    have adopted (p : State) : R { s.world with state := p }
        { { s.world with registries } with state := p } :=
      lasts.aside ⟨rfl, rfl, rfl, rfl, fun _ => .of_tables rfl, registry⟩
    obtain ⟨seen, has⟩ := seen_enter has x
    rw [ended]
    refine ⟨?_, has.current, has.known⟩
    show R _ ((s.enter x).seen i)
    rw [seen]
    exact lasts.trans (adopted _) (lasts.withRuntime ready _)

theorem happen (has : s.Has i) {e : Event} (within : e.Within allowed s.world) :
    R (s.seen i) ((s.happen e).seen i) ∧ (s.happen e).Has i := by
  cases e with
  | command c =>
    have performed : R (s.seen i) ((s.perform c).2.seen i) ∧ (s.perform c).2.Has i := by
      cases c with
      | newState =>
        obtain ⟨seen, has⟩ := seen_enter has s.world.withNewState
        refine ⟨?_, has⟩
        show R _ ((s.enter s.world.withNewState).seen i)
        rw [seen]
        exact lasts.withNewState s.world _
      | use j =>
        obtain ⟨same, has⟩ := seen_goTo has j
        exact ⟨same ▸ lasts.refl _, has⟩
      | newRuntime setup => exact lasts.setUp has fun plan => within.2 setup plan rfl
      | run j =>
        rw [perform_run]
        exact ⟨lasts.world (lasts.runs (.finish maxCallDepth (.instr j) s.world) (within.1 j rfl)),
          has.current, has.known⟩
    -- after a command the log is given out, which is of no account
    obtain ⟨holds, has⟩ := performed
    have logged : R (s.perform c).2.world ({ (s.perform c).2.world with trace := #[] }.reportAll) :=
      lasts.aside (World.extended_of_tables rfl rfl rfl rfl rfl (.inl rfl))
    exact ⟨lasts.trans holds (lasts.world logged), has.current, has.known⟩
  | access registry type name a =>
    unfold Session.happen
    dsimp only
    split
    next c declared => exact ⟨lasts.world (lasts.accesses declared a), has.current, has.known⟩
    next => exact ⟨lasts.refl _, has⟩

/-- Whatever other states a run works in: at every moment in the state that it started in, the
relation holds from the world at the start. -/
theorem visits {later : List Event} {w : World} (here : s.current < s.states.size)
    (within : ∀ mid e rest, later = mid ++ e :: rest →
      e.Within allowed (mid.foldl Session.happen s).world)
    (visits : s.Visits later t w) (back : t.current = s.current) : R s.world w := by
  -- first the moments between events, as the state meets them
  have between : ∀ mid rest, later = mid ++ rest →
      R s.world ((mid.foldl Session.happen s).seen s.current) ∧
        (mid.foldl Session.happen s).Has s.current := by
    intro mid
    induction mid using List.reverseRecOn with
    | nil =>
      intro _ _
      rw [List.foldl_nil, seen_current]
      exact ⟨lasts.refl _, here, here⟩
    | append_singleton mid e ih =>
      intro rest split
      rw [List.append_assoc] at split
      obtain ⟨before, has⟩ := ih _ split
      obtain ⟨next, has⟩ := lasts.happen has (within mid e rest split)
      rw [List.foldl_concat]
      exact ⟨lasts.trans before next, has⟩
  cases visits with
  | between mid rest split =>
    have holds := (between mid rest split).1
    rwa [← back, seen_current] at holds
  | @within mid rest j _ split passes =>
    have holds := (between mid _ split).1
    rw [← back, seen_current] at holds
    exact lasts.trans holds (lasts.runs passes ((within mid _ rest split).1 j rfl))

end Lasts

end Session

end ScriptBind
