import ScriptBind.Proofs.Session.Growth
import ScriptBind.Proofs.Session.SettingUp

/-!
# Runs of a session

A run is a list of events: commands, and accesses to the constants of a registry that a program makes
without a script. `Moment` lists the worlds that a run goes through: those between its events, and
those that an instruction passes, in the function bodies that it runs and however deep their calls
nest.

Main results:

* `Moment.proceeds_after` — a moment of a run lies before its end.
* `Moment.framed` — at every moment the running frame lies within the stack.
* `Moment.houses`, `Moment.rooted` — at every moment the metatables and the globals of the current
  state exist, and the globals are none of these metatables.
-/

namespace ScriptBind

open ScriptM

/-! ## Accesses -/

/-- How a program gets at a lazy constant. -/
inductive Access where
  /-- Pushes it in its script representation. -/
  | push
  /-- Pushes it as a value of a native type. -/
  | pushAs (type : NativeType)
  /-- Asks for its value, with a host at hand. -/
  | value (host : Nat)
  /-- Looks a name up in a library, as a script does: library and name are the arguments of the
  running frame. -/
  | lookup

namespace Access

/-- What an access does and answers. -/
def perform (c : Constant) : Access → ScriptM Reply
  | push => do return .count (← pushConstant c)
  | pushAs type => do return .count (← pushConstantAs type c)
  | value host => do return .variant (← granted (← constantOutcome c (pure host)))
  | lookup => do return .count (← builtinGlobalIndex)

/-- An access to a constant is made of elementary changes. -/
theorem evolves (a : Access) {c : Constant} {w : World} (stands : w.Stands c) :
    Evolves w (a.perform c w).2 := by
  cases a with
  | push =>
    exact .bind (Evolving.evolves_pushConstantAs .variant stands) fun _ v _ => Evolving.pure _ v
  | pushAs type =>
    exact .bind (Evolving.evolves_pushConstantAs type stands) fun _ v _ => Evolving.pure _ v
  | value host =>
    exact .bind (Evolving.evolves_constantOutcome (fun _ => rfl) stands) fun answer v _ =>
      (Evolving.granted answer).bind (fun _ => .pure _) v
  | lookup => exact Evolving.builtinGlobalIndex.bind (fun _ => .pure _) w

end Access

/-- The constant that a registry declares under a name for a builtin type. -/
def World.declared? (w : World) (registry : Nat) (type name : String) : Option Constant :=
  ((w.registry registry).builtin? type).bind fun b => Constant.declared? registry b name

/-- What a registry declares stands for itself. -/
theorem World.stands_of_declared? {w : World} {registry : Nat} {type name : String} {c : Constant}
    (h : w.declared? registry type name = some c) : w.Stands c := by
  obtain ⟨b, found, declared⟩ := Option.bind_eq_some_iff.mp h
  exact Evolving.stands_declared (List.mem_of_find?_eq_some found) declared

/-! ## Runs -/

namespace Session

/-- What happens in a run. -/
inductive Event where
  | command (c : Command)
  /-- An access to a constant that a registry declares, from the current state. -/
  | access (registry : Nat) (type name : String) (a : Access)

/-- The session after an event. -/
def happen (s : Session) : Event → Session
  | .command c => (s.step c).2
  | .access registry type name a =>
    match s.world.declared? registry type name with
    | some c => { s with world := (a.perform c s.world).2 }
    | none => s

/-- The session after a run from the start. -/
def after (es : List Event) : Session := es.foldl happen start

/-- A run goes on from where it has got to. -/
theorem after_append (es es' : List Event) : after (es ++ es') = es'.foldl happen (after es) :=
  List.foldl_append

/-! ## Instructions as commands -/

/-- An installation from a source that cannot be read fails before anything happens. -/
theorem exec_install (run : Runner) (api : ApiSource) (host : HostSource) :
    exec run (.install api host) =
      match api.load with
      | .ok api => (do return .count (← ScriptM.install api host) : ScriptM Reply)
      | .error e => throw (.runtime e.message) := rfl

/-- An instruction as a command changes the world, and nothing else of a session. A refused
installation fails in another way there, and changes nothing either way. -/
theorem perform_run (s : Session) (i : Instr) :
    (s.perform (.run i)).2 = { s with world := (exec runFunction i s.world).2 } := by
  -- the answer is put in other words, and the world is kept as it is
  have ran : ∀ act : ScriptM Reply, (s.ran act).2 = { s with world := (act s.world).2 } := by
    intro act
    unfold Session.ran
    split
    next reply w hw => rw [show act s.world = _ from hw]
    next e w hw => rw [show act s.world = _ from hw]
  cases i with
  | install api host =>
    rw [exec_install]
    show (s.install api host).2 = _
    unfold Session.install
    cases api.load with
    | error e => rfl
    | ok api => exact ran _
  | _ => exact ran _

/-- The world after a command is that after its instruction. -/
theorem world_perform_run (s : Session) (i : Instr) :
    (s.perform (.run i)).2.world = (exec runFunction i s.world).2 := by
  rw [perform_run]

/-- An instruction is made of elementary changes, as all functions are. -/
theorem evolves_exec (i : Instr) (w : World) : Evolves w (exec runFunction i w).2 :=
  (Disciplined.exec i).evolving Evolving.runFunction w

/-! ## Setting up a state -/

/-- The groups that a setup asks for are opened by elementary changes. -/
theorem evolving_openLibraries (setup : Setup) : Evolving (openLibraries setup) := by
  refine Evolving.optional Evolving.openBuiltins.discard fun _ => ?_
  refine Evolving.optional Evolving.openClasses.discard fun _ => ?_
  exact .ite Evolving.openEnums.discard (.pure ())

/-- A new state takes a new table for its globals. -/
theorem proceeds_newState (w : World) : Proceeds w w.withNewState :=
  (Proceeds.evolves (.newTable w)).trans (.state _ _)

/-- In the state `s` no function is running, its metatables and its globals exist, and the globals
are no metatable. -/
structure Rests (w : World) (s : State) : Prop where
  frames : s.frames = []
  houses : w.Houses s
  rooted : w.Rooted s

/-- A state at rest stays so while other things happen. -/
theorem Rests.mono {w v : World} {s : State} (h : Rests w s) (later : Proceeds w v) : Rests v s :=
  ⟨h.frames, h.houses.mono later.leads.size_tables, h.rooted.mono later.leads.size_tables⟩

/-- Elementary changes leave no function running. -/
theorem Rests.evolves {w v : World} (rests : Rests w w.state) (h : Evolves w v) :
    Rests v v.state where
  frames := h.frames_eq.trans rests.frames
  houses := h.houses rests.houses
  rooted := h.rooted rests.rooted

/-- A new state is at rest. -/
theorem rests_withNewState (w : World) : Rests w.withNewState w.withNewState.state :=
  ⟨rfl, .new _, .new (by simp [World.withNewState])⟩

/-- A state with bindings starts from an empty one. -/
theorem proceeds_withRuntime {w v : World} {setup : Setup} {host registry : Nat}
    (ready : w.withRuntime setup host registry = .ok v) : Proceeds w v ∧ Rests v v.state := by
  have opened := evolving_openLibraries setup (w.withContext host registry)
  rw [World.withRuntime_eq_ok.mp ready] at opened
  -- the libraries are opened in the new state, in which no function runs
  have empty := rests_withNewState w
  refine ⟨((proceeds_newState w).trans (.state _ _)).trans (.evolves opened),
    Rests.evolves ?_ opened⟩
  exact ⟨empty.frames, empty.houses, empty.rooted⟩

/-! ## Between events -/

/-- All states of a session are at rest. -/
structure Idle (s : Session) : Prop where
  current : Rests s.world s.world.state
  states : ∀ state ∈ s.states, Rests s.world state

namespace Idle

variable {s : Session}

/-- The states are at rest when the current one is put back among them. -/
theorem updated (idle : s.Idle) :
    ∀ state ∈ s.states.setIfInBounds s.current s.world.state, Rests s.world state := by
  intro state h
  rcases Array.mem_or_eq_of_mem_setIfInBounds h with known | rfl
  · exact idle.states state known
  · exact idle.current

/-- The world may change as long as no function is left running. -/
theorem withWorld (idle : s.Idle) {w : World} (h : Evolves s.world w) :
    { s with world := w }.Idle :=
  ⟨idle.current.evolves h, fun state known => (idle.states state known).mono (.evolves h)⟩

/-- A new state becomes the current one. -/
theorem enter (idle : s.Idle) {w : World} (later : Proceeds s.world w) (h : Rests w w.state) :
    (s.enter w).Idle := by
  refine ⟨h, fun state mem => ?_⟩
  rcases Array.mem_push.mp mem with known | rfl
  · exact (idle.updated state known).mono later
  · exact h

/-- Another state becomes the current one, if there is one of the number. -/
theorem goTo (idle : s.Idle) (i : Nat) : (s.goTo i).Idle ∧ Proceeds s.world (s.goTo i).world := by
  unfold Session.goTo
  dsimp only
  split
  next state found =>
    -- the tables are those of the world that is left
    have states := fun state known => (idle.updated state known).mono (.state s.world state)
    exact ⟨⟨states state (Array.mem_of_getElem? found), fun other known =>
      (idle.updated other known).mono (.state s.world state)⟩, .state _ _⟩
  next => exact ⟨idle, .refl _⟩

/-- What is built replaces the session, and only the host stays when nothing is. -/
theorem setUp (idle : s.Idle) (setup : Setup) :
    (s.setUp setup).2.Idle ∧ Proceeds s.world (s.setUp setup).2.world := by
  have hosted := setup.evolves_hosted s.world
  obtain ⟨_, ended⟩ | ⟨_, ended⟩ | ⟨_, _, _, _, _, enlists, ready, ended⟩ := s.setUp_cases setup
  · rw [ended]
    exact ⟨idle, .refl _⟩
  · rw [ended]
    exact ⟨idle.withWorld hosted, .evolves hosted⟩
  · rw [ended]
    obtain ⟨proceeds, rests⟩ := proceeds_withRuntime ready
    have proceeds := (Proceeds.evolves (hosted.trans enlists.evolves)).trans proceeds
    have entered := idle.enter proceeds rests
    exact ⟨⟨entered.current, entered.states⟩, proceeds⟩

/-- A command leaves all states at rest. -/
theorem perform (idle : s.Idle) (c : Command) :
    (s.perform c).2.Idle ∧ Proceeds s.world (s.perform c).2.world := by
  cases c with
  | newState => exact ⟨idle.enter (proceeds_newState _) (rests_withNewState _), proceeds_newState _⟩
  | use i => exact idle.goTo i
  | newRuntime setup => exact idle.setUp setup
  | run i =>
    rw [perform_run]
    exact ⟨idle.withWorld (evolves_exec i s.world), .evolves (evolves_exec i s.world)⟩

/-- A command leaves all states at rest once it has been logged. -/
theorem step (idle : s.Idle) (c : Command) :
    (s.step c).2.Idle ∧ Proceeds s.world (s.step c).2.world := by
  obtain ⟨done, proceeds⟩ := idle.perform c
  have logged := Evolves.log (s.perform c).2.world (s.perform c).2.world.requests.size
    (s.perform c).2.world.muted #[]
  exact ⟨done.withWorld logged, proceeds.trans (.evolves logged)⟩

/-- An event leaves all states at rest. -/
theorem happen (idle : s.Idle) (e : Event) :
    (s.happen e).Idle ∧ Proceeds s.world (s.happen e).world := by
  cases e with
  | command c => exact idle.step c
  | access registry type name a =>
    unfold Session.happen
    dsimp only
    split
    next c declared =>
      have evolves := a.evolves (World.stands_of_declared? declared)
      exact ⟨idle.withWorld evolves, .evolves evolves⟩
    next => exact ⟨idle, .refl _⟩

/-- A run leaves all states at rest. The induction is on its events. -/
theorem foldl (idle : s.Idle) (es : List Event) :
    (es.foldl Session.happen s).Idle ∧ Proceeds s.world (es.foldl Session.happen s).world := by
  induction es generalizing s with
  | nil => exact ⟨idle, .refl _⟩
  | cons e rest ih =>
    obtain ⟨idle', proceeds⟩ := idle.happen e
    obtain ⟨done, proceeds'⟩ := ih idle'
    exact ⟨done, proceeds.trans proceeds'⟩

end Idle

/-- At the start there is one state, and it is at rest. -/
theorem idle_start : start.Idle := by
  refine ⟨⟨rfl, .new _, .new Nat.zero_lt_one⟩, fun state h => ?_⟩
  rw [Array.mem_singleton.mp h]
  exact ⟨rfl, .new _, .new Nat.zero_lt_one⟩

/-- After a run all states are at rest. -/
theorem idle_after (es : List Event) : (after es).Idle := (idle_start.foldl es).1

/-- What has been done in a run is followed by what is done in the rest. -/
theorem proceeds_after (es rest : List Event) : Proceeds (after es).world (after (es ++ rest)).world := by
  rw [after_append]
  exact ((idle_after es).foldl rest).2

/-- An instruction of a run is done before the run is. -/
theorem proceeds_run (es : List Event) (i : Instr) (rest : List Event) :
    Proceeds (exec runFunction i (after es).world).2
      (after (es ++ .command (.run i) :: rest)).world := by
  obtain ⟨idle, -⟩ := (idle_after es).step (.run i)
  have stepped : Proceeds (exec runFunction i (after es).world).2
      ((after es).step (.run i)).2.world := by
    rw [← world_perform_run]
    exact .evolves (.log _ _ _ _)
  rw [after_append]
  exact stepped.trans (idle.foldl rest).2

/-! ## Moments -/

/-- `Moment es w`: the run of `es` is at one moment in the world `w`, between two events or inside
an instruction. -/
inductive Moment (es : List Event) : World → Prop
  | between (before rest : List Event) (split : es = before ++ rest) :
      Moment es (after before).world
  | within {before rest : List Event} {i : Instr} {w : World}
      (split : es = before ++ .command (.run i) :: rest)
      (passes : Passes maxCallDepth (.instr i) (after before).world w) : Moment es w

namespace Moment

variable {es : List Event} {w : World}

/-- The end of a run is a moment of it. -/
theorem last (es : List Event) : Moment es (after es).world :=
  .between es [] (List.append_nil es).symm

/-- A moment comes after the start. -/
theorem proceeds (h : Moment es w) : Proceeds start.world w := by
  cases h with
  | between before rest split => exact proceeds_after [] before
  | @within before rest i w split passes => exact (proceeds_after [] before).trans passes.proceeds

/-- A moment comes before the end. -/
theorem proceeds_after (h : Moment es w) : Proceeds w (after es).world := by
  cases h with
  | between before rest split =>
    rw [split]
    exact Session.proceeds_after before rest
  | @within before rest i w split passes =>
    rw [split]
    exact passes.proceeds_after.trans (proceeds_run before i rest)

/-- The running frame starts within the stack. -/
theorem framed (h : Moment es w) : w.state.Framed := by
  have idle : ∀ before, (after before).world.state.Framed := fun before => by
    show State.base _ ≤ _
    rw [State.base, (idle_after before).current.frames]
    exact Nat.zero_le _
  cases h with
  | between before rest split => exact idle before
  | @within before rest i w split passes => exact passes.forward.framed (idle before)

/-- The metatables of the current state exist. -/
theorem houses (h : Moment es w) : w.Houses w.state := by
  have idle := fun before => (idle_after before).current.houses
  cases h with
  | between before rest split => exact idle before
  | @within before rest i w split passes => exact passes.forward.houses (idle before)

/-- The globals of the current state exist, and are no metatable that it has registered. -/
theorem rooted (h : Moment es w) : w.Rooted w.state := by
  have idle := fun before => (idle_after before).current.rooted
  cases h with
  | between before rest split => exact idle before
  | @within before rest i w split passes => exact passes.forward.rooted (idle before)

end Moment

end Session

end ScriptBind
