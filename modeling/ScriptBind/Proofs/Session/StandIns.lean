import ScriptBind.Proofs.Session.Frozen

/-!
# The hosts of a session

Every host that a session makes is a stand-in host: the reference engine with a few methods that
every type knows. Whatever runs, no host ever gets another engine.

An engine vouches for its receivers if it changes none of them together with an answer that is an
object it does not know itself. Stand-in hosts do, for the only method that changes its receiver
answers nil.

Main results:

* `StandIn.vouches`, `Host.vouches_reference` — the hosts that there are.
* `Session.Moment.vouches` — every host at every moment of a run.
-/

namespace ScriptBind

open ScriptM

/-! ## Engines that vouch for their receivers -/

/-- When the host answers a call with an object that it does not list, it has left the receiver as it
was. Scripts cannot be given such an answer, and the receiver has been written by then. -/
def Host.Vouches (h : Host) : Prop :=
  ∀ target method args id changed, h.engine.call target method args = (.ok (.object id), changed) →
    h.classes.object? id = none → changed = target

/-- The reference engine changes no receiver. -/
theorem Host.vouches_reference {h : Host} (engine : h.engine = Engine.reference) : h.Vouches := by
  intro target method args id changed answer _
  rw [engine] at answer
  exact (congrArg Prod.snd answer).symm

/-- A stand-in host turns a receiver into another value with one method only, which answers nil. -/
theorem StandIn.vouches {s : StandIn} {h : Host} (engine : h.engine = s.engine) : h.Vouches := by
  intro target method args id changed answer _
  rw [engine] at answer
  have answer : StandIn.call target method args = (.ok (.object id), changed) := answer
  unfold StandIn.call at answer
  split at answer
  · -- the method that writes to the receiver answers nil, which is no object
    cases answer
  · split at answer
    · exact (congrArg Prod.snd answer).symm
    · split at answer
      · cases answer
      · split at answer
        · cases answer
        · exact (congrArg Prod.snd answer).symm

/-! ## Hosts that are made -/

/-- All hosts are stand-in hosts. -/
def World.Staffed (w : World) : Prop := ∀ h ∈ w.hosts, ∃ s : StandIn, h.engine = s.engine

theorem World.Staffed.of_hosts {w v : World} (same : v.hosts = w.hosts) (staffed : w.Staffed) :
    v.Staffed :=
  fun h mem => staffed h (same ▸ mem)

/-- What is no host of a world counts as the reference engine. -/
theorem World.Staffed.vouches {w : World} (staffed : w.Staffed) (i : Nat) : (w.host i).Vouches := by
  rw [World.host, Array.getD_eq_getD_getElem?]
  cases known : w.hosts[i]? with
  | none => exact Host.vouches_reference rfl
  | some h =>
    obtain ⟨s, engine⟩ := staffed h (Array.mem_of_getElem? known)
    exact StandIn.vouches engine

instance : Spared World.Staffed where
  untouched := by
    intro w v same staffed h mem
    obtain ⟨k, known, engine⟩ := same.engines h mem
    exact engine ▸ staffed k known
  allocTable _ staffed := staffed
  changeTable s f _ := keeps_changeTable (fun _ _ staffed => staffed) s f
  lock _ _ staffed := staffed
  received := by
    intro w _ _ _ _ _ staffed
    unfold writeReceiver
    rw [run_bind, run_state]
    dsimp only
    cases w.state.toUserdata? 1 <;> exact staffed

theorem World.staffed_adoptHost {w : World} (staffed : w.Staffed) (source : HostSource) :
    (w.adoptHost source).2.Staffed := by
  cases source with
  | existing i => exact staffed
  | fresh plan =>
    intro h mem
    rcases Array.mem_push.mp mem with known | rfl
    · exact staffed h known
    · exact ⟨plan, rfl⟩

/-! ## Everything that runs -/

/-- Where all hosts are stand-in hosts, they still are. -/
def Staffs (w v : World) : Prop := w.Staffed → v.Staffed

theorem roomy_staffs : Roomy Staffs where
  refl _ staffed := staffed
  trans first second staffed := second (first staffed)
  moves _ _ _ staffed := staffed

theorem keeps_staffed_setMetatable (index : Int) :
    Keeps World.Staffed (ScriptM.setMetatable index) :=
  Sparing.setMetatable_any (fun _ _ _ staffed => staffed) index

/-- A host that is installed is one that is there or a stand-in host. -/
theorem keeps_staffed_install (api : Nat ⊕ Registry) (host : HostSource) :
    Keeps World.Staffed (ScriptM.install api host) := by
  intro w staffed
  have adopted : ((w.adoptRegistry api).2.adoptHost host).2.Staffed := by
    refine World.staffed_adoptHost ?_ host
    cases api <;> exact staffed
  exact adopted

theorem keeps_staffed_perform (run : Runner) {i : Instr} (calls : i.calls = false) :
    Keeps World.Staffed (ScriptM.perform run i) := by
  -- the instructions that do not spare everything: none of them gives a host another engine
  by_cases tags : ∃ index, i = .setMetatable index
  · obtain ⟨index, rfl⟩ := tags
    exact Sparing.quietly (keeps_staffed_setMetatable index)
  by_cases hosts : ∃ api plan, i = .install api (.fresh plan)
  · obtain ⟨api, plan, rfl⟩ := hosts
    dsimp only [ScriptM.perform]
    split
    · exact (keeps_staffed_install _ _).bind fun _ => .pure _
    · exact .throw _
  by_cases locks : ∃ index, i = .setReadonly index false
  · obtain ⟨index, rfl⟩ := locks
    exact Sparing.quietly ((Keeps.check _).bind fun _ _ staffed => staffed)
  · exact Sparing.perform run calls (fun index same => locks ⟨index, same⟩)
      (fun index same => tags ⟨index, same⟩) fun api plan same => hosts ⟨api, plan, same⟩

/-- Whatever an activity does, all hosts remain stand-in hosts. -/
theorem bounds_staffs : Bounds Staffs fun _ _ => True :=
  bounds_of_instrs roomy_staffs (fun _ _ hosts => World.Staffed.of_hosts hosts)
    (fun h w => Sparing.handler h w) (fun c w => Sparing.pushConstantAs .variant c w)
    fun calls run _ => keeps_staffed_perform run calls _

/-! ## Runs of a session -/

namespace Session

variable {s : Session} {w v : World}

theorem staffs_withRuntime {setup : Setup} {host registry : Nat}
    (ready : w.withRuntime setup host registry = .ok v) : Staffs w v := by
  intro staffed
  have opened := Sparing.openLibraries setup (P := World.Staffed) (w.withContext host registry) staffed
  rwa [World.withRuntime_eq_ok.mp ready] at opened

theorem staffs_setUp (setup : Setup) : Staffs s.world (s.setUp setup).2.world := by
  intro staffed
  have hosted : (setup.hosted s.world).Staffed := by
    unfold Setup.hosted
    split
    · exact staffed
    · exact World.staffed_adoptHost staffed _
  obtain ⟨_, ended⟩ | ⟨_, ended⟩ | ⟨_, _, _, _, _, enlists, ready, ended⟩ := s.setUp_cases setup
  · rwa [ended]
  · rwa [ended]
  · rw [ended]
    obtain ⟨registries, rfl⟩ := enlists.exists_registries
    exact staffs_withRuntime ready hosted

theorem staffs_perform (c : Command) : Staffs s.world (s.perform c).2.world := by
  cases c with
  | newState => exact fun staffed => staffed
  | use i =>
    show Staffs s.world (s.goTo i).world
    unfold Session.goTo
    dsimp only
    split <;> exact fun staffed => staffed
  | newRuntime setup => exact staffs_setUp setup
  | run i =>
    have allowed : Allows (fun _ _ => True) maxCallDepth (.instr i) s.world :=
      fun _ _ _ _ _ => trivial
    rw [world_perform_run]
    exact bounds_staffs.ended allowed

theorem staffs_happen (e : Event) : Staffs s.world (s.happen e).world := by
  cases e with
  | command c => exact staffs_perform c
  | access registry type name a =>
    unfold Session.happen
    dsimp only
    split
    next c _ => exact Sparing.access c a s.world
    next => exact fun staffed => staffed

theorem staffed_after (es : List Event) : (after es).world.Staffed := by
  induction es using List.reverseRecOn with
  | nil => exact fun h mem => absurd mem (Array.not_mem_empty h)
  | append_singleton es e ih =>
    rw [after_append]
    exact staffs_happen e ih

/-- At every moment of a run all hosts are stand-in hosts. -/
theorem Moment.staffed {es : List Event} (moment : Moment es w) : w.Staffed := by
  cases moment with
  | between before _ _ => exact staffed_after before
  | within _ passes => exact bounds_staffs.passes passes (fun _ _ _ _ _ => trivial) (staffed_after _)

theorem Moment.vouches {es : List Event} (moment : Moment es w) (i : Nat) : (w.host i).Vouches :=
  moment.staffed.vouches i

end Session

end ScriptBind
