import ScriptBind.Proofs.Session.Conversions
import ScriptBind.Proofs.Session.Visits

/-!
# Values stay what they are

A userdata that carries an engine value keeps it, and its metatable, however long the run goes on.
Only two things could take them away. An instruction may give the userdata another metatable, and a
host may leave another receiver behind when one of its methods is called. The reference engine
leaves every receiver as it was.

Which metatable stands for a type does not change either: a name that is registered in a state is
never registered again.

`Onward u w v` is the order in which worlds follow one another as long as no instruction tags the
userdata anew and no other host comes. It does not say that everything it allows does happen, so it
is the stronger to hold along it; that whatever happens in a session goes onward is
`Session.onward_visits`.

Main results:

* `bounds_retains` — the steps of a run leave a userdata its value and its metatable.
* `Onward.retains`, `Onward.named` — what goes onward takes no value, no metatable and no name away.
* `Session.onward_visits` — a run of a session goes onward, in whatever states it works meanwhile.
-/

namespace ScriptBind

open ScriptM

/-! ## The reference engine -/

/-- All hosts are the reference engine. -/
def World.Referential (w : World) : Prop := ∀ h ∈ w.hosts, h.engine = Engine.reference

namespace World.Referential

variable {w : World}

/-- A host that is not known is the reference engine anyway. -/
theorem engine (referential : w.Referential) (host : Nat) :
    (w.host host).engine = Engine.reference := by
  rw [World.host, Array.getD_eq_getD_getElem?]
  cases known : w.hosts[host]? with
  | none => rfl
  | some h => exact referential h (Array.mem_of_getElem? known)

/-- The reference engine leaves the receiver that it was given, so that the userdata which carried
it is written what it carries. -/
theorem writeReceiver (referential : w.Referential) {target : Variant}
    (found : w.anyBuiltinAt? 1 = some target) (host : Nat) (method : String)
    (args : List Variant) :
    (ScriptM.writeReceiver ((w.host host).engine.call target method args).2 w).2 = w := by
  have left : ((w.host host).engine.call target method args).2 = target := by
    rw [referential.engine]
    rfl
  obtain ⟨u, tested, payload⟩ := World.anyBuiltinAt?_eq_some.mp found
  obtain ⟨held, -⟩ := World.testUserdata?_eq_some.mp tested
  -- the first argument carries the very value that is written
  have same : w.userdata.modify u.index (fun old => { old with payload := .variant target }) =
      w.userdata := by
    refine Array.ext_getElem? fun i => ?_
    rw [Array.getElem?_modify]
    split
    next here =>
      subst here
      rw [World.userdatum, Array.getD_eq_getD_getElem?] at payload
      cases known : w.userdata[u.index]? with
      | none => rfl
      | some d =>
        rw [known] at payload
        have payload : d.payload = .variant target := payload
        rw [← payload]
        rfl
    next => rfl
  rw [left, ScriptM.writeReceiver, run_bind, run_state]
  dsimp only
  rw [State.toUserdata?_eq_some.mpr held]
  exact congrArg (fun userdata => { w with userdata }) same

end World.Referential

/-! ## Holding a value -/

/-- A userdata carries an engine value and has a metatable, and all hosts are the reference
engine. -/
structure World.Holding (u : UserdataId) (x : Variant) (mt : Option TableId) (w : World) :
    Prop where
  entry : w.userdata[u.index]? = some ⟨.variant x, mt⟩
  engines : ∀ h ∈ w.hosts, h.engine = Engine.reference

namespace World.Holding

variable {u : UserdataId} {x : Variant} {mt : Option TableId} {w : World}

/-- Another userdata may change. -/
theorem modify (holding : w.Holding u x mt) {k : UserdataId} (other : k ≠ u)
    (f : Userdata → Userdata) : (ScriptM.modifyUserdata k f w).2.Holding u x mt := by
  refine ⟨(Array.getElem?_modify ..).trans ?_, holding.engines⟩
  rw [if_neg fun here => other (congrArg UserdataId.mk here)]
  exact holding.entry

instance : Spared (World.Holding u x mt) where
  untouched := by
    intro w v same holding
    refine ⟨same.values _ _ nofun holding.entry, fun h mem => ?_⟩
    obtain ⟨k, known, engine⟩ := same.engines h mem
    exact engine.trans (holding.engines k known)
  allocTable _ holding := ⟨holding.entry, holding.engines⟩
  changeTable s f _ := keeps_changeTable (fun _ _ holding => ⟨holding.entry, holding.engines⟩) s f
  lock _ _ holding := ⟨holding.entry, holding.engines⟩
  received found host method args holding := by
    rwa [World.Referential.writeReceiver holding.engines found]

/-- A value other than the userdata may get another metatable. -/
theorem setMetatable {index : Int} (other : w.state.valueOrNil index ≠ .userdata u)
    (holding : w.Holding u x mt) : (ScriptM.setMetatable index w).2.Holding u x mt := by
  by_cases tags : ∃ k, w.state.valueOrNil index = .userdata k
  case neg => exact Sparing.setMetatable (fun k same => tags ⟨k, same⟩) holding
  obtain ⟨k, target⟩ := tags
  have apart : k ≠ u := fun same => other (same ▸ target)
  have attached : ∀ t, Keeps (World.Holding u x mt) (attach (.userdata k) t) :=
    fun _ _ holding => holding.modify apart _
  rw [run_setMetatable, target]
  exact Sparing.popValue.bind (keeps_attachPopped attached) w holding

end World.Holding

/-! ## Instructions -/

/-- The instruction gives a userdata another metatable, or brings another host. -/
def Instr.Disturbs (i : Instr) (w : World) (u : UserdataId) : Prop :=
  (∃ index, i = .setMetatable index ∧ w.state.valueOrNil index = .userdata u) ∨
    ∃ api plan, i = .install api (.fresh plan)

theorem Instr.not_disturbs {i : Instr} {w : World} {u : UserdataId}
    (tags : ∀ index, i ≠ .setMetatable index) (hosts : ∀ api plan, i ≠ .install api (.fresh plan)) :
    ¬ i.Disturbs w u := by
  rintro (⟨index, same, -⟩ | ⟨api, plan, same⟩)
  · exact tags index same
  · exact hosts api plan same

/-- An instruction that calls no function and holds no others includes only itself. -/
theorem Instr.allows_alone {P : Instr → World → Prop} {n : Nat} {i : Instr} {w : World}
    (calls : i.calls = false) (single : ∀ count body, i ≠ .repeated count body)
    (counts : ∀ j, i ≠ .attempt j) (allowed : P i w) : Allows P n (.instr i) w := by
  intro cs m j x includes
  cases includes with
  | self => exact allowed
  | repeated _ _ _ => exact absurd rfl (single _ _)
  | attempt _ => exact absurd rfl (counts _)
  | called asks _ => exact absurd asks (Instr.not_asks calls)

/-- What the userdata holds it still holds. -/
def Retains (u : UserdataId) (w v : World) : Prop :=
  ∀ x mt, w.Holding u x mt → v.Holding u x mt

variable {u : UserdataId} {w v : World}

theorem Retains.of_keeps {α : Type} {act : ScriptM α}
    (keeps : ∀ x mt, Keeps (World.Holding u x mt) act) (w : World) : Retains u w (act w).2 :=
  fun x mt holding => keeps x mt w holding

theorem Retains.of_eq (userdata : v.userdata = w.userdata) (hosts : v.hosts = w.hosts) :
    Retains u w v :=
  fun _ _ holding => ⟨userdata ▸ holding.entry, hosts ▸ holding.engines⟩

theorem roomy_retains (u : UserdataId) : Roomy (Retains u) where
  refl _ _ _ holding := holding
  trans first second x mt holding := second x mt (first x mt holding)
  moves _ _ _ := .of_eq rfl rfl

/-- An instruction that calls no function leaves the userdata what it holds. -/
theorem Instr.retains {i : Instr} (calls : i.calls = false) (run : Runner)
    (calm : ¬ i.Disturbs w u) : Retains u w (perform run i w).2 := by
  by_cases tags : ∃ index, i = .setMetatable index
  · -- another value gets a metatable
    obtain ⟨index, rfl⟩ := tags
    intro x mt holding
    have other : w.state.valueOrNil index ≠ .userdata u :=
      fun same => calm (.inl ⟨index, rfl, same⟩)
    exact Keeps.bind_ok (holding.setMetatable other) fun _ _ _ kept => kept
  by_cases locks : ∃ index, i = .setReadonly index false
  · -- a lock is taken away, and that concerns no userdata
    obtain ⟨index, rfl⟩ := locks
    refine .of_keeps (fun x mt => Sparing.quietly ((Keeps.check _).bind fun s => ?_)) w
    exact fun _ holding => ⟨holding.entry, holding.engines⟩
  · exact .of_keeps (fun x mt => Sparing.perform run calls (fun index same => locks ⟨index, same⟩)
      (fun index same => tags ⟨index, same⟩)
      fun api plan same => calm (.inr ⟨api, plan, same⟩)) w

/-- The steps of a run leave a userdata what it holds. -/
theorem bounds_retains (u : UserdataId) : Bounds (Retains u) fun i w => ¬ i.Disturbs w u := by
  refine bounds_of_instrs (roomy_retains u) (fun _ userdata hosts => .of_eq userdata hosts) ?_ ?_ ?_
  · exact fun h w => .of_keeps (fun _ _ => Sparing.handler h) w
  · exact fun c w => .of_keeps (fun _ _ => Sparing.pushConstantAs .variant c) w
  · exact fun calls run calm => Instr.retains calls run calm

/-! ## Going onward -/

/-- `Onward u w v`: what happens from `w` on may lead to `v`, as far as no instruction gives the
userdata `u` another metatable and no other host comes. -/
inductive Onward (u : UserdataId) : World → World → Prop
  /-- Whatever runs, at any of its moments. -/
  | runs {n : Nat} {a : Activity} {w v : World} (passes : Passes n a w v)
      (calm : Allows (fun i x => ¬ i.Disturbs x u) n a w) : Onward u w v
  /-- A program accesses a constant. -/
  | accesses {w : World} {registry : Nat} {type name : String} {c : Constant}
      (declared : w.declared? registry type name = some c) (a : Access) :
      Onward u w (a.perform c w).2
  /-- What concerns neither userdata nor hosts nor the names of metatables: calls and returns, the
  log, new tables and registries. -/
  | aside {w v : World} (userdata : v.userdata = w.userdata) (hosts : v.hosts = w.hosts)
      (metatables : v.state.metatables = w.state.metatables) : Onward u w v
  /-- Things happen in another state, and the one that was left is taken up again. -/
  | elsewhere {w v : World} (s : State) (there : Onward u { w with state := s } v) :
      Onward u w { v with state := w.state }
  | trans {w x v : World} (first : Onward u w x) (second : Onward u x v) : Onward u w v

namespace Onward

theorem refl (w : World) : Onward u w w := .aside rfl rfl rfl

/-- The userdata holds what it held. -/
theorem retains (onward : Onward u w v) : Retains u w v := by
  induction onward with
  | runs passes calm => exact (bounds_retains u).passes passes calm
  | @accesses w _ _ _ c _ a => exact .of_keeps (fun _ _ => Sparing.access c a) w
  | aside userdata hosts _ => exact .of_eq userdata hosts
  | elsewhere s _ ih =>
    intro x mt holding
    have kept := ih x mt ⟨holding.entry, holding.engines⟩
    exact ⟨kept.entry, kept.engines⟩
  | trans _ _ ih ih' => exact (roomy_retains u).trans ih ih'

/-- What is registered stays registered. -/
theorem named (onward : Onward u w v) {name : String} {mt : TableId}
    (registered : w.metatableNamed name = some mt) : v.metatableNamed name = some mt := by
  induction onward with
  | runs passes _ => exact passes.forward.metatable_kept registered
  | accesses declared a =>
    exact (a.evolves (World.stands_of_declared? declared)).metatable_kept registered
  | @aside w v _ _ metatables =>
    rw [World.metatableNamed, metatables]
    exact registered
  | elsewhere _ _ _ => exact registered
  | trans _ _ ih ih' => exact ih' (ih registered)

/-- An instruction that calls no function, holds no others and disturbs nothing. -/
theorem instr {i : Instr} (w : World) (calls : i.calls = false)
    (single : ∀ count body, i ≠ .repeated count body) (counts : ∀ j, i ≠ .attempt j)
    (calm : ¬ i.Disturbs w u) : Onward u w (exec runFunction i w).2 :=
  .runs (.finish maxCallDepth (.instr i) w) (Instr.allows_alone calls single counts calm)

/-- An operation that an instruction answers with is done when the instruction is. -/
theorem discard {i : Instr} {act : ScriptM Nat}
    (same : exec runFunction i = (do return .count (← act)))
    (onward : ∀ w, Onward u w (exec runFunction i w).2) :
    Keeps (Onward u w) (Functor.discard act) := by
  intro v before
  refine before.trans ?_
  have onward := onward v
  rw [same, run_bind] at onward
  rw [run_discard]
  generalize act v = ended at onward ⊢
  obtain ⟨r, x⟩ := ended
  cases r <;> exact onward

/-- The groups of libraries are opened one after the other. -/
theorem openLibraries (setup : Setup) (w : World) :
    Onward u w (ScriptM.openLibraries setup w).2 := by
  have builtins : Keeps (Onward u w) (Functor.discard openBuiltins) :=
    discard (i := .openBuiltins) rfl fun w =>
      instr w rfl nofun nofun (Instr.not_disturbs nofun nofun)
  have classes : Keeps (Onward u w) (Functor.discard openClasses) :=
    discard (i := .openClasses) rfl fun w =>
      instr w rfl nofun nofun (Instr.not_disturbs nofun nofun)
  have enums : Keeps (Onward u w) (Functor.discard openEnums) :=
    discard (i := .openEnums) rfl fun w =>
      instr w rfl nofun nofun (Instr.not_disturbs nofun nofun)
  have libraries : Keeps (Onward u w) (ScriptM.openLibraries setup) :=
    .optional builtins fun _ => .optional classes fun _ => .ite enums (.pure ())
  exact libraries w (.refl w)

end Onward

/-! ## Runs of a session -/

namespace Session

variable {s t : Session}

/-- To go onward lasts. -/
theorem lasts_onward (u : UserdataId) : Lasts (Onward u) fun j x => ¬ j.Disturbs x u where
  trans := .trans
  runs := .runs
  accesses := .accesses
  libraries := .openLibraries
  aside extended := .aside extended.userdata extended.hosts (congrArg State.metatables extended.state)
  elsewhere := .elsewhere

/-- The event brings no other host, and its instruction does not disturb a userdata. -/
def Event.Calm (e : Event) (w : World) (u : UserdataId) : Prop :=
  (∀ j, e = .command (.run j) →
    Allows (fun j x => ¬ j.Disturbs x u) maxCallDepth (.instr j) w) ∧
  ∀ setup plan, e = .command (.newRuntime setup) → setup.host ≠ some (.fresh plan)

/-- An instruction on its own that tags nothing and brings no host. -/
theorem Event.calm_alone {j : Instr} {w : World} (calls : j.calls = false)
    (single : ∀ count body, j ≠ .repeated count body) (counts : ∀ k, j ≠ .attempt k)
    (tags : ∀ index, j ≠ .setMetatable index) (hosts : ∀ api plan, j ≠ .install api (.fresh plan)) :
    (Event.command (.run j)).Calm w u :=
  ⟨by
    rintro _ ⟨⟩
    exact j.allows_alone calls single counts (Instr.not_disturbs tags hosts), nofun⟩

/-- All events of a run are calm. -/
def Calm (s : Session) (later : List Event) (u : UserdataId) : Prop :=
  ∀ mid e rest, later = mid ++ e :: rest → e.Calm (mid.foldl happen s).world u

/-- A run goes onward, whatever other states it works in: at every moment in the state that it
started in, the world comes after that at the start. -/
theorem onward_visits {later : List Event} (here : s.current < s.states.size)
    (calm : s.Calm later u) (visits : s.Visits later t w) (back : t.current = s.current) :
    Onward u s.world w :=
  (lasts_onward u).visits here calm visits back

end Session

end ScriptBind
