import ScriptBind.Proofs.Session.Hosts
import ScriptBind.Proofs.Session.Preserved
import ScriptBind.Proofs.Session.Retention

/-!
# What nobody can take away

Three kinds of instructions can change what a userdata is to scripts: one that gives it another
metatable, one that takes the lock of its metatable away, and one that brings a host whose engine
changes receivers. As long as there are none of them, a userdata that carries an engine value or an
object is for good what it was when it was pushed, and so are the functions that its metatable
leads to.

Main results:

* `World.Upholds.of_passes` — whatever runs, at any of its moments.
* `World.Upholds.of_sparing` — operations that are parts of instructions and handlers.
-/

namespace ScriptBind

open ScriptM

/-- The instruction takes a lock away, exchanges a metatable or brings another host. -/
def Instr.Tampers (i : Instr) : Prop :=
  (∃ index, i = .setReadonly index false) ∨ (∃ index, i = .setMetatable index) ∨
    ∃ api plan, i = .install api (.fresh plan)

/-- A payload other than a raw number: an engine value or an object. -/
def Payload.Bound (p : Payload) : Prop := ∀ n, p ≠ .raw n

namespace World

/-! ## Userdata -/

/-- The bound userdata that there were in `w₀` are as they were. -/
structure Retaining (w₀ w : World) : Prop where
  referential : w.Referential
  kept {i : Nat} {d : Userdata} (bound : d.payload.Bound) (entry : w₀.userdata[i]? = some d) :
    w.userdata[i]? = some d

instance {w₀ : World} : Spared (Retaining w₀) where
  untouched := by
    intro w v same retaining
    refine ⟨fun h mem => ?_, fun bound entry => same.values _ _ bound (retaining.kept bound entry)⟩
    obtain ⟨k, known, engine⟩ := same.engines h mem
    exact engine.trans (retaining.referential k known)
  allocTable _ retaining := ⟨retaining.referential, retaining.kept⟩
  changeTable s f _ :=
    keeps_changeTable (fun _ _ retaining => ⟨retaining.referential, retaining.kept⟩) s f
  lock _ _ retaining := ⟨retaining.referential, retaining.kept⟩
  received found host method args retaining := by
    rwa [retaining.referential.writeReceiver found]

/-- If all hosts are the reference engine, they still are, and bound userdata are as they were. -/
def RetainsAll (w v : World) : Prop := w.Referential → w.Retaining v

theorem RetainsAll.of_sparing {α : Type} {act : ScriptM α} (w : World)
    (sparing : Keeps (Retaining w) act) : w.RetainsAll (act w).2 :=
  fun referential => sparing w ⟨referential, fun _ entry => entry⟩

theorem RetainsAll.of_eq {w v : World} (userdata : v.userdata = w.userdata)
    (hosts : v.hosts = w.hosts) : w.RetainsAll v :=
  fun referential => ⟨fun h mem => referential h (hosts ▸ mem), fun _ entry => userdata ▸ entry⟩

theorem RetainsAll.trans {u v w : World} (first : u.RetainsAll v) (second : v.RetainsAll w) :
    u.RetainsAll w := by
  intro referential
  have before := first referential
  have after := second before.referential
  exact ⟨after.referential, fun bound entry => after.kept bound (before.kept bound entry)⟩

theorem roomy_retainsAll : Roomy RetainsAll where
  refl _ := .of_eq rfl rfl
  trans first second := first.trans second
  moves _ _ _ := .of_eq rfl rfl

/-- The steps of a run retain bound userdata. -/
theorem bounds_retainsAll : Bounds RetainsAll fun i _ => ¬ i.Tampers := by
  refine bounds_of_instrs roomy_retainsAll (fun _ userdata hosts => .of_eq userdata hosts) ?_ ?_ ?_
  · exact fun h w => .of_sparing w (Sparing.handler h)
  · exact fun c w => .of_sparing w (Sparing.pushConstantAs .variant c)
  · intro i w calls run calm
    exact .of_sparing w (Sparing.perform run calls
      (fun index same => calm (.inl ⟨index, same⟩))
      (fun index same => calm (.inr (.inl ⟨index, same⟩)))
      fun api plan same => calm (.inr (.inr ⟨api, plan, same⟩)))

/-! ## Everything that stays -/

/-- What there was in `w` is still there in `v`: registered metatables, functions, registries,
locked tables, and, with the reference engine, bound userdata. Hosts have lived on. -/
structure Upholds (w v : World) : Prop where
  named {name : String} {mt : TableId} (known : w.metatableNamed name = some mt) :
    v.metatableNamed name = some mt
  handler {f : FunctionId} {h : Handler} (known : w.handler? f = some h) : v.handler? f = some h
  registry {i : Nat} {r : Registry} (known : w.registries[i]? = some r) :
    v.registries[i]? = some r
  spared (t : TableId) : Spares t w v
  host {i : Nat} {h : Host} (known : w.hosts[i]? = some h) : ∃ k, v.hosts[i]? = some k ∧ h.Lives k
  retained : w.RetainsAll v

namespace Upholds

variable {u v w : World}

theorem refl (w : World) : w.Upholds w :=
  ⟨id, id, id, fun _ _ => rfl, fun known => ⟨_, known, .refl _⟩, .of_eq rfl rfl⟩

theorem trans (first : u.Upholds v) (second : v.Upholds w) : u.Upholds w where
  named known := second.named (first.named known)
  handler known := second.handler (first.handler known)
  registry known := second.registry (first.registry known)
  spared t := (first.spared t).trans (second.spared t)
  host known := by
    obtain ⟨k, here, lives⟩ := first.host known
    obtain ⟨l, there, lives'⟩ := second.host here
    exact ⟨l, there, lives.trans lives'⟩
  retained := first.retained.trans second.retained

theorem referential (upholds : w.Upholds v) (referential : w.Referential) : v.Referential :=
  (upholds.retained referential).referential

/-- An operation that spares everything that can be spared. -/
theorem of_sparing {α : Type} {act : ScriptM α} (evolves : Evolves w (act w).2)
    (sparing : ∀ (P : World → Prop) [Spared P], Keeps P act) : w.Upholds (act w).2 where
  named known := evolves.metatable_kept known
  handler known := (Leads.evolves evolves).handler_kept known
  registry known := evolves.registry_known known
  spared _ := .of_keeps (fun _ => sparing _) w
  host known := evolves.host_known known
  retained := .of_sparing w (sparing _)

/-- Whatever runs, at any of its moments, as long as no instruction tampers with what there is. -/
theorem of_passes {n : Nat} {a : Activity} (passes : Passes n a w v)
    (calm : Allows (fun i _ => ¬ i.Tampers) n a w) : w.Upholds v where
  -- names, functions and registries stay whatever runs; locked tables and userdata need the calm
  named known := passes.forward.metatable_kept known
  handler known := passes.proceeds.leads.handler_kept known
  registry known := passes.proceeds.registry_known known
  spared t := (bounds_spares t).passes passes fun cs m i x includes ⟨index, same, _⟩ =>
    calm cs m i x includes (.inl ⟨index, same⟩)
  host known := passes.proceeds.host_known known
  retained := bounds_retainsAll.passes passes calm

/-- An instruction that calls no function and includes no others. -/
theorem of_instr {i : Instr} (n : Nat) (w : World) (calls : i.calls = false)
    (single : ∀ count body, i ≠ .repeated count body) (counts : ∀ j, i ≠ .attempt j)
    (calm : ¬ i.Tampers) : w.Upholds ((Activity.instr i).after n w) :=
  .of_passes (.finish n (.instr i) w) (Instr.allows_alone calls single counts calm)

/-- What happens in another state upholds this one, whose names of metatables are its own. -/
theorem elsewhere (s : State) (there : { w with state := s }.Upholds v) :
    w.Upholds { v with state := w.state } where
  named known := known
  handler known := there.handler known
  registry known := there.registry known
  spared t := there.spared t
  host known := there.host known
  retained referential :=
    have after := there.retained referential
    ⟨after.referential, fun bound entry => after.kept bound entry⟩

end Upholds

/-- A state with bindings brings no host. -/
theorem withRuntime_referential {w v : World} {setup : Setup} {host i : Nat}
    (ready : w.withRuntime setup host i = .ok v) (referential : w.Referential) :
    v.Referential := by
  obtain ⟨opened, -⟩ := withRuntime_preserves ready
  have retained := RetainsAll.of_sparing (w.withContext host i)
    (Sparing.openLibraries setup (P := Retaining (w.withContext host i)))
  rw [opened] at retained
  exact (retained referential).referential

end World

/-- To uphold lasts: nothing that happens in a session tampers with what there is, but for
instructions that do and for other hosts. -/
theorem Session.lasts_upholds : Lasts World.Upholds fun i _ => ¬ i.Tampers where
  trans := .trans
  runs := .of_passes
  accesses declared a :=
    .of_sparing (a.evolves (World.stands_of_declared? declared)) fun P _ => Sparing.access _ a
  libraries setup w :=
    .of_sparing (evolving_openLibraries setup w) fun P _ => Sparing.openLibraries setup
  aside extended :=
    { named := fun known => by rwa [World.metatableNamed, extended.state]
      handler := fun known => by rwa [World.handler?, extended.functions]
      registry := extended.registry
      spared := extended.spared
      host := fun known => ⟨_, extended.hosts ▸ known, .refl _⟩
      retained := .of_eq extended.userdata extended.hosts }
  elsewhere := .elsewhere

end ScriptBind
