import ScriptBind.Proofs.ClassDb.Properties
import ScriptBind.Proofs.Session.Reference
import ScriptBind.Proofs.Session.Represented

/-!
# States with the reference host

A state with bindings that works with the reference host and the bundled description can call the
methods of any object by any userdata with the metatable of a class, from its setup on: nothing that
runs takes the classes, the host or the metatables away, unless it unlocks the metatable of a class.

Main results:

* `World.withRuntime_onReference`, `World.OnReference.later` — which states these are.
* `World.Continues.of_passes` — what runs continues.
* `ScriptM.pushVariant_onReference` — every value is pushed as one that represents it.
* `ScriptM.callByName_onReference` — the call of a method of a live object.
-/

namespace ScriptBind

open ScriptM

namespace World

/-- The state works with a host that started as the reference host, and with the bundled
description, whose classes have been opened. -/
structure OnReference (w : World) (c : Context) : Prop where
  context : w.state.context = some c
  host : ∃ h, w.hosts[c.host]? = some h ∧ Host.reference.Lives h
  registry : w.registries[c.registry]? = some Registry.bundled
  classes : ∀ k ∈ Registry.bundled.classes, w.ClassOpen k.name

/-- Whatever has happened, it has not unlocked the metatable of a class or taken the name of a
metatable away, the state works with its host and its registry, and there is room for one more
call. -/
structure Continues (v w : World) (c : Context) : Prop where
  proceeds : Proceeds v w
  spared : ∀ k ∈ Registry.bundled.classes, ∀ mt, v.metatableNamed k.name = some mt → Spares mt v w
  named : ∀ name mt, v.metatableNamed name = some mt → w.metatableNamed name = some mt
  context : w.state.context = some c
  framed : w.state.Framed
  room : w.state.frames.length < maxCallDepth

/-- A userdata by which scripts have an object: it has the metatable of a class. -/
def Handle (w : World) (c : Context) (u : UserdataId) (id : ObjectId) : Prop :=
  ∃ mt, w.userdata[u.index]? = some ⟨.object id, some mt⟩ ∧
    ∃ k ∈ (w.registry c.registry).classes, w.metatableNamed k.name = some mt

namespace Continues

variable {u v w : World} {c : Context}

theorem refl (context : w.state.context = some c) (framed : w.state.Framed)
    (room : w.state.frames.length < maxCallDepth) : w.Continues w c :=
  ⟨.refl w, fun _ _ _ _ _ => rfl, fun _ _ known => known, context, framed, room⟩

theorem trans (first : u.Continues v c) (second : v.Continues w c) : u.Continues w c where
  proceeds := first.proceeds.trans second.proceeds
  spared k mem mt known :=
    (first.spared k mem mt known).trans (second.spared k mem mt (first.named _ _ known))
  named name mt known := second.named name mt (first.named name mt known)
  context := second.context
  framed := second.framed
  room := second.room

/-- Whatever runs, and at any of its moments: it continues as long as no instruction unlocks the
metatable of a class or sets another context. -/
theorem of_passes {n : Nat} {a : Activity} (passes : Passes n a v w)
    (locks : ∀ k ∈ Registry.bundled.classes, ∀ mt, v.metatableNamed k.name = some mt →
      Allows (fun i x => ¬ i.Unlocks x mt) n a v) (framed : v.state.Framed)
    (context : w.state.context = some c) (room : w.state.frames.length < maxCallDepth) :
    v.Continues w c where
  proceeds := passes.proceeds
  spared k mem mt known := (bounds_spares mt).passes passes (locks k mem mt known)
  named _ _ known := passes.forward.metatable_kept known
  context := context
  framed := passes.forward.framed framed
  room := room

/-- An instruction that neither calls functions nor takes a lock away continues. -/
theorem of_instr {i : Instr} (framed : v.state.Framed) (room : v.state.frames.length < maxCallDepth)
    (ran : (Activity.instr i).after 0 v = w) (context : w.state.context = some c)
    (calls : i.calls = false) (single : ∀ count body, i ≠ .repeated count body)
    (counts : ∀ j, i ≠ .attempt j) (locks : ∀ index, i ≠ .setReadonly index false) :
    v.Continues w c := by
  subst ran
  have evolves := Activity.evolves 0 (.instr i) v
  refine .of_passes (.finish 0 (.instr i) v) (fun _ _ _ _ => ?_) framed context
    (evolves.frames_eq.symm ▸ room)
  exact Instr.allows_alone calls single counts fun ⟨index, same, _⟩ => locks index same

end Continues

namespace OnReference

variable {v w : World} {c : Context} {u : UserdataId} {id : ObjectId}

theorem later (on : v.OnReference c) (continues : v.Continues w c) : w.OnReference c where
  context := continues.context
  host := by
    obtain ⟨h₁, known, lives⟩ := on.host
    obtain ⟨h₂, known', lives'⟩ := continues.proceeds.host_known known
    exact ⟨h₂, known', lives.trans lives'⟩
  registry := continues.proceeds.registry_known on.registry
  classes k mem := by
    obtain ⟨mt, named, object⟩ := on.classes k mem
    have functions f h (known : v.handler? f = some h) : w.handler? f = some h :=
      continues.proceeds.leads.handler_kept known
    exact ⟨mt, continues.named _ _ named,
      object.later functions (continues.spared k mem mt named)⟩

theorem registry_eq (on : w.OnReference c) : w.registry c.registry = Registry.bundled :=
  World.registry_eq on.registry

theorem inside (on : w.OnReference c) : c.host < w.hosts.size := by
  obtain ⟨h, known, -⟩ := on.host
  exact (Array.getElem?_eq_some_iff.mp known).1

theorem healthy (on : w.OnReference c) : CoreClasses.Healthy (w.host c.host).classes := by
  obtain ⟨h, known, lives⟩ := on.host
  rw [host_eq known]
  exact CoreClasses.healthy_core.steps lives.classes

/-- A host that has the objects and the number of ids of a database has answered the same deeds. -/
theorem served (on : w.OnReference c) {h : Host} (host : w.host c.host = h)
    {deeds : List ClassDb.Deed} {db : ClassDb} (served : ClassDb.Served ClassDb.core deeds db)
    (objects : h.classes.objects = db.objects) (created : h.classes.created = db.created) :
    ClassDb.Served ClassDb.core deeds h.classes := by
  subst host
  have classes := on.healthy.classes.trans served.classes_eq.symm
  generalize (w.host c.host).classes = host at classes objects created ⊢
  cases host
  cases db
  cases classes
  cases objects
  cases created
  exact served

/-- An object that the host lists is of a class of the registry. -/
theorem exists_class (on : w.OnReference c) {o : EngineObject}
    (alive : (w.host c.host).classes.object? id = some o) :
    ∃ k ∈ Registry.bundled.classes, k.name = o.cls := by
  obtain ⟨core, hk, named⟩ := (on.healthy.sound _ (Keyed.mem_of_get? alive)).registered
  obtain ⟨e, he, same, -⟩ := CoreClasses.exists_entry hk
  obtain ⟨k, mem, made⟩ := Registry.exists_class Registry.ofApi_bundled he
  exact ⟨k, mem, by rw [(Registry.Class.of_ofApi made).1, same, named]⟩

/-- The metatable of a class is one of objects. -/
theorem objectMetatable (on : w.OnReference c) {k : Registry.Class} {mt : TableId}
    (mem : k ∈ (w.registry c.registry).classes) (named : w.metatableNamed k.name = some mt) :
    w.ObjectMetatable mt := by
  obtain ⟨mt', named', object⟩ := on.classes k (on.registry_eq ▸ mem)
  cases named.symm.trans named'
  exact object

/-- It depends on the tables, the functions, the names of metatables, the host and the registry
alone. -/
theorem congr (on : v.OnReference c) (tables : w.tables = v.tables)
    (functions : w.functions = v.functions) (metatables : w.state.metatables = v.state.metatables)
    (context : w.state.context = v.state.context) (registries : w.registries = v.registries)
    (host : ∃ h, w.hosts[c.host]? = some h ∧ Host.reference.Lives h) : w.OnReference c where
  context := context.trans on.context
  host := host
  registry := registries ▸ on.registry
  classes k mem := by
    obtain ⟨mt, named, object⟩ := on.classes k mem
    have known f h (known : v.handler? f = some h) : w.handler? f = some h := by
      rw [handler?, functions]
      exact known
    refine ⟨mt, ?_, object.later known (.of_tables tables)⟩
    rw [metatableNamed, metatables]
    exact named

/-- What scripts have an object by has the handler of method calls. -/
theorem carries (on : w.OnReference c) (handle : w.Handle c u id) :
    w.CarriesObject u id ∧ ∃ f, w.metafield (.userdata u) "__namecall" = some (.function f) ∧
      w.handler? f = some .classNamecall := by
  obtain ⟨mt, entry, k, mem, named⟩ := handle
  have held : w.userdatum u = ⟨.object id, some mt⟩ := by
    rw [userdatum, Array.getD_eq_getD_getElem?, entry]
    rfl
  obtain ⟨-, marked, f, field, known⟩ := on.objectMetatable mem named
  refine ⟨⟨by rw [held], mt, by rw [held], marked⟩, f, ?_, known⟩
  rw [metafield, metatable, held]
  dsimp only
  rw [field]

end OnReference

theorem namecall_free :
    ∀ k ∈ Registry.bundled.classes, "__namecall" ∉ k.constants.map Prod.fst := by
  decide +kernel

/-- A state that has been set up with the classes of the bundled description and a host that started
as the reference host. -/
theorem withRuntime_onReference {w v : World} {c : Context} {setup : Setup} {h : Host}
    (host : w.hosts[c.host]? = some h) (lives : Host.reference.Lives h)
    (registry : w.registries[c.registry]? = some Registry.bundled) (classes : setup.classes = true)
    (ready : w.withRuntime setup c.host c.registry = .ok v) :
    v.OnReference c ∧ v.Continues v c := by
  obtain ⟨proceeds, rests⟩ := Session.proceeds_withRuntime ready
  obtain ⟨-, preserves⟩ := withRuntime_preserves ready
  have context : v.state.context = some c := preserves.context
  refine ⟨⟨context, ?_, proceeds.registry_known registry, fun k mem => ?_⟩,
    .refl context (withRuntime_sealed ready).ready.framed ?_⟩
  · obtain ⟨h', known, more⟩ := proceeds.host_known host
    exact ⟨h', known, lives.trans more⟩
  · rw [← World.registry_eq registry] at mem
    exact withRuntime_classOpen classes ready mem
      (namecall_free k (World.registry_eq registry ▸ mem))
  · rw [rests.frames]
    decide

end World

namespace ScriptM

variable {w : World} {c : Context} {u : UserdataId} {id : ObjectId}

/-! ## Pushing -/

/-- An object that the host lists is pushed as a userdata by which scripts have it. -/
theorem pushObject_handle (on : w.OnReference c)
    (alive : ((w.host c.host).classes.object? id).isSome) :
    ∃ u x, pushObject id w = (.ok (), x) ∧ w.Gains x [.userdata u] ∧ x.Handle c u id ∧
      x.CarriesObject u id := by
  obtain ⟨o, listed⟩ := Option.isSome_iff_exists.mp alive
  obtain ⟨k, mem, same⟩ := on.exists_class listed
  obtain ⟨mt, named, object⟩ := on.classes k mem
  -- the class of a listed object is declared, and has its own metatable
  have found : ((w.registry c.registry).ancestors o.cls).findSome?
      (fun k => w.metatableNamed k.name) = some mt := by
    rw [on.registry_eq]
    exact findSome?_ancestors Registry.ofApi_bundled ⟨k, mem, same⟩ (same ▸ named)
  have pushed := run_pushObject on.context (ClassDb.classOf_of_object? listed) found
  have entry : (withObject (w.asking [(c.host, .className id)]) id mt).userdata[w.userdata.size]? =
      some ⟨.object id, some mt⟩ :=
    Array.getElem?_push_size
  have handle : (withObject (w.asking [(c.host, .className id)]) id mt).Handle c
      ⟨w.userdata.size⟩ id :=
    ⟨mt, entry, k, on.registry_eq.symm ▸ mem, named⟩
  have on' : (withObject (w.asking [(c.host, .className id)]) id mt).OnReference c :=
    on.congr rfl rfl rfl rfl rfl on.host
  exact ⟨_, _, pushed,
    ⟨rfl, rfl, rfl, rfl, fun _ _ known => getElem?_push_kept known _⟩, handle,
    (on'.carries handle).1⟩

/-- Every value is pushed as one that represents what is read back. -/
theorem pushVariant_onReference (on : w.OnReference c) (framed : w.state.Framed) {v : Variant}
    (there : ¬ w.Dangling c v) :
    ∃ y x, pushVariant v w = (.ok (), x) ∧ w.Gains x [y] ∧ x.Represents y v.readBack := by
  cases v with
  | object id =>
    have alive : ((w.host c.host).classes.object? id).isSome :=
      Option.isSome_iff_ne_none.mpr fun lost => there ⟨id, rfl, lost⟩
    obtain ⟨u, x, pushed, gains, -, carried⟩ := pushObject_handle on alive
    exact ⟨_, x, pushed, gains, .object carried⟩
  | _ => exact pushVariant_represents framed nofun

/-! ## Methods -/

section Left

variable {z : World} {db : ClassDb} {values : List Value} (on : w.OnReference c)
  (left : w.Left z c db values)
include on left

/-- What the call of a method leaves continues. -/
theorem continues_of_left (framed : w.state.Framed) (room : w.state.frames.length < maxCallDepth) :
    w.Continues z c where
  proceeds := .evolves left.evolves
  spared _ _ mt _ := left.spared mt
  named _ _ known := left.evolves.metatable_kept known
  context := left.context.trans on.context
  framed := left.evolves.framed framed
  room := left.evolves.frames_eq.symm ▸ room

/-- Scripts still have the objects that they had. -/
theorem handle_of_left (handle : w.Handle c u id) : z.Handle c u id := by
  obtain ⟨mt, entry, k, mem, named⟩ := handle
  have registry : z.registry c.registry = w.registry c.registry := by
    rw [on.registry_eq, World.registry_eq (left.evolves.registry_known on.registry)]
  exact ⟨mt, left.userdata _ _ entry, k, registry ▸ mem, left.evolves.metatable_kept named⟩

end Left

/-- Scripts call the method of a live object by its name. -/
theorem callByName_onReference (n : Nat) (wanted : Option Nat) (on : w.OnReference c)
    (framed : w.state.Framed) (room : w.state.frames.length < maxCallDepth)
    (handle : w.Handle c u id) {o : EngineObject}
    (alive : (w.host c.host).classes.object? id = some o) {method : String}
    {owner : Registry.Class} {m : Registry.Method}
    (declared : (w.registry c.registry).findMethod? o.cls method = some (owner, m))
    {args : List Value} {vs : List Variant} (length : vs.length = args.length)
    (count : m.acceptsCount vs.length)
    (each : ∀ f i x v, args[i]? = some x → vs[i]? = some v →
      (w.methodFrame f u method args).Conveys c (m.argumentType i) x v) {r : Variant}
    (granted : ((w.host c.host).classes.call id owner.name m.name vs).1 = .ok r) :
    ∃ e, e.OnReference c ∧ e.state.Framed ∧
      (e.host c.host).classes = ((w.host c.host).classes.call id owner.name m.name vs).2 ∧
      (∀ x v, w.Represents x v → e.Represents x v) ∧
      ∀ values x, pushResult m r e = (.ok values.length, x) → e.Gains x values →
        callByName (runAt (n + 1)) (.userdata u) method args wanted w =
            (.ok (), w.answered x (adjust values wanted)) ∧
          w.Left (w.answered x (adjust values wanted)) c
            ((w.host c.host).classes.call id owner.name m.name vs).2 (adjust values wanted) := by
  obtain ⟨carried, f, handler, known⟩ := on.carries handle
  have resolves : w.Resolves c u id method owner m :=
    ⟨carried, o.cls, ClassDb.classOf_of_object? alive, declared⟩
  have accepts : Accepts (w.methodFrame f u method args) c 2 m vs :=
    accepts_callFrame length count (each f)
  obtain ⟨asked, calls⟩ := callByName_object n wanted framed room handler known on.context on.inside
    resolves accepts granted
  refine ⟨hostAnswered (w.methodFrame f u method args) c id owner m vs asked,
    on.congr rfl rfl rfl rfl rfl ?_, framed_callFrame, World.host_setClasses on.inside _,
    fun x v represents => represents.congr rfl rfl rfl, calls⟩
  obtain ⟨h, here, lives⟩ := on.host
  refine ⟨_, World.hosts_setClasses here c.host _, ?_⟩
  rw [if_pos rfl]
  -- the call is one more request to the class database, so the host lives on
  have step : (w.host c.host).classes.Step _ := .call id owner.name m.name vs
  have same : (w.host c.host).classes = h.classes := congrArg Host.classes (World.host_eq here)
  exact ⟨lives.engine, lives.classes.tail (same ▸ step)⟩

end ScriptM

end ScriptBind
