import ScriptBind.Proofs.ClassDb.Meta
import ScriptBind.Proofs.Session.ReferenceStates

/-!
# Meta values in scripts

What a script stores in an object with `set_meta` is on its way to the host an engine value, and on
its way back it becomes a script value again. In between it lies in a property of the object that
nothing else gets at. So it comes back for as long as the object lives and nothing else is stored
under its name, whatever other calls there are meanwhile; only an object that has been stored must
still be there.

Main results:

* `ScriptM.callByName_setMeta`, `ScriptM.callByName_getMeta` — the two calls.
* `World.recalls`, `World.remembers` — what `get_meta` answers now and later.
* `meta_values_round_trip` — stored values come back, and no others are affected.
-/

namespace ScriptBind

open ScriptM
open ClassDb (Deed Served issued)

/-! ## How the methods are declared -/

/-- How a method of the root class is declared that takes a name, and a value besides. -/
structure Registry.TakesNamed (owner : Registry.Class) (m : Registry.Method) (method : String)
    (required : Nat) (result : Option ArgType) : Prop where
  root : owner.name = "Object"
  name : m.name = method
  arguments : m.arguments = [.builtin .stringName, .any]
  required : m.required = required
  result : m.result = result

instance (owner : Registry.Class) (m : Registry.Method) (method : String) (required : Nat)
    (result : Option ArgType) : Decidable (Registry.TakesNamed owner m method required result) :=
  decidable_of_iff (owner.name = "Object" ∧ m.name = method ∧
      m.arguments = [.builtin .stringName, .any] ∧ m.required = required ∧ m.result = result)
    ⟨fun ⟨root, name, arguments, required, result⟩ => ⟨root, name, arguments, required, result⟩,
      fun h => ⟨h.root, h.name, h.arguments, h.required, h.result⟩⟩

/-- The registry has the two methods for the objects of all classes. -/
theorem Registry.findMethod?_meta :
    ∀ k ∈ Registry.bundled.classes,
      (∃ p ∈ Registry.bundled.findMethod? k.name "set_meta",
        Registry.TakesNamed p.1 p.2 "set_meta" 2 none) ∧
      ∃ p ∈ Registry.bundled.findMethod? k.name "get_meta",
        Registry.TakesNamed p.1 p.2 "get_meta" 1 (some .any) := by
  decide +kernel

/-- Every object that the host lists has the two methods. -/
theorem World.OnReference.findMethod?_meta {w : World} {c : Context} (on : w.OnReference c)
    {id : ObjectId} {o : EngineObject} (listed : (w.host c.host).classes.object? id = some o) :
    (∃ owner m, (w.registry c.registry).findMethod? o.cls "set_meta" = some (owner, m) ∧
      Registry.TakesNamed owner m "set_meta" 2 none) ∧
    ∃ owner m, (w.registry c.registry).findMethod? o.cls "get_meta" = some (owner, m) ∧
      Registry.TakesNamed owner m "get_meta" 1 (some .any) := by
  obtain ⟨k, mem, same⟩ := on.exists_class listed
  obtain ⟨⟨set, found, declared⟩, get, found', declared'⟩ := Registry.findMethod?_meta k mem
  rw [on.registry_eq, ← same]
  exact ⟨⟨_, _, found, declared⟩, _, _, found', declared'⟩

/-- A name counts as a string name, and what represents engine values as these. -/
theorem World.conveys_named {w : World} {c : Context} {m : Registry.Method}
    (arguments : m.arguments = [.builtin .stringName, .any]) {name : Value} {text : String}
    (named : name.asText = some text) {xs : List Value} {vs : List Variant}
    (represented : List.Forall₂ w.Represents xs vs) (i : Nat) (x : Value) (v : Variant)
    (arg : (name :: xs)[i]? = some x) (given : (.stringName text :: vs)[i]? = some v) :
    w.Conveys c (m.argumentType i) x v := by
  rw [Registry.Method.argumentType, arguments]
  -- the first argument is declared as a string name, and all others are taken as they come
  cases i with
  | zero =>
    cases arg
    cases given
    exact .stringName named
  | succ i =>
    have any : [ArgType.builtin .stringName, .any].getD (i + 1) .any = .any := by
      cases i <;> rfl
    rw [any]
    obtain ⟨bound, rfl⟩ := List.getElem?_eq_some_iff.mp arg
    obtain ⟨bound', rfl⟩ := List.getElem?_eq_some_iff.mp given
    have represents :=
      represented.get (Nat.lt_of_succ_lt_succ bound) (Nat.lt_of_succ_lt_succ bound')
    exact .any represents.means

/-! ## The calls -/

namespace ScriptM

section Calls

variable {w : World} {c : Context} {u : UserdataId} {id : ObjectId} {name : Value} {text : String}
  (n : Nat) (wanted : Option Nat) (on : w.OnReference c) (framed : w.state.Framed)
  (room : w.state.frames.length < maxCallDepth) (handle : w.Handle c u id)
  (alive : ((w.host c.host).classes.object? id).isSome) (named : name.asText = some text)
include on framed room handle alive named

/-- What a script stores in an object, the host stores, and nothing is answered. -/
theorem callByName_setMeta {value : Value} {x : Variant} (represents : w.Represents value x) :
    let called := (w.host c.host).classes.call id "Object" "set_meta" [.stringName text, x]
    called.1 = .ok .nil ∧ called.2.metaValue? id text = some x ∧
      ∃ z, callByName (runAt (n + 1)) (.userdata u) "set_meta" [name, value] wanted w =
          (.ok (), z) ∧ w.Left z c called.2 (adjust [] wanted) := by
  obtain ⟨o, listed⟩ := Option.isSome_iff_exists.mp alive
  obtain ⟨⟨owner, m, found, root, method, arguments, required, silent⟩, -⟩ :=
    on.findMethod?_meta listed
  have given : [Variant.stringName text, x][0]?.bind Variant.asText = some text := rfl
  obtain ⟨granted, stored⟩ := ClassDb.call_setMeta on.healthy.classes listed
    (on.healthy.sound _ (Keyed.mem_of_get? listed)) given
  have count : m.acceptsCount 2 = true := by
    simp [Registry.Method.acceptsCount, required, arguments]
  have length : [Variant.stringName text, x].length = [name, value].length := rfl
  obtain ⟨e, -, -, -, -, calls⟩ :=
    callByName_onReference n wanted on framed room handle listed found length count
      (fun f => World.conveys_named arguments named (.cons (represents.congr rfl rfl rfl) .nil))
      (root.symm ▸ method.symm ▸ granted)
  rw [root, method] at calls
  -- the method has no result, so nothing is pushed
  have returned : pushResult m .nil e = (.ok 0, e) := by
    rw [pushResult, silent]
    rfl
  exact ⟨granted, stored, _, calls [] e returned (.refl e)⟩

/-- What an object holds under a name comes back, or else the default. -/
theorem callByName_getMeta {defaults : List Value} {ds : List Variant}
    (represented : List.Forall₂ w.Represents defaults ds) (few : defaults.length ≤ 1)
    (there : ¬ w.Dangling c (((w.host c.host).classes.metaValue? id text).getD (ds.headD .nil))) :
    ∃ y z, callByName (runAt (n + 1)) (.userdata u) "get_meta" (name :: defaults) wanted w =
        (.ok (), z) ∧ w.Left z c (w.host c.host).classes (adjust [y] wanted) ∧
      z.Represents y
        (((w.host c.host).classes.metaValue? id text).getD (ds.headD .nil)).readBack := by
  obtain ⟨o, listed⟩ := Option.isSome_iff_exists.mp alive
  obtain ⟨-, owner, m, found, root, method, arguments, required, answers⟩ :=
    on.findMethod?_meta listed
  have given : (Variant.stringName text :: ds)[0]?.bind Variant.asText = some text := rfl
  -- without a default the method falls back on nil
  have default : (Variant.stringName text :: ds).getD 1 .nil = ds.headD .nil := by
    cases ds <;> rfl
  have called := ClassDb.call_getMeta on.healthy.classes listed
    (on.healthy.sound _ (Keyed.mem_of_get? listed)) given
  rw [default] at called
  have length : (Variant.stringName text :: ds).length = (name :: defaults).length := by
    rw [List.length_cons, List.length_cons, represented.length_eq]
  have count : m.acceptsCount (Variant.stringName text :: ds).length = true := by
    rw [length]
    simp [Registry.Method.acceptsCount, required, arguments, few]
  obtain ⟨e, on', framed', db, -, calls⟩ :=
    callByName_onReference n wanted on framed room handle listed found length count
      (fun f => World.conveys_named arguments named
        (represented.imp fun _ _ represents => represents.congr rfl rfl rfl))
      (root.symm ▸ method.symm ▸ congrArg Prod.fst called)
  rw [root, method, called] at calls db
  generalize ((w.host c.host).classes.metaValue? id text).getD (ds.headD .nil) = v at *
  have there : ¬ e.Dangling c v := by
    rwa [World.Dangling, db]
  obtain ⟨y, x, pushed, gains, represents⟩ := pushVariant_onReference on' framed' there
  have returned : pushResult m v e = (.ok [y].length, x) := by
    rw [pushResult, answers]
    show (pushVariant v >>= fun _ => pure 1 : ScriptM Nat) e = _
    rw [run_bind, pushed]
    rfl
  obtain ⟨ended, left⟩ := calls [y] x returned gains
  exact ⟨y, _, ended, left, represents.congr rfl rfl rfl⟩

end Calls

end ScriptM

/-! ## What is remembered -/

namespace World

/-- What a call leaves to the script: its results are on the stack, and all objects that the script
had it still has. -/
structure Resumes (w z : World) (c : Context) (results : List Value) : Prop where
  stack : z.state.stack = w.state.stack ++ results
  continues : w.Continues z c
  handles : ∀ u id, w.Handle c u id → z.Handle c u id

/-- When scripts ask an object for what it holds under a name, they get what represents `found`, or
else the default that they give. -/
def Recalls (w : World) (c : Context) (id : ObjectId) (text : String) (found : Option Variant) :
    Prop :=
  ∀ (n : Nat) (wanted : Option Nat) (u : UserdataId) (name : Value) (defaults : List Value)
    (ds : List Variant),
    w.Handle c u id → name.asText = some text → List.Forall₂ w.Represents defaults ds →
    defaults.length ≤ 1 → (found = none → ¬ w.Dangling c (ds.headD .nil)) →
      ∃ y z, callByName (runAt (n + 1)) (.userdata u) "get_meta" (name :: defaults) wanted w =
          (.ok (), z) ∧ w.Resumes z c (adjust [y] wanted) ∧
        (z.host c.host).classes = (w.host c.host).classes ∧
        z.Represents y (found.getD (ds.headD .nil)).readBack

/-- Whatever is done meanwhile, scripts get what represents `found`: as long as nothing else is
stored in the object under the name, and neither the object is freed nor one that has been stored.
There are as many ids as objects can be created. -/
def Remembers (w : World) (c : Context) (past : List Deed) (id : ObjectId) (text : String)
    (found : Option Variant) : Prop :=
  ∀ z deeds, w.Continues z c → Served (w.host c.host).classes deeds (z.host c.host).classes →
    (issued (past ++ deeds)).length < UInt64.size → (∀ deed ∈ deeds, deed.LeavesMeta id text) →
    (∀ j, found = some (.object j) → ∀ answer, .free j answer ∉ deeds) → z.Recalls c id text found

section

variable {w z : World} {c : Context} {id : ObjectId} {text : String} (on : w.OnReference c)
include on

/-- The objects of the host have come about by what it has been asked for. -/
theorem OnReference.exists_past : ∃ past, Served ClassDb.core past (w.host c.host).classes := by
  obtain ⟨h, known, lives⟩ := on.host
  obtain ⟨past, served⟩ := ClassDb.exists_served lives.classes
  have core : Host.reference.classes = ClassDb.core := rfl
  rw [← host_eq known, core] at served
  exact ⟨past, served⟩

theorem resumes_of_left {db : ClassDb} {values : List Value} (left : w.Left z c db values)
    (framed : w.state.Framed) (room : w.state.frames.length < maxCallDepth) :
    w.Resumes z c values :=
  ⟨left.stack, continues_of_left on left framed room, fun _ _ => handle_of_left on left⟩

variable (alive : ((w.host c.host).classes.object? id).isSome)
  (there : ∀ j, (w.host c.host).classes.metaValue? id text = some (.object j) →
    ((w.host c.host).classes.object? j).isSome)
include alive there

theorem recalls (framed : w.state.Framed) (room : w.state.frames.length < maxCallDepth) :
    w.Recalls c id text ((w.host c.host).classes.metaValue? id text) := by
  intro n wanted u name defaults ds handle named represented few default
  have there :
      ¬ w.Dangling c (((w.host c.host).classes.metaValue? id text).getD (ds.headD .nil)) := by
    cases stored : (w.host c.host).classes.metaValue? id text with
    | none => exact default stored
    | some v =>
      rintro ⟨j, is_object, lost⟩
      have listed := there j (stored.trans (congrArg some is_object))
      rw [lost] at listed
      cases listed
  obtain ⟨y, z, called, left, represents⟩ :=
    callByName_getMeta n wanted on framed room handle alive named represented few there
  exact ⟨y, z, called, resumes_of_left on left framed room, left.classes, represents⟩

theorem remembers {past : List Deed} (served : Served ClassDb.core past (w.host c.host).classes) :
    w.Remembers c past id text ((w.host c.host).classes.metaValue? id text) := by
  intro z deeds continues after bound leaves stays
  have kept := served.metaValue?_kept after bound leaves alive
  have lives := after.alive_kept (fun answer mem => (leaves _ mem).not_frees answer rfl) alive
  rw [← kept] at stays there ⊢
  exact recalls (on.later continues) lives
    (fun j stored => after.alive_kept (stays j stored) (there j stored))
    continues.framed continues.room

end

end World

/-! ## The round trip -/

/-- In a state with the reference host and the classes of the bundled description, at any time after
its setup, and for any live object: a value that represents an engine value can be stored in the
object under any text. From then on, scripts that ask for it get a value that represents the same
engine value, whatever default they give, for as long as nothing else is stored there and the object
lives, and the stored object, if it is one. It is the same nil, boolean, number or string, or a
userdata again. What other objects hold, or this one under other names, is not affected. There always
is a list `past` of what the host has been asked for (`World.OnReference.exists_past`). -/
theorem meta_values_round_trip {w₀ v w : World} {c : Context} {setup : Setup} {h : Host}
    (host : w₀.hosts[c.host]? = some h) (lives : Host.reference.Lives h)
    (registry : w₀.registries[c.registry]? = some Registry.bundled)
    (classes : setup.classes = true)
    (ready : w₀.withRuntime setup c.host c.registry = .ok v) (later : v.Continues w c)
    {past : List Deed} (served : Served ClassDb.core past (w.host c.host).classes)
    {u : UserdataId} {id : ObjectId} (handle : w.Handle c u id)
    (alive : ((w.host c.host).classes.object? id).isSome) {name : Value} {text : String}
    (named : name.asText = some text) {value : Value} {x : Variant}
    (represents : w.Represents value x) (there : ¬ w.Dangling c x) (n : Nat) (wanted : Option Nat) :
    ∃ z, callByName (runAt (n + 1)) (.userdata u) "set_meta" [name, value] wanted w = (.ok (), z) ∧
      w.Resumes z c (adjust [] wanted) ∧
      let deeds := past ++ [.call id "Object" "set_meta" [.stringName text, x] (.ok .nil)]
      Served ClassDb.core deeds (z.host c.host).classes ∧
      z.Remembers c deeds id text (some x) ∧
      (x.readBack = x ∧ ∀ (world : World) y, world.Represents y x →
        y = value ∨ ∃ a b, value = .userdata a ∧ y = .userdata b) ∧
      ∀ j other, (j ≠ id ∨ other ≠ text) → ((w.host c.host).classes.object? j).isSome →
        let found := (w.host c.host).classes.metaValue? j other
        (z.host c.host).classes.metaValue? j other = found ∧
        ((∀ i, found = some (.object i) → ((w.host c.host).classes.object? i).isSome) →
          w.Recalls c j other found ∧ z.Remembers c deeds j other found) := by
  have on := (World.withRuntime_onReference host lives registry classes ready).1.later later
  obtain ⟨granted, stored, z, called, left⟩ :=
    callByName_setMeta n wanted on later.framed later.room handle alive named represents
  have resumes := World.resumes_of_left on left later.framed later.room
  have on' := on.later resumes.continues
  -- to store the value is one more deed, which leaves all objects alive
  have does : ClassDb.Does (w.host c.host).classes _ _ :=
    .call id "Object" "set_meta" [.stringName text, x]
  rw [granted, ← left.classes] at does
  have after := served.does does
  have listed : ∀ j, ((w.host c.host).classes.object? j).isSome →
      ((z.host c.host).classes.object? j).isSome :=
    fun j alive => does.alive_kept (fun _ => nofun) alive
  refine ⟨z, called, resumes, after, ?_, ⟨represents.readBack, fun world y => represents.same⟩, ?_⟩
  · rw [← left.classes] at stored
    rw [← stored]
    refine World.remembers on' (listed id alive) (fun j same => listed j ?_) after
    rw [stored] at same
    cases same
    exact Option.isSome_iff_ne_none.mpr fun lost => there ⟨j, rfl, lost⟩
  · intro j other apart alive' found
    -- another object, or another name, is not what the call stores under
    have kept : (z.host c.host).classes.metaValue? j other = found := by
      rw [left.classes]
      refine ClassDb.metaValue?_call on.healthy.classes id "Object" fun same stores => ?_
      cases same
      cases stores.2
      exact apart.elim (absurd rfl) (absurd rfl)
    refine ⟨kept, fun stored => ⟨World.recalls on alive' stored later.framed later.room, ?_⟩⟩
    rw [← kept] at stored ⊢
    exact World.remembers on' (listed j alive') (fun i same => listed i (stored i same)) after

namespace World

/-- A state with the classes of the bundled description. -/
def classesOpened : World :=
  (ofReference.withRuntime ⟨none, false, none, false, true, false⟩ 0 0).toOption.getD ofReference

theorem withRuntime_classesOpened :
    ofReference.withRuntime ⟨none, false, none, false, true, false⟩ 0 0 = .ok classesOpened :=
  Registry.eq_ok_getD_of_isOk (by decide +kernel) _

/-- A node has been made. -/
def nodeThere : World := (Activity.instr (.hostNew 0 "Node")).after 0 classesOpened

/-- The node is on the stack. -/
def nodeAtHand : World := (Activity.instr (.pushObject ⟨1⟩)).after 0 nodeThere

/-- All that the host has been asked for is the node. -/
theorem served_nodeThere (on : nodeThere.OnReference ⟨0, 0⟩) :
    Served ClassDb.core [.instantiate "Node" (.ok ⟨1⟩)] (nodeThere.host 0).classes := by
  have facts : (nodeThere.host 0).classes.objects = (ClassDb.core.instantiate "Node").2.objects ∧
      (nodeThere.host 0).classes.created = (ClassDb.core.instantiate "Node").2.created := by
    decide +kernel
  obtain ⟨objects, created⟩ := facts
  exact on.served (h := nodeThere.host 0) rfl (Served.new.does (.instantiate "Node")) objects created

/-- The node is pushed as a userdata by which scripts have it. -/
theorem nodeAtHand_handle (on : classesOpened.OnReference ⟨0, 0⟩)
    (starts : classesOpened.Continues classesOpened ⟨0, 0⟩) :
    classesOpened.Continues nodeAtHand ⟨0, 0⟩ ∧
      Served ClassDb.core [.instantiate "Node" (.ok ⟨1⟩)] (nodeAtHand.host 0).classes ∧
      ((nodeAtHand.host 0).classes.object? ⟨1⟩).isSome ∧
      ∃ u, nodeAtHand.state.stack = [.userdata u] ∧ nodeAtHand.Handle ⟨0, 0⟩ u ⟨1⟩ ∧
        nodeAtHand.CarriesObject u ⟨1⟩ := by
  have facts : nodeThere.state.context = some ⟨0, 0⟩ ∧ nodeThere.state.stack = [] ∧
      ((nodeThere.host 0).classes.object? ⟨1⟩).isSome ∧
      nodeAtHand.state.context = some ⟨0, 0⟩ := by
    decide +kernel
  obtain ⟨context, empty, alive, context'⟩ := facts
  have made : classesOpened.Continues nodeThere ⟨0, 0⟩ :=
    .of_instr (i := .hostNew 0 "Node") starts.framed starts.room (by rw [nodeThere]) context rfl
      (by rintro _ _ ⟨⟩) (by rintro _ ⟨⟩) (by rintro _ ⟨⟩)
  have given : nodeThere.Continues nodeAtHand ⟨0, 0⟩ :=
    .of_instr (i := .pushObject ⟨1⟩) made.framed made.room (by rw [nodeAtHand]) context' rfl
      (by rintro _ _ ⟨⟩) (by rintro _ ⟨⟩) (by rintro _ ⟨⟩)
  have served := served_nodeThere (on.later made)
  obtain ⟨u, x, pushed, gains, handle, carried⟩ := pushObject_handle (on.later made) alive
  -- the instruction pushes the object and logs nothing, so it leads to the world of the push
  have here : nodeAtHand = x := by
    rw [nodeAtHand]
    show (ScriptM.quietly (ScriptM.pushObject ⟨1⟩) nodeThere).2 = x
    rw [ScriptM.quietly, run_bind, pushed]
    rfl
  have same : x.host 0 = nodeThere.host 0 := by
    rw [World.host, World.host, gains.hosts]
  have stack : x.state.stack = [.userdata u] := by
    rw [gains.stack, empty]
    rfl
  rw [← same] at served alive
  rw [here] at given ⊢
  exact ⟨made.trans given, served, alive, u, stack, handle, carried⟩

end World

/-- A node is stored in itself, and comes back although there is a default. -/
theorem meta_values_round_trip_node :
    ∃ u z x y, World.nodeAtHand.state.stack = [.userdata u] ∧
      callByName (runAt 1) (.userdata u) "set_meta" [.string "owner", .userdata u] none
        World.nodeAtHand = (.ok (), z) ∧
      callByName (runAt 1) (.userdata u) "get_meta" [.string "owner", .boolean true] (some 1) z =
        (.ok (), x) ∧
      x.state.stack = [.userdata u, y] ∧ x.Represents y (.object ⟨1⟩) := by
  have host : World.ofReference.hosts[0]? = some Host.reference := rfl
  have registry : World.ofReference.registries[0]? = some Registry.bundled := by
    simp [World.ofReference]
  have lives : Host.reference.Lives Host.reference := Host.Lives.refl _
  obtain ⟨on, starts⟩ := World.withRuntime_onReference (c := ⟨0, 0⟩) (h := Host.reference)
    (w := World.ofReference) host lives registry rfl World.withRuntime_classesOpened
  obtain ⟨later, served, alive, u, stack, handle, carried⟩ := World.nodeAtHand_handle on starts
  -- from here on it does not matter how the node has come about
  generalize World.nodeAtHand = w at *
  have named : (Value.string "owner").asText = some "owner" := rfl
  have there : ¬ w.Dangling ⟨0, 0⟩ (.object ⟨1⟩) := by
    rintro ⟨_, ⟨⟩, lost⟩
    rw [lost] at alive
    cases alive
  obtain ⟨z, stored, resumes, after, remembers, -⟩ := meta_values_round_trip (c := ⟨0, 0⟩)
    (h := Host.reference) host lives registry rfl World.withRuntime_classesOpened later served
    handle alive named (.object carried) there 0 none
  have continues := resumes.continues
  have recalls := remembers z [] (.refl continues.context continues.framed continues.room) .new
    (by decide) (List.forall_mem_nil _) fun _ _ _ => List.not_mem_nil
  obtain ⟨y, x, asked, resumed, -, represents⟩ := recalls 0 (some 1) u (.string "owner")
    [.boolean true] [.bool true] (resumes.handles u _ handle) named (.cons (.bool true) .nil)
    (Nat.le_refl 1) (by rintro ⟨⟩)
  refine ⟨u, z, x, y, stack, stored, asked, ?_, represents⟩
  rw [resumed.stack, resumes.stack, stack]
  rfl

end ScriptBind
