import ScriptBind.Proofs.ClassDb.Core
import ScriptBind.Proofs.Host.Math
import ScriptBind.Proofs.Session.Supply

/-!
# The reference host under the bundled description

The reference engine and the bundled description were written apart from each other. They agree:
whatever scripts have done, the host answers what a handler asks for with a value of the declared
type or refuses an argument.

Main results:

* `fulfils_of_covers` — a host that started as the reference host answers as the description
  declares.
* `reference_fulfils` — so it does for every request of a handler, at any time of a run.
* `reference_foreign_member` — for a name that only has the digest of a member it is asked as well.
-/

namespace ScriptBind

open Api (Document)

/-- The registry of the bundled description. -/
def Registry.bundled : Registry :=
  match Registry.ofApi Document.bundled with
  | .ok r => r
  | .error _ => default

theorem Registry.ofApi_bundled : Registry.ofApi Document.bundled = .ok Registry.bundled := by
  have accepted : (Registry.ofApi Document.bundled).isOk := by decide +kernel
  unfold bundled
  cases built : Registry.ofApi Document.bundled with
  | ok r => rfl
  | error e =>
    rw [built] at accepted
    cases accepted

/-- What a host does with a request is what a description says: it answers as declared, unless the
answer does not fit its width. What it writes for a value may be anything. -/
def Host.Fulfils (h : Host) (d : Document) (q : Request) : Prop :=
  (∃ v, q = .stringify v) ∨ ∃ t, d.Promises q t ∧ (¬ h.Exceeds q → Suits t (h.answer q))

namespace CoreClasses

theorem apart_hierarchyNames : HashesApart Document.bundled.hierarchyNames := by decide +kernel

/-- The registry and the class database agree on the ancestors of an object. -/
theorem derives_of_isSubclass {db : ClassDb} (healthy : Healthy db) {id : ObjectId}
    {o : EngineObject} (alive : db.object? id = some o) {e : Api.ClassEntry}
    (he : e ∈ Document.bundled.classes)
    (derives : Registry.bundled.isSubclass o.cls e.name = true) :
    db.isParentClass o.cls e.name = .ok true := by
  -- a sound object is of a core class, and this is described
  obtain ⟨k, hk, named⟩ := (healthy.sound _ (Keyed.mem_of_get? alive)).registered
  obtain ⟨e', he', same, -⟩ := exists_entry hk
  obtain ⟨x, hx, made⟩ := Registry.exists_class Registry.ofApi_bundled he'
  have name_eq : o.cls = x.name := by rw [(Registry.Class.of_ofApi made).1, same, named]
  have listed : e.name ∈ Document.bundled.hierarchyNames :=
    List.mem_flatMap.mpr ⟨e, he, List.mem_cons_self⟩
  rw [name_eq] at derives ⊢
  rw [ClassDb.isParentClass_eq Registry.ofApi_bundled apart_hierarchyNames
    (mirrors_bundled healthy.classes)
    (apart_hierarchyNames.subset (List.cons_subset.mpr ⟨listed, fun _ h => h⟩)) hx, derives]

end CoreClasses

/-- A host that started as the reference host answers what the bundled description covers as this
declares. -/
theorem fulfils_of_covers {h : Host} (lives : Host.reference.Lives h) {q : Request}
    (covers : Document.bundled.Covers Registry.bundled h q) : h.Fulfils Document.bundled q := by
  have engine : h.engine = Engine.reference := lives.engine
  have healthy : CoreClasses.Healthy h.classes := CoreClasses.healthy_core.steps lives.classes
  obtain v | ⟨promises, live⟩ := covers
  · exact .inl ⟨v, rfl⟩
  refine .inr ⟨_, promises, fun fits => ?_⟩
  cases promises with
  | constant hb tag hk =>
    rw [Host.answer, engine]
    exact Math.suits_constant hb tag hk
  | construct hb tag hk takes =>
    rw [Host.answer, engine]
    exact Math.suits_construct hb tag hk takes
  | call hb tag hm nonstatic =>
    rw [Host.answer, engine]
    exact Math.suits_answer _ hb tag hm nonstatic fits
  | callStatic hb tag hm static =>
    rw [Host.answer, engine]
    exact Math.suits_callStatic hb tag hm static _
  | member hb tag hm =>
    rw [Host.answer, engine]
    exact Math.suits_member hb tag hm
  | instantiate he instantiable =>
    obtain ⟨id, made⟩ := healthy.suits_instantiate he instantiable
    rw [Host.answer, made]
    exact fun tag declared => Option.some.inj declared
  | callObject he hm =>
    -- the object is of the class as the registry sees it, and so it is as the host does
    obtain ⟨o, alive, derives⟩ := live _ _ _ _ rfl
    rw [Host.answer]
    refine healthy.suits_call he hm alive
      (CoreClasses.derives_of_isSubclass healthy alive he derives) _ fun named full => ?_
    exact fits (named ▸ .addChild alive full)

/-- Against a host that started as the reference host and a registry of the bundled description, at
any time of a run: a handler asks the host for one thing at most, and the host answers as the
description declares, with a value of the declared type or the refusal of an argument. So it does
for a constant that is pushed without a handler. A handler that relies on what its function carries must
have been supplied with it, and a name that is looked up in a value must not have the digest of a
member with another name. -/
theorem reference_fulfils {w₀ w : World} {c : Context}
    (reference : w₀.hosts[c.host]? = some Host.reference)
    (bundled : w₀.registries[c.registry]? = some Registry.bundled) (later : Proceeds w₀ w)
    (context : w.state.context = some c) :
    (∀ h : Handler, (h ∈ Handler.relying → Supplied w₀ c h w.state.upvalues) →
      (h = .builtinMemberIndex → ∀ key, w.state.checkText 2 = .ok key →
        HashesApart (key :: Document.bundled.memberNames)) →
      ScriptM.Deals ((w.host c.host).Fulfils Document.bundled) c.host w (h.run w).2) ∧
    ∀ (type : NativeType) (k : Constant), w.Declares c.registry k →
      ScriptM.Deals ((w.host c.host).Fulfils Document.bundled) c.host w
        (ScriptM.pushConstantAs type k w).2 := by
  obtain ⟨h, known, lives⟩ := later.host_known reference
  have registry := World.registry_eq (later.registry_known bundled)
  -- the host may have been asked for more by now, but its classes are the same
  have fulfils : ∀ q, Document.bundled.Covers Registry.bundled (w.host c.host) q →
      (w.host c.host).Fulfils Document.bundled q := by
    rw [World.host_eq known]
    exact fun q => fulfils_of_covers lives
  refine ⟨fun h supplied apart => ?_, fun type k declares => ?_⟩
  · have bound : h.Bound Registry.bundled w.state.upvalues :=
      Handler.bound_of_relying fun relying => (supplied relying).bound bundled
    exact (ScriptM.handler_deals Registry.ofApi_bundled registry context bound apart).mono fulfils
  · exact ScriptM.deals_pushConstantAs context type
      (fulfils _ (ScriptM.covers_constant Registry.ofApi_bundled registry declares))

namespace World

/-- A state with the reference host and the bundled description. -/
def ofReference : World :=
  { Session.emptyWorld with
    state := { State.new ⟨0⟩ with context := some ⟨0, 0⟩ }
    hosts := #[Host.reference]
    registries := #[Registry.bundled] }

/-- A vector on the stack, and a name to look up in it. -/
def looking (key : String) : World :=
  ((do
    ScriptM.pushBuiltin (.vector2 ⟨1, 2⟩)
    ScriptM.push (.string key) : ScriptM Unit) ofReference).2

theorem proceeds_looking (key : String) : Proceeds ofReference (looking key) :=
  .evolves ((Evolving.pushBuiltin _).bind (fun _ => .push _) ofReference)

/-- The libraries of the classes are open, and `new` of nodes has been called. -/
def constructing : World := (ScriptM.openClasses ofReference).2.entered 0 ⟨9⟩

theorem proceeds_constructing : Proceeds ofReference constructing :=
  (Proceeds.evolves (Evolving.openClasses ofReference)).trans (.state _ _)

theorem supplied_constructing
    (handler : (ScriptM.openClasses ofReference).2.handler? ⟨9⟩ = some .classCtor) :
    Supplied ofReference ⟨0, 0⟩ .classCtor constructing.state.upvalues := by
  obtain ⟨g, made, code⟩ := World.handler?_eq_some.mp handler
  refine ⟨ofReference, ScriptM.openClasses, 9, g, .refl _, rfl, List.mem_cons_self, Nat.zero_le _,
    made, code, ?_⟩
  simp only [constructing, World.entered, State.upvalues, made]
  rfl

end World

/-- A coordinate of a vector is read, and a node is constructed. -/
theorem reference_fulfils_coordinate :
    let w := World.looking "x"
    let v := World.constructing
    (w.state.checkText 2 = .ok "x" ∧ HashesApart ("x" :: Document.bundled.memberNames) ∧
      (ScriptM.builtinMemberIndex w).2.dealings = [(0, .member (.vector2 ⟨1, 2⟩) "x")] ∧
      ScriptM.Deals ((w.host 0).Fulfils Document.bundled) 0 w (ScriptM.builtinMemberIndex w).2) ∧
    Supplied World.ofReference ⟨0, 0⟩ .classCtor v.state.upvalues ∧
      (ScriptM.classConstructor v).2.dealings = [(0, .instantiate "Node")] ∧
      ScriptM.Deals ((v.host 0).Fulfils Document.bundled) 0 v (ScriptM.classConstructor v).2 := by
  intro w v
  have reference : World.ofReference.hosts[0]? = some Host.reference := rfl
  have bundled : World.ofReference.registries[0]? = some Registry.bundled := by
    simp [World.ofReference]
  constructor
  · have facts : w.state.context = some ⟨0, 0⟩ ∧ w.state.checkText 2 = .ok "x" ∧
        (ScriptM.builtinMemberIndex w).2.dealings = [(0, .member (.vector2 ⟨1, 2⟩) "x")] := by
      decide +kernel
    obtain ⟨context, given, dealt⟩ := facts
    -- no member of the description has the digest of the coordinate's name but itself
    have apart : HashesApart ("x" :: Document.bundled.memberNames) := by decide +kernel
    refine ⟨given, apart, dealt, ?_⟩
    have later := World.proceeds_looking "x"
    refine (reference_fulfils (c := ⟨0, 0⟩) reference bundled later context).1
      .builtinMemberIndex (fun relying => absurd relying (by decide)) fun _ key same => ?_
    cases given.symm.trans same
    exact apart
  · have facts : v.state.context = some ⟨0, 0⟩ ∧
        (ScriptM.openClasses World.ofReference).2.handler? ⟨9⟩ = some .classCtor ∧
        (ScriptM.classConstructor v).2.dealings = [(0, .instantiate "Node")] := by
      decide +kernel
    obtain ⟨context, handler, dealt⟩ := facts
    have supplied := World.supplied_constructing handler
    exact ⟨supplied, dealt,
      (reference_fulfils (c := ⟨0, 0⟩) reference bundled World.proceeds_constructing context).1
        .classCtor (fun _ => supplied) fun member => absurd member (by decide)⟩

/-- A name that is no member's has the digest of one: it is read, and the host knows no such
member. -/
theorem reference_foreign_member :
    let w := World.looking "jvcGGLhUeyoT"
    let read := Request.member (.vector2 ⟨1, 2⟩) "jvcGGLhUeyoT"
    "jvcGGLhUeyoT" ∉ Document.bundled.memberNames ∧
      (ScriptM.builtinMemberIndex w).2.dealings = [(0, read)] ∧
      (w.host 0).answer read = .error (.memberNotFound .vector2 "jvcGGLhUeyoT") := by
  decide +kernel

end ScriptBind
