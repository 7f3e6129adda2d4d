import ScriptBind.ClassDb.Core
import ScriptBind.Proofs.ClassDb.Life
import ScriptBind.Proofs.ClassDb.Mirror
import ScriptBind.Proofs.Host.Answers

/-!
# The core classes and the bundled description

Objects of the core classes keep the types of their properties: every method writes a property with
a value of the type that its initial value has, and meta values and notifications go elsewhere. So a
method that reads a property answers with a value of the declared type, whatever has happened to the
object before.

Main results:

* `described` — every described class is a core class, whose methods keep objects sound and answer
  as the bundled description declares.
* `mirrors_bundled` — the core classes are those of the bundled description.
* `Healthy.steps` — the objects of a database that starts with the core classes stay sound.
* `Healthy.suits_instantiate`, `Healthy.suits_call` — the answers of such a database.
-/

namespace ScriptBind

namespace CoreClasses

open ClassDb (core)

/-! ## Properties -/

/-- The declared properties with the types of their initial values. -/
def propertyTags : List (String × Tag) :=
  core.classes.flatMap fun c => c.2.defaults.map fun p => (p.1, p.2.tag)

/-- The declared properties of the core classes, each of one type. -/
theorem propertyTags_eq :
    propertyTags =
      [("name", .stringName), ("child_count", .int), ("process_mode", .int), ("visible", .bool),
        ("position", .vector2), ("rotation", .float)] := rfl

/-- A value may be stored under a name: if a property of the name is declared, it has its type. -/
def Storable (property : String) (v : Variant) : Prop :=
  ∀ t, (property, t) ∈ propertyTags → v.tag = t

/-- A value of the declared type may be stored. -/
theorem storable_tag {property : String} {t : Tag} (declared : (property, t) ∈ propertyTags)
    {v : Variant} (tag : v.tag = t) : Storable property v := by
  intro u mem
  have nodup : (propertyTags.map Prod.fst).Nodup := by decide
  rw [tag, (Prod.mk.inj (List.inj_on_of_nodup_map nodup declared mem rfl)).2]

/-- Under a name that is not declared anything may be stored. -/
theorem storable_other {property : String} (other : ∀ q ∈ propertyTags, q.1 ≠ property)
    (v : Variant) : Storable property v :=
  fun _ mem => absurd rfl (other _ mem)

/-- Meta values are not stored under names of properties. -/
theorem storable_meta (name : String) (v : Variant) : Storable (metaProperty name) v := by
  refine storable_other (fun q hq same => ?_) v
  -- the first letter tells them apart
  have apart : ∀ q ∈ propertyTags, q.1.toList.head? ≠ some 'm' := by
    rw [propertyTags_eq]
    decide
  refine apart q hq ?_
  rw [same, metaProperty, String.toList_append]
  rfl

/-- What an object is after a method: the same one, with some of its properties set. -/
structure Kept (o o' : EngineObject) : Prop where
  id : o'.id = o.id
  cls : o'.cls = o.cls
  property (name : String) : Keyed.get? name o'.properties = Keyed.get? name o.properties ∨
    ∃ v, Keyed.get? name o'.properties = some v ∧ Storable name v

namespace Kept

/-- A method may leave the object alone. -/
theorem refl (o : EngineObject) : Kept o o := ⟨rfl, rfl, fun _ => .inl rfl⟩

/-- A method may set a property to a value that may be stored under its name. -/
theorem set {o : EngineObject} {property : String} {v : Variant} (storable : Storable property v) :
    Kept o (o.set property v) := by
  refine ⟨rfl, rfl, fun name => ?_⟩
  by_cases same : name = property
  · subst same
    exact .inr ⟨v, Keyed.get?_put_self .., storable⟩
  · exact .inl (Keyed.get?_put_ne same ..)

end Kept

/-- An object of a core class has the properties that its classes declare, and all of its declared
properties have their types. -/
structure Sound (o : EngineObject) : Prop where
  registered : ∃ c ∈ core.classes, c.1 = o.cls
  typed : ∀ name v, Keyed.get? name o.properties = some v → Storable name v
  present : ∀ c ∈ core.classes, core.lineage.isA? o.cls c.1 = some true →
    ∀ p ∈ c.2.defaults, (Keyed.get? p.1 o.properties).isSome

namespace Sound

variable {o o' : EngineObject}

/-- What a method leaves of a sound object is sound. -/
theorem kept (sound : Sound o) (kept : Kept o o') : Sound o' := by
  obtain ⟨registered, typed, present⟩ := sound
  refine ⟨kept.cls ▸ registered, fun name v found => ?_, fun c hc derives p hp => ?_⟩
  -- a property is what it was, or has been set to what may be stored under its name
  · rcases kept.property name with same | ⟨v', set, storable⟩
    · exact typed name v (same ▸ found)
    · rw [set] at found
      cases found
      exact storable
  · rw [kept.cls] at derives
    rcases kept.property p.1 with same | ⟨v', set, -⟩
    · rw [same]
      exact present c hc derives p hp
    · rw [set]
      rfl

/-- A property that a class of the object declares has the type of its initial value. -/
theorem tag_get (sound : Sound o) {c : String × ClassDef} (hc : c ∈ core.classes)
    (derives : core.lineage.isA? o.cls c.1 = some true) {p : String × Variant}
    (hp : p ∈ c.2.defaults) : (o.get p.1).tag = p.2.tag := by
  obtain ⟨v, found⟩ := Option.isSome_iff_exists.mp (sound.present c hc derives p hp)
  rw [EngineObject.get, found]
  refine sound.typed p.1 v found _ (List.mem_flatMap.mpr ⟨c, hc, ?_⟩)
  exact List.mem_map_of_mem (f := fun p : String × Variant => (p.1, p.2.tag)) hp

end Sound

/-! ## The classes one by one -/

/-- What holds of every core class. -/
theorem core_classes {motive : String → ClassDef → Prop} (object : motive "Object" objectClass)
    (refCounted : motive "RefCounted" refCountedClass) (node : motive "Node" nodeClass)
    (canvasItem : motive "CanvasItem" canvasItemClass) (node2D : motive "Node2D" node2DClass)
    {c : String × ClassDef} (hc : c ∈ core.classes) : motive c.1 c.2 := by
  have listed : c ∈ [("Object", objectClass), ("RefCounted", refCountedClass), ("Node", nodeClass),
      ("CanvasItem", canvasItemClass), ("Node2D", node2DClass)] := hc
  simp only [List.mem_cons, List.not_mem_nil, or_false] at listed
  rcases listed with rfl | rfl | rfl | rfl | rfl
  · exact object
  · exact refCounted
  · exact node
  · exact canvasItem
  · exact node2D

/-- The properties of a new object have their types, and none is missing. -/
theorem initialProperties_core {c : String × ClassDef} (hc : c ∈ core.classes)
    {chain : List ClassDef} (walked : core.chain? core.classes.length (some c.2) = some chain) :
    (∀ p ∈ ClassDb.initialProperties chain, ∀ q ∈ propertyTags, q.1 = p.1 → p.2.tag = q.2) ∧
      ∀ k ∈ core.classes, core.lineage.isA? c.1 k.1 = some true →
        ∀ p ∈ k.2.defaults, (Keyed.get? p.1 (ClassDb.initialProperties chain)).isSome := by
  revert walked
  refine core_classes (motive := fun name d =>
    core.chain? core.classes.length (some d) = some chain →
      (∀ p ∈ ClassDb.initialProperties chain, ∀ q ∈ propertyTags, q.1 = p.1 → p.2.tag = q.2) ∧
        ∀ k ∈ core.classes, core.lineage.isA? name k.1 = some true →
          ∀ p ∈ k.2.defaults, (Keyed.get? p.1 (ClassDb.initialProperties chain)).isSome)
    ?_ ?_ ?_ ?_ ?_ hc
  -- each chain is one list of definitions, with few properties
  all_goals
    intro walked
    cases walked
    decide

/-- An object is sound when it is created. -/
theorem sound_new {db : ClassDb} (classes : db.classes = core.classes) {cls : String} {d : ClassDef}
    {chain : List ClassDef} (id : ObjectId) (found : db.class? cls = some d)
    (walked : db.chain? db.classes.length (some d) = some chain) :
    Sound ⟨id, cls, ClassDb.initialProperties chain⟩ := by
  rw [ClassDb.class?_congr classes] at found
  rw [ClassDb.chain?_congr classes, classes] at walked
  have listed : (cls, d) ∈ core.classes := Keyed.mem_of_get? found
  obtain ⟨typed, present⟩ := initialProperties_core listed walked
  exact ⟨⟨_, listed, rfl⟩,
    fun name v stored t mem => typed _ (Keyed.mem_of_get? stored) _ mem rfl, present⟩

/-! ## Methods -/

/-- A method of the class `k` keeps objects sound and answers as `m` declares. -/
structure Honours (k : ClassDef) (m : Api.ClassMethod) (run : ObjectMethod) : Prop where
  keeps (lineage : Lineage) (o : EngineObject) (args : List Variant) :
    Kept o (run lineage o args).2
  suits {o : EngineObject} (args : List Variant) (sound : Sound o)
    (derives : core.lineage.isA? o.cls k.name = some true)
    (holds : m.name = "add_child" → o.get "child_count" ≠ .int Int64.maxValue) :
    Suits (m.returnValue.map fun r => ArgType.parse r.type) (run core.lineage o args).1

/-! ### Arguments -/

/-- An argument that is not a text is refused as invalid. -/
theorem refuses_textArg (method : String) (args : List Variant) (index : Nat) :
    Refuses (textArg method args index) := by
  unfold textArg
  split
  · exact .ok _
  · exact .invalidArgument _ _ _

/-- An argument that is not an integer is refused as invalid. -/
theorem refuses_intArg (method : String) (args : List Variant) (index : Nat) :
    Refuses (intArg method args index) := by
  unfold intArg
  split
  · exact .ok _
  · exact .invalidArgument _ _ _

/-- The way up from a core class ends, whatever is looked for. -/
theorem isSome_isA? {cls : String} (registered : ∃ c ∈ core.classes, c.1 = cls)
    (ancestor : String) : ∃ answer, core.lineage.isA? cls ancestor = some answer := by
  obtain ⟨c, hc, rfl⟩ := registered
  have ends : ∀ c ∈ core.classes,
      (core.chain? core.classes.length (core.class? c.1)).isSome := by decide
  have searched := ClassDb.isSome_search ancestor (ends c hc)
  have size : core.lineage.length = core.classes.length := List.length_map _
  rw [← size] at searched
  exact Option.isSome_iff_exists.mp searched

/-! ### Shapes of methods -/

/-- A method that reads an argument first. -/
theorem honours_checked {α : Type} {k : ClassDef} {m : Api.ClassMethod} {run : ObjectMethod}
    {arg : List Variant → Except HostError α} (refuses : ∀ args, Refuses (arg args))
    (failed : ∀ lineage o args e, arg args = .error e → run lineage o args = (.error e, o))
    (keeps : ∀ lineage o args a, arg args = .ok a → Kept o (run lineage o args).2)
    (suits : ∀ o args a, arg args = .ok a → Sound o →
      Suits (m.returnValue.map fun r => ArgType.parse r.type) (run core.lineage o args).1) :
    Honours k m run where
  keeps lineage o args := by
    cases h : arg args with
    | error e =>
      rw [failed lineage o args e h]
      exact .refl o
    | ok a => exact keeps lineage o args a h
  suits {o} args sound _ _ := by
    cases h : arg args with
    | error e =>
      obtain ⟨_, _, _, rfl⟩ := refuses args e h
      rw [failed core.lineage o args _ h]
      exact True.intro
    | ok a => exact suits o args a h sound

/-- A method that only reads an object. -/
theorem honours_reading {k : ClassDef} {m : Api.ClassMethod} {f : EngineObject → Variant}
    (suits : ∀ o, Sound o → core.lineage.isA? o.cls k.name = some true →
      (f o).IsOf (m.returnValue.map fun r => ArgType.parse r.type)) :
    Honours k m (reading f) where
  keeps _ o _ := .refl o
  suits _ sound derives _ := suits _ sound derives

/-- A method that reports a declared property. -/
theorem honours_getting {k : ClassDef} {m : Api.ClassMethod} {property : String} {v : Variant}
    {type : String} (hk : (k.name, k) ∈ core.classes) (hp : (property, v) ∈ k.defaults)
    (result : m.returnValue = some ⟨type⟩) (tag : ∀ t ∈ (ArgType.parse type).tag?, v.tag = t) :
    Honours k m (getting property) := by
  refine honours_reading fun o sound derives => ?_
  rw [result]
  intro t ht
  rw [← tag t ht]
  exact sound.tag_get hk derives hp

/-- A method without result that sets a declared property or refuses an argument. -/
theorem honours_setting {k : ClassDef} {m : Api.ClassMethod} {property : String} {t : Tag}
    {value : EngineObject → List Variant → Except HostError Variant} (result : m.returnValue = none)
    (declared : (property, t) ∈ propertyTags)
    (suits : ∀ o args, Suits (some (.builtin t)) (value o args)) :
    Honours k m (setting property value) where
  keeps _ o args := by
    have suits := suits o args
    unfold setting
    cases h : value o args with
    | ok v =>
      rw [h] at suits
      exact .set (storable_tag declared (suits t rfl))
    -- an argument that is refused changes nothing
    | error e => exact .refl o
  suits {o} args _ _ _ := by
    rw [result]
    unfold setting
    cases h : value o args with
    | ok v => exact rfl
    | error e =>
      obtain ⟨_, _, _, rfl⟩ := (suits o args).refuses e h
      exact True.intro

/-! ### Object -/

/-- Whether the object is of a class is a boolean. -/
theorem honours_isClass {k : ClassDef} {m : Api.ClassMethod}
    (result : m.returnValue = some ⟨"bool"⟩) : Honours k m isClass := by
  refine honours_checked (fun args => refuses_textArg "is_class" args 0) ?_ ?_ ?_
  · intro lineage o args e failed
    rw [isClass, failed]
  · intro lineage o args name given
    rw [isClass, given]
    dsimp only
    split <;> exact .refl o
  · intro o args name given sound
    obtain ⟨answer, known⟩ := isSome_isA? sound.registered name
    rw [isClass, given]
    dsimp only
    rw [known, result]
    exact (Variant.bool answer).isOf_parse

/-- To store a meta value touches no property. -/
theorem honours_setMeta {k : ClassDef} {m : Api.ClassMethod} (result : m.returnValue = none) :
    Honours k m setMeta := by
  refine honours_checked (fun args => refuses_textArg "set_meta" args 0) ?_ ?_ ?_
  · intro lineage o args e failed
    rw [setMeta, failed]
  · intro lineage o args name given
    rw [setMeta, given]
    exact .set (storable_meta name _)
  · intro o args name given sound
    rw [setMeta, given, result]
    exact rfl

/-- To read a meta value may answer with anything, as is declared. -/
theorem honours_getMeta {k : ClassDef} {m : Api.ClassMethod}
    (result : m.returnValue = some ⟨"Variant"⟩) : Honours k m getMeta := by
  refine honours_checked (fun args => refuses_textArg "get_meta" args 0) ?_ ?_ ?_
  · intro lineage o args e failed
    rw [getMeta, failed]
  · intro lineage o args name given
    rw [getMeta, given]
    exact .refl o
  · intro o args name given sound
    rw [getMeta, given, result]
    exact Variant.isOf_any _

/-- A notification is counted apart from the properties. -/
theorem honours_notify {k : ClassDef} {m : Api.ClassMethod}
    (result : m.returnValue = some ⟨"int"⟩) : Honours k m notify := by
  refine honours_checked (fun args => refuses_intArg "notify" args 0) ?_ ?_ ?_
  · intro lineage o args e failed
    rw [notify, failed]
  · intro lineage o args what given
    rw [notify, given]
    exact .set (storable_other (by decide) _)
  · intro o args what given sound
    rw [notify, given, result]
    exact (Variant.int _).isOf_parse

/-! ### Every class -/

/-- What the core class of a name does for the entry of that name in the description. -/
def HonoursAll (e : Api.ClassEntry) (k : ClassDef) : Prop :=
  ∀ m ∈ e.methods, ∀ run, Keyed.get? m.name k.methods = some run → Honours k m run

/-- The methods of `Object`. -/
theorem honours_object : HonoursAll Api.objectClass objectClass := by
  intro m hm run own
  simp only [Api.objectClass, List.mem_cons, List.not_mem_nil, or_false] at hm
  rcases hm with rfl | rfl | rfl | rfl | rfl | rfl <;> cases own
  · exact honours_reading fun o _ _ => (Variant.string o.cls).isOf_parse
  · exact honours_isClass rfl
  · exact honours_reading fun o _ _ => (Variant.int o.id.number.toInt64).isOf_parse
  · exact honours_setMeta rfl
  · exact honours_getMeta rfl
  · exact honours_notify rfl

/-- The methods of `RefCounted`. -/
theorem honours_refCounted : HonoursAll Api.refCountedClass refCountedClass := by
  intro m hm run own
  simp only [Api.refCountedClass, List.mem_cons, List.not_mem_nil, or_false] at hm
  obtain rfl := hm
  cases own
  exact honours_reading fun _ _ _ => (Variant.int 1).isOf_parse

/-- The mode stays an integer. -/
theorem suits_processMode (o : EngineObject) (args : List Variant) :
    Suits (some (.builtin .int)) (processMode o args) := by
  refine .bind (refuses_intArg "set_process_mode" args 0) fun mode => ?_
  split
  · exact suits_built (.int mode)
  · exact True.intro

/-- A child more is counted as long as the count fits. -/
theorem suits_addChild {o : EngineObject} (args : List Variant)
    (holds : o.get "child_count" ≠ .int Int64.maxValue) :
    Suits (some (.builtin .int)) (addChild o args) := by
  unfold addChild
  split
  next child _ =>
    split
    · exact True.intro
    -- what is not a number counts as none, which is far from full
    · have fits : (o.get "child_count").asInt.getD 0 ≠ Int64.maxValue := by
        cases stored : o.get "child_count" with
        | int n => exact fun full => holds (stored.trans (congrArg Variant.int full))
        | _ => exact fun full => absurd (show (0 : Int64) = Int64.maxValue from full) (by decide)
      dsimp only
      rw [if_neg fits]
      exact suits_built (.int _)
  · exact True.intro

/-- The number of children stays an integer. -/
theorem tag_addChild {o : EngineObject} {args : List Variant} {v : Variant}
    (counted : addChild o args = .ok v) : v.tag = .int := by
  unfold addChild at counted
  split at counted
  · split at counted
    · cases counted
    · dsimp only at counted
      split at counted <;> cases counted
      rfl
  · cases counted

/-- The one method whose answer may not fit, which it then does not declare. -/
theorem honours_addChild {k : ClassDef} {m : Api.ClassMethod} (named : m.name = "add_child")
    (result : m.returnValue = none) : Honours k m (setting "child_count" addChild) where
  keeps _ o args := by
    unfold setting
    cases h : addChild o args with
    | ok v => exact .set (storable_tag (t := .int) (by decide) (tag_addChild h))
    | error e => exact .refl o
  suits {o} args _ _ holds := by
    rw [result]
    unfold setting
    cases h : addChild o args with
    | ok v => exact rfl
    | error e =>
      obtain ⟨_, _, _, rfl⟩ := (suits_addChild args (holds named)).refuses e h
      exact True.intro

/-- The methods of `Node`. -/
theorem honours_node : HonoursAll Api.nodeClass nodeClass := by
  intro m hm run own
  have listed : (nodeClass.name, nodeClass) ∈ core.classes := .tail _ (.tail _ (.head _))
  simp only [Api.nodeClass, List.mem_cons, List.not_mem_nil, or_false] at hm
  rcases hm with rfl | rfl | rfl | rfl | rfl | rfl <;> cases own
  · refine honours_setting (t := .stringName) rfl (by decide) fun o args => ?_
    exact .bind (refuses_textArg "set_name" args 0) fun s => suits_built (.stringName s)
  · exact honours_getting (v := .stringName "") listed (by decide) rfl (by decide)
  · exact honours_addChild rfl rfl
  · exact honours_getting (v := .int 0) listed (by decide) rfl (by decide)
  · exact honours_setting rfl (by decide) suits_processMode
  · exact honours_getting (v := .int 0) listed (by decide) rfl (by decide)

/-- The methods of `CanvasItem`. -/
theorem honours_canvasItem : HonoursAll Api.canvasItemClass canvasItemClass := by
  intro m hm run own
  have listed : (canvasItemClass.name, canvasItemClass) ∈ core.classes :=
    .tail _ (.tail _ (.tail _ (.head _)))
  simp only [Api.canvasItemClass, List.mem_cons, List.not_mem_nil, or_false] at hm
  rcases hm with rfl | rfl | rfl <;> cases own
  · exact honours_setting rfl (by decide) fun _ _ => suits_built (.bool true)
  · exact honours_setting rfl (by decide) fun _ _ => suits_built (.bool false)
  · exact honours_getting (v := .bool true) listed (by decide) rfl (by decide)

/-- The position stays a vector. -/
theorem suits_position (o : EngineObject) (args : List Variant) :
    Suits (some (.builtin .vector2)) (position o args) := by
  unfold position
  split
  next v _ => exact suits_built (.vector2 v)
  · exact True.intro

/-- The angle stays a float. -/
theorem suits_rotate (o : EngineObject) (args : List Variant) :
    Suits (some (.builtin .float)) (rotate o args) := by
  unfold rotate
  split
  · exact suits_built (.float _)
  · exact True.intro

/-- The methods of `Node2D`. -/
theorem honours_node2D : HonoursAll Api.node2DClass node2DClass := by
  intro m hm run own
  have listed : (node2DClass.name, node2DClass) ∈ core.classes :=
    .tail _ (.tail _ (.tail _ (.tail _ (.head _))))
  simp only [Api.node2DClass, List.mem_cons, List.not_mem_nil, or_false] at hm
  rcases hm with rfl | rfl | rfl | rfl <;> cases own
  · exact honours_setting rfl (by decide) suits_position
  · exact honours_getting (v := .vector2 Vector2.zero) listed (by decide) rfl (by decide)
  · exact honours_setting rfl (by decide) suits_rotate
  · exact honours_getting (v := .float 0) listed (by decide) rfl (by decide)

/-- Every described class is a core class with the parent and the methods that are described. -/
theorem described {e : Api.ClassEntry} (he : e ∈ Api.Document.bundled.classes) :
    ∃ k, core.class? e.name = some k ∧ k.name = e.name ∧ k.parent = e.inherits ∧
      k.isInstantiable = e.isInstantiable ∧
      k.methods.map Prod.fst = e.methods.map (fun m => m.name) ∧ HonoursAll e k := by
  simp only [Api.Document.bundled, List.mem_cons, List.not_mem_nil, or_false] at he
  rcases he with rfl | rfl | rfl | rfl | rfl
  · exact ⟨node2DClass, rfl, rfl, rfl, rfl, rfl, honours_node2D⟩
  · exact ⟨objectClass, rfl, rfl, rfl, rfl, rfl, honours_object⟩
  · exact ⟨refCountedClass, rfl, rfl, rfl, rfl, rfl, honours_refCounted⟩
  · exact ⟨nodeClass, rfl, rfl, rfl, rfl, rfl, honours_node⟩
  · exact ⟨canvasItemClass, rfl, rfl, rfl, rfl, rfl, honours_canvasItem⟩

/-- Every core class is described. -/
theorem exists_entry {c : String × ClassDef} (hc : c ∈ core.classes) :
    ∃ e ∈ Api.Document.bundled.classes, e.name = c.1 ∧ core.class? c.1 = some c.2 := by
  refine core_classes (motive := fun name k =>
    ∃ e ∈ Api.Document.bundled.classes, e.name = name ∧ core.class? name = some k) ?_ ?_ ?_ ?_ ?_ hc
  · exact ⟨Api.objectClass, .tail _ (.head _), rfl, rfl⟩
  · exact ⟨Api.refCountedClass, .tail _ (.tail _ (.head _)), rfl, rfl⟩
  · exact ⟨Api.nodeClass, .tail _ (.tail _ (.tail _ (.head _))), rfl, rfl⟩
  · exact ⟨Api.canvasItemClass, .tail _ (.tail _ (.tail _ (.tail _ (.head _)))), rfl, rfl⟩
  · exact ⟨Api.node2DClass, .head _, rfl, rfl⟩

/-- The core classes are what the bundled description says. -/
theorem mirrors_bundled {db : ClassDb} (classes : db.classes = core.classes) :
    db.Mirrors Api.Document.bundled where
  -- every class of the database has its entry, whose definition `described` knows
  declared {name} := by
    rw [ClassDb.class?_congr classes]
    constructor
    · intro known
      obtain ⟨k, found⟩ := Option.isSome_iff_exists.mp known
      obtain ⟨e, he, named, -⟩ := exists_entry (Keyed.mem_of_get? found)
      exact List.mem_map.mpr ⟨e, he, named⟩
    · intro listed
      obtain ⟨e, he, rfl⟩ := List.mem_map.mp listed
      obtain ⟨k, found, -⟩ := described he
      rw [found]
      rfl
  parent {e} he {k} found := by
    rw [ClassDb.class?_congr classes] at found
    obtain ⟨k', found', -, parent, -⟩ := described he
    cases found.symm.trans found'
    exact parent
  methods {e} he {k} found {name} := by
    rw [ClassDb.class?_congr classes] at found
    obtain ⟨k', found', -, -, -, names, -⟩ := described he
    cases found.symm.trans found'
    rw [Keyed.isSome_get?_iff, names]

/-! ## Over a run -/

/-- The database has the core classes, and all of its objects are sound. -/
structure Healthy (db : ClassDb) : Prop where
  classes : db.classes = core.classes
  sound : ∀ p ∈ db.objects, Sound p.2

/-- There are no objects in the beginning. -/
theorem healthy_core : Healthy core := ⟨rfl, fun _ hp => absurd hp List.not_mem_nil⟩

/-- A method of a core class leaves the same object, with some of its properties set. -/
theorem kept_core {c : String × ClassDef} (hc : c ∈ core.classes) {m : String × ObjectMethod}
    (hm : m ∈ c.2.methods) (lineage : Lineage) (o : EngineObject) (args : List Variant) :
    Kept o (m.2 lineage o args).2 := by
  obtain ⟨e, he, named, found⟩ := exists_entry hc
  obtain ⟨k, found', -, -, -, names, honours⟩ := described he
  rw [named] at found'
  cases found.symm.trans found'
  -- the method is the one that is found under its name
  have nodup : (c.2.methods.map Prod.fst).Nodup := by
    refine core_classes (motive := fun _ k => (k.methods.map Prod.fst).Nodup) ?_ ?_ ?_ ?_ ?_ hc
    all_goals decide
  have listed : m.1 ∈ e.methods.map fun m => m.name := by
    rw [← names]
    exact List.mem_map_of_mem hm
  obtain ⟨x, hx, same⟩ := List.mem_map.mp listed
  have own : Keyed.get? x.name c.2.methods = some m.2 := by
    rw [same]
    exact (Registry.get?_eq_some_iff nodup).mpr hm
  exact (honours x hx m.2 own).keeps lineage o args

/-- A method of a core class keeps objects sound. -/
theorem keeps_sound {c : String × ClassDef} (hc : c ∈ core.classes) {m : String × ObjectMethod}
    (hm : m ∈ c.2.methods) (lineage : Lineage) {o : EngineObject} (args : List Variant)
    (sound : Sound o) : Sound (m.2 lineage o args).2 :=
  sound.kept (kept_core hc hm lineage o args)

namespace Healthy

variable {db db' : ClassDb}

/-- A step of the database leaves all objects sound. -/
theorem step (healthy : Healthy db) (step : db.Step db') : Healthy db' := by
  obtain ⟨classes, sound⟩ := healthy
  refine ⟨step.classes_eq.trans classes, step.forall_objects ?_ ?_ sound⟩
  · exact fun cls d chain id found _ walked => sound_new classes id found walked
  · intro c hc m hm lineage o args
    exact keeps_sound (classes ▸ hc) hm lineage args

/-- Any number of steps leave all objects sound. -/
theorem steps (healthy : Healthy db) (steps : Relation.ReflTransGen ClassDb.Step db db') :
    Healthy db' := by
  induction steps with
  | refl => exact healthy
  | tail _ step ih => exact ih.step step

/-- An object of a class that is described and has instances can be created. -/
theorem suits_instantiate (healthy : Healthy db) {e : Api.ClassEntry}
    (he : e ∈ Api.Document.bundled.classes) (instantiable : e.isInstantiable = true) :
    ∃ id, (db.instantiate e.name).1 = .ok id := by
  obtain ⟨k, found, -, -, same, -⟩ := described he
  have walked : ∃ chain, db.chain? db.classes.length (some k) = some chain := by
    rw [ClassDb.chain?_congr healthy.classes, healthy.classes]
    have ends : ∀ c ∈ core.classes, (core.chain? core.classes.length (some c.2)).isSome := by
      decide
    exact Option.isSome_iff_exists.mp (ends _ (Keyed.mem_of_get? found))
  obtain ⟨chain, walked⟩ := walked
  rw [← ClassDb.class?_congr healthy.classes] at found
  unfold ClassDb.instantiate
  rw [found]
  dsimp only
  rw [same, instantiable, walked]
  exact ⟨_, rfl⟩

/-- A described method of a class answers as declared, for every live object of the class or of one
derived from it. -/
theorem suits_call (healthy : Healthy db) {e : Api.ClassEntry}
    (he : e ∈ Api.Document.bundled.classes) {m : Api.ClassMethod} (hm : m ∈ e.methods)
    {id : ObjectId} {o : EngineObject} (alive : db.object? id = some o)
    (derives : db.isParentClass o.cls e.name = .ok true) (args : List Variant)
    (holds : m.name = "add_child" → o.get "child_count" ≠ .int Int64.maxValue) :
    Suits (m.returnValue.map fun r => ArgType.parse r.type) (db.call id e.name m.name args).1 := by
  obtain ⟨k, found, named, -, -, names, honours⟩ := described he
  have listed : m.name ∈ k.methods.map Prod.fst := by
    rw [names]
    exact List.mem_map_of_mem hm
  obtain ⟨run, own⟩ := Option.isSome_iff_exists.mp (Keyed.isSome_get?_iff.mpr listed)
  have sound : Sound o := healthy.sound _ (Keyed.mem_of_get? alive)
  have lineage := ClassDb.lineage_congr healthy.classes
  -- the database asks its own lineage, which is that of the core classes
  have derives' : core.lineage.isA? o.cls k.name = some true := by
    unfold ClassDb.isParentClass at derives
    rw [lineage, ← named] at derives
    split at derives
    next answer known =>
      cases derives
      exact known
    next => cases derives
  rw [ClassDb.call_own alive derives (by rw [ClassDb.class?_congr healthy.classes, found]) own,
    lineage]
  exact (honours m hm run own).suits args sound derives' holds

end Healthy

end CoreClasses

end ScriptBind
