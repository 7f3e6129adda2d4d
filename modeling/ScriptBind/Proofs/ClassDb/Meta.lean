import ScriptBind.Proofs.ClassDb.Fresh
import ScriptBind.Proofs.ClassDb.Properties

/-!
# Meta values

Every object has a bag of meta values, which any script or host can set under any name. They share
the properties of the object with what its class declares, under names that begin with a mark of
their own, so no other method gets at them: what is stored under a name stays until a value is
stored under this name again, or the object is freed.

Main results:

* `call_setMeta`, `call_getMeta` — what the two methods answer and store.
* `metaValue?_call` — no other call touches a meta value.
* `Served.metaValue?_kept` — what an object holds under a name over the life of the object.
-/

namespace ScriptBind

namespace CoreClasses

open ClassDb (core)

/-! ## The names of meta values -/

/-- Different meta values are stored under different names. -/
theorem metaProperty_injective : Function.Injective metaProperty := by
  intro a b same
  have lists := congrArg String.toList same
  rw [metaProperty, metaProperty, String.toList_append, String.toList_append] at lists
  exact String.toList_injective (List.append_cancel_left lists)

/-- What begins with another letter is not where a meta value is stored. -/
theorem ne_metaProperty {property : String} (other : property.toList.head? ≠ some 'm')
    (name : String) : metaProperty name ≠ property := by
  rintro rfl
  refine other ?_
  rw [metaProperty, String.toList_append]
  rfl

/-- The meta value of an object under a name. -/
def metaOf? (o : EngineObject) (name : String) : Option Variant :=
  Keyed.get? (metaProperty name) o.properties

/-- A meta value that was stored is found. -/
theorem metaOf?_set (o : EngineObject) (name : String) (x : Variant) :
    metaOf? (o.set (metaProperty name) x) name = some x :=
  Keyed.get?_put_self ..

/-- A meta value stays when another property is set. -/
theorem metaOf?_set_ne {property name : String} (other : metaProperty name ≠ property)
    (o : EngineObject) (x : Variant) : metaOf? (o.set property x) name = metaOf? o name :=
  Keyed.get?_put_ne other ..

/-! ## What methods leave -/

/-- The call stores a meta value under a name. -/
def Stores (method : String) (args : List Variant) (name : String) : Prop :=
  method = "set_meta" ∧ args[0]?.bind Variant.asText = some name

/-- The method leaves the meta values alone that it does not store. -/
def KeepsMeta (m : String × ObjectMethod) : Prop :=
  ∀ lineage o args name, ¬ Stores m.1 args name →
    metaOf? (m.2 lineage o args).2 name = metaOf? o name

/-- To read a property leaves the meta values alone. -/
theorem keepsMeta_reading (method : String) (f : EngineObject → Variant) :
    KeepsMeta (method, reading f) :=
  fun _ _ _ _ _ => rfl

/-- A property whose name does not begin like that of a meta value leaves them alone. -/
theorem keepsMeta_setting (method : String) {property : String}
    (other : property.toList.head? ≠ some 'm')
    (value : EngineObject → List Variant → Except HostError Variant) :
    KeepsMeta (method, setting property value) := by
  intro lineage o args name _
  dsimp only
  unfold setting
  cases value o args with
  | ok v => exact metaOf?_set_ne (ne_metaProperty other name) o v
  | error e => rfl

/-- To ask for the class leaves the meta values alone. -/
theorem keepsMeta_isClass : KeepsMeta ("is_class", isClass) := by
  intro lineage o args name _
  dsimp only
  unfold isClass
  split
  · rfl
  · split <;> rfl

/-- A text argument is an argument with a text. -/
theorem textArg_eq_ok {method text : String} {args : List Variant} {index : Nat} :
    textArg method args index = .ok text ↔ args[index]?.bind Variant.asText = some text := by
  unfold textArg
  split
  next s given => rw [given, Except.ok.injEq, Option.some.injEq]
  next missing => simp [missing]

/-- To store a meta value leaves the others alone. -/
theorem keepsMeta_setMeta : KeepsMeta ("set_meta", setMeta) := by
  intro lineage o args name other
  dsimp only
  unfold setMeta
  split
  · rfl
  next text given =>
    refine metaOf?_set_ne (fun same => other ⟨rfl, ?_⟩) o _
    rw [metaProperty_injective same]
    exact textArg_eq_ok.mp given

/-- To read a meta value leaves all of them alone. -/
theorem keepsMeta_getMeta : KeepsMeta ("get_meta", getMeta) := by
  intro lineage o args name _
  dsimp only
  unfold getMeta
  split <;> rfl

/-- Notifications are counted apart from the meta values. -/
theorem keepsMeta_notify : KeepsMeta ("notify", notify) := by
  intro lineage o args name _
  dsimp only
  unfold notify
  split
  · rfl
  · exact metaOf?_set_ne (ne_metaProperty (by decide) name) o _

/-- No core method touches a meta value but the one that stores it. -/
theorem keepsMeta_core {c : String × ClassDef} (hc : c ∈ core.classes) :
    ∀ m ∈ c.2.methods, KeepsMeta m := by
  refine core_classes (motive := fun _ k => ∀ m ∈ k.methods, KeepsMeta m) ?_ ?_ ?_ ?_ ?_ hc
  · simp only [objectClass_methods, List.forall_mem_cons]
    exact ⟨keepsMeta_reading _ _, keepsMeta_isClass, keepsMeta_reading _ _, keepsMeta_setMeta,
      keepsMeta_getMeta, keepsMeta_notify, List.forall_mem_nil _⟩
  · simp only [refCountedClass_methods, List.forall_mem_cons]
    exact ⟨keepsMeta_reading _ _, List.forall_mem_nil _⟩
  · simp only [nodeClass_methods, List.forall_mem_cons]
    exact ⟨keepsMeta_setting _ (by decide) _, keepsMeta_reading _ _,
      keepsMeta_setting _ (by decide) _, keepsMeta_reading _ _, keepsMeta_setting _ (by decide) _,
      keepsMeta_reading _ _, List.forall_mem_nil _⟩
  · simp only [canvasItemClass_methods, List.forall_mem_cons]
    exact ⟨keepsMeta_setting _ (by decide) _, keepsMeta_setting _ (by decide) _,
      keepsMeta_reading _ _, List.forall_mem_nil _⟩
  · simp only [node2DClass_methods, List.forall_mem_cons]
    exact ⟨keepsMeta_setting _ (by decide) _, keepsMeta_reading _ _,
      keepsMeta_setting _ (by decide) _, keepsMeta_reading _ _, List.forall_mem_nil _⟩

end CoreClasses

namespace ClassDb

open CoreClasses

/-! ## Meta values of a database -/

/-- The meta value of a live object under a name. -/
def metaValue? (db : ClassDb) (id : ObjectId) (name : String) : Option Variant :=
  (db.object? id).bind fun o => metaOf? o name

section Calls

variable {db : ClassDb} (classes : db.classes = core.classes)
include classes

/-- An object keeps a meta value in a call that does not store it. -/
theorem metaOf?_response (o : EngineObject) (cls : String) {method : String} {args : List Variant}
    {name : String} (other : ¬ Stores method args name) :
    metaOf? (db.response o cls method args).2 name = metaOf? o name := by
  unfold response
  split
  · rfl
  · rfl
  · split
    · rfl
    next run found =>
      obtain ⟨c, hc, mem⟩ := method_of_found found
      exact keepsMeta_core (classes ▸ hc) _ mem _ o args name other

/-- A call leaves all meta values alone but the one that it stores. -/
theorem metaValue?_call (id : ObjectId) (cls : String) {method : String} {args : List Variant}
    {j : ObjectId} {name : String} (other : j = id → ¬ Stores method args name) :
    (db.call id cls method args).2.metaValue? j name = db.metaValue? j name := by
  unfold metaValue?
  by_cases here : j = id
  · subst here
    cases alive : db.object? j with
    | none => rw [call_dead alive, alive]
    | some o =>
      rw [object?_call_self db j cls method args alive]
      exact metaOf?_response classes o cls (other rfl)
  · rw [object?_call_ne db id cls method args here]

section Object

variable {id : ObjectId} {o : EngineObject} (alive : db.object? id = some o) (sound : Sound o)
include alive sound

/-- The root class has a method for all objects. -/
theorem call_object {method : String} {run : ObjectMethod}
    (own : Keyed.get? method objectClass.methods = some run) (args : List Variant) :
    db.call id "Object" method args =
      ((run core.lineage o args).1,
        { db with objects := Keyed.put id (run core.lineage o args).2 db.objects }) := by
  obtain ⟨c, hc, named⟩ := sound.registered
  have above : ∀ c ∈ core.classes, core.lineage.isA? c.1 "Object" = some true := by decide
  have derives : db.isParentClass o.cls "Object" = .ok true := by
    rw [isParentClass_eq_ok, lineage_congr classes, ← named]
    exact above c hc
  have found : db.findMethod "Object" method db.classes.length (db.class? "Object") = .ok run := by
    have size : core.classes.length = 4 + 1 := rfl
    have known : core.class? "Object" = some objectClass := rfl
    rw [class?_congr classes, classes, known, size, findMethod, own]
  rw [call_live alive, response, derives]
  dsimp only
  rw [found, lineage_congr classes]

/-- A value is stored under the text of a name. -/
theorem call_setMeta {args : List Variant} {name : String}
    (text : args[0]?.bind Variant.asText = some name) :
    (db.call id "Object" "set_meta" args).1 = .ok .nil ∧
      (db.call id "Object" "set_meta" args).2.metaValue? id name = some (args.getD 1 .nil) := by
  have stored : setMeta core.lineage o args =
      (.ok .nil, o.set (metaProperty name) (args.getD 1 .nil)) := by
    rw [setMeta, textArg_eq_ok.mpr text]
  have own : Keyed.get? "set_meta" objectClass.methods = some setMeta := rfl
  rw [call_object classes alive sound own, stored]
  refine ⟨rfl, ?_⟩
  have here (stored : EngineObject) :
      { db with objects := Keyed.put id stored db.objects }.object? id = some stored :=
    Keyed.get?_put_self ..
  rw [metaValue?, here]
  exact metaOf?_set o name _

/-- What is stored under a name is answered, or else the default. -/
theorem call_getMeta {args : List Variant} {name : String}
    (text : args[0]?.bind Variant.asText = some name) :
    db.call id "Object" "get_meta" args =
      (.ok ((db.metaValue? id name).getD (args.getD 1 .nil)), db) := by
  have read : getMeta core.lineage o args =
      (.ok ((metaOf? o name).getD (args.getD 1 .nil)), o) := by
    rw [getMeta, textArg_eq_ok.mpr text]
    rfl
  have own : Keyed.get? "get_meta" objectClass.methods = some getMeta := rfl
  rw [call_object classes alive sound own, read, Keyed.put_present alive,
    metaValue?, alive]
  rfl

end Object

end Calls

/-! ## Over the life of a database -/

/-- The deed neither stores a value under this name in this object nor frees the object. -/
def Deed.LeavesMeta (id : ObjectId) (name : String) : Deed → Prop
  | call j _ method args _ => j = id → ¬ Stores method args name
  | free j _ => j ≠ id
  | instantiate _ _ => True

/-- What leaves the meta values of an object alone does not free it. -/
theorem Deed.LeavesMeta.not_frees {deed : Deed} {id : ObjectId} {name : String}
    (leaves : deed.LeavesMeta id name) (answer : Bool) : deed ≠ .free id answer := by
  rintro rfl
  exact leaves rfl

/-- No object is lost but the one that is freed. -/
theorem Does.alive_kept {db db' : ClassDb} {deed : Deed} (does : Does db deed db') {id : ObjectId}
    (stays : ∀ answer, deed ≠ .free id answer) (alive : (db.object? id).isSome) :
    (db'.object? id).isSome := by
  cases does with
  | instantiate cls =>
    cases made : db.instantiate cls with
    | mk answer db' =>
      cases answer with
      | error e => rwa [instantiate_refused made]
      | ok j =>
        obtain ⟨-, o, -, rfl⟩ := instantiate_ok made
        -- an id that is given out again would be put over, which leaves it listed
        by_cases here : id = j
        · subst here
          exact Option.isSome_of_eq_some (Keyed.get?_put_self id o db.objects)
        · exact (congrArg Option.isSome (Keyed.get?_put_ne here o db.objects)).trans alive
  | call j cls method args =>
    by_cases here : id = j
    · subst here
      obtain ⟨o, alive⟩ := Option.isSome_iff_exists.mp alive
      exact Option.isSome_of_eq_some (object?_call_self db id cls method args alive)
    · rwa [object?_call_ne db j cls method args here]
  | free j =>
    have other : id ≠ j := by
      rintro rfl
      exact stays _ rfl
    exact (congrArg Option.isSome (Keyed.get?_erase_ne other db.objects)).trans alive

/-- A deed leaves the meta values that it does not store in an object that it does not create. -/
theorem Does.metaValue?_kept {db db' : ClassDb} {deed : Deed} (does : Does db deed db')
    (classes : db.classes = core.classes) {id : ObjectId} {name : String}
    (leaves : deed.LeavesMeta id name) (fresh : deed.created? ≠ some id) :
    db'.metaValue? id name = db.metaValue? id name := by
  cases does with
  | instantiate cls =>
    cases made : db.instantiate cls with
    | mk answer db' =>
      cases answer with
      | error e => rw [instantiate_refused made]
      | ok j =>
        have other : id ≠ j := by
          rintro rfl
          rw [made] at fresh
          exact fresh rfl
        obtain ⟨-, o, -, rfl⟩ := instantiate_ok made
        exact congrArg (Option.bind · fun o => metaOf? o name)
          (Keyed.get?_put_ne other o db.objects)
  | call j cls method args => exact metaValue?_call classes j cls fun same => leaves same.symm
  | free j =>
    exact congrArg (Option.bind · fun o => metaOf? o name)
      (Keyed.get?_erase_ne (Ne.symm leaves) db.objects)

/-- Whatever happens to a database comes about by deeds. -/
theorem exists_served {db db' : ClassDb} (steps : Relation.ReflTransGen Step db db') :
    ∃ deeds, Served db deeds db' := by
  induction steps with
  | refl => exact ⟨[], .new⟩
  | tail _ step ih =>
    obtain ⟨deeds, served⟩ := ih
    cases step with
    | instantiate cls => exact ⟨_, served.does (.instantiate cls)⟩
    | call id cls method args => exact ⟨_, served.does (.call id cls method args)⟩
    | free id => exact ⟨_, served.does (.free id)⟩

/-- What has been served since the core classes is a history. -/
theorem Served.history {db : ClassDb} {deeds : List Deed} (served : Served core deeds db) :
    History deeds db := by
  induction served with
  | new => exact .new rfl rfl
  | does _ does ih => exact ih.does does

/-- A new object is none of those that are alive. -/
theorem created_ne {db db' : ClassDb} {deeds : List Deed} {deed : Deed}
    (history : History deeds db) (does : Does db deed db')
    (bound : (issued (deeds ++ [deed])).length < UInt64.size) {id : ObjectId}
    (alive : (db.object? id).isSome) : deed.created? ≠ some id := by
  intro creates
  cases does with
  | instantiate cls =>
    cases made : db.instantiate cls with
    | mk answer db' =>
      rw [made] at creates bound
      cases answer with
      | error e => cases creates
      | ok j =>
        cases creates
        rw [issued_append, List.length_append] at bound
        -- a new id was never given out, so no object was alive under it
        obtain ⟨-, gone, -⟩ := instantiate_new history bound made
        rw [gone deeds [] db (List.append_nil _).symm history] at alive
        cases alive
  | _ => cases creates

/-- What is alive stays so until it is freed. -/
theorem Served.alive_kept {start db : ClassDb} {deeds : List Deed} (served : Served start deeds db)
    {id : ObjectId} (stays : ∀ answer, .free id answer ∉ deeds)
    (alive : (start.object? id).isSome) : (db.object? id).isSome := by
  induction served with
  | new => exact alive
  | does before does ih =>
    have held := ih fun answer mem => stays answer (List.mem_append_left _ mem)
    refine does.alive_kept (fun answer same => stays answer ?_) held
    exact List.mem_append_right _ (List.mem_singleton.mpr same.symm)

/-- The meta value of an object stays, or stays away, as long as no value is stored under its name
and the object is not freed, whatever else is done. There are as many ids as objects can be
created. -/
theorem Served.metaValue?_kept {past deeds : List Deed} {db db' : ClassDb}
    (first : Served core past db) (second : Served db deeds db')
    (bound : (issued (past ++ deeds)).length < UInt64.size) {id : ObjectId} {name : String}
    (leaves : ∀ deed ∈ deeds, deed.LeavesMeta id name) (alive : (db.object? id).isSome) :
    db'.metaValue? id name = db.metaValue? id name := by
  -- on the later deeds, from the last one: until then the object has been alive and left alone
  induction second with
  | new => rfl
  | @does deeds u v deed before does ih =>
    rw [← List.append_assoc] at bound
    have shorter : (issued (past ++ deeds)).length < UInt64.size := by
      rw [issued_append, List.length_append] at bound
      omega
    have earlier : ∀ deed ∈ deeds, deed.LeavesMeta id name :=
      fun deed mem => leaves deed (List.mem_append_left _ mem)
    have so_far := first.append before
    have held := before.alive_kept (fun answer mem => (earlier _ mem).not_frees answer rfl) alive
    have fresh := created_ne so_far.history does bound held
    rw [does.metaValue?_kept so_far.classes_eq (leaves deed (by simp)) fresh]
    exact ih shorter earlier

end ClassDb

end ScriptBind
