import ScriptBind.Proofs.ClassDb.Locality
import ScriptBind.Proofs.ClassDb.Objects
import Mathlib.Algebra.Group.Nat.Defs

/-!
# Properties follow their history

All that a core object knows lies in one bag of named properties, which every method and the names of
meta values share. What a successful call does to the properties that can be asked for is listed once
(`Changes`); an object then holds what the calls say that it has accepted since it was created.

Main results:

* `changes_core` — what a successful core method does to its object.
* `Follows.served` — what starts right and is kept by `Changes` holds over the life of an object.
* `properties_follow` — the mode, children, name, position and visibility that objects report.
-/

namespace ScriptBind

/-! ## One property -/

namespace EngineObject

variable (o : EngineObject) (v : Variant)

/-- A property has the value that it was set to. -/
@[simp]
theorem get_set_self (property : String) : (o.set property v).get property = v := by
  simp [get, set, Keyed.get?_put_self]

/-- Other properties have the values that they had. -/
theorem get_set_ne {property other : String} (ne : property ≠ other) :
    (o.set other v).get property = o.get property := by
  simp [get, set, Keyed.get?_put_ne ne]

end EngineObject

namespace CoreClasses

open ClassDb (core)

/-! ## What methods change -/

/-- The methods that report a property: the class that declares both, the method, the property. -/
def getters : List (String × String × String) :=
  [("Node", "get_process_mode", "process_mode"), ("Node", "get_child_count", "child_count"),
    ("Node", "get_name", "name"), ("Node2D", "get_position", "position"),
    ("CanvasItem", "is_visible", "visible")]

/-- The methods that set one of these properties. -/
def setters : List String :=
  ["set_process_mode", "add_child", "set_name", "set_position", "show", "hide"]

/-- What a successful call of a method, with these arguments, makes of an object. -/
inductive Changes (o : EngineObject) : String → List Variant → EngineObject → Prop
  | mode {args : List Variant} {n : Int64} (given : args[0]?.bind Variant.asInt = some n)
      (range : 0 ≤ n.toInt ∧ n.toInt ≤ 4) :
      Changes o "set_process_mode" args (o.set "process_mode" (.int n))
  | child {args : List Variant} {n : Int64} (before : (o.get "child_count").asInt.getD 0 = n)
      (room : n ≠ Int64.maxValue) : Changes o "add_child" args (o.set "child_count" (.int (n + 1)))
  | name {args : List Variant} {s : String} (given : args[0]?.bind Variant.asText = some s) :
      Changes o "set_name" args (o.set "name" (.stringName s))
  | position {args : List Variant} {v : Vector2} (given : args.head? = some (.vector2 v)) :
      Changes o "set_position" args (o.set "position" (.vector2 v))
  | shown {args : List Variant} : Changes o "show" args (o.set "visible" (.bool true))
  | hidden {args : List Variant} : Changes o "hide" args (o.set "visible" (.bool false))
  /-- Everything else leaves these properties alone, whatever it does to others. -/
  | other {method : String} {args : List Variant} {o' : EngineObject} (other : method ∉ setters)
      (kept : ∀ g ∈ getters, o'.get g.2.2 = o.get g.2.2) : Changes o method args o'

/-- A method changes its object, when it succeeds, as its name says. -/
def Obeys (m : String × ObjectMethod) : Prop :=
  ∀ lineage o args v, (m.2 lineage o args).1 = .ok v → Changes o m.1 args (m.2 lineage o args).2

/-- A method that reads sets nothing. -/
theorem obeys_reading {method : String} (other : method ∉ setters) (f : EngineObject → Variant) :
    Obeys (method, reading f) :=
  fun _ _ _ _ _ => .other other fun _ _ => rfl

/-- A method that sets a property changes the object in the recorded way. -/
theorem obeys_setting {method property : String}
    {value : EngineObject → List Variant → Except HostError Variant}
    (changes : ∀ o args v, value o args = .ok v → Changes o method args (o.set property v)) :
    Obeys (method, setting property value) := by
  intro lineage o args v done
  dsimp only at done ⊢
  unfold setting at done ⊢
  cases given : value o args with
  | ok w => exact changes o args w given
  | error e =>
    rw [given] at done
    cases done

/-! ### Object -/

/-- What is read by a method is a declared property. -/
theorem getters_declared : ∀ g ∈ getters, g.2.2 ∈ propertyTags.map Prod.fst := by
  rw [propertyTags_eq]
  decide

/-- The class of an object is only read. -/
theorem obeys_isClass : Obeys ("is_class", isClass) := by
  intro lineage o args v _
  refine .other (by decide) fun _ _ => ?_
  dsimp only
  unfold isClass
  split
  · rfl
  · split <;> rfl

/-- A meta value is never stored under the name of one of these properties. -/
theorem metaProperty_ne (name : String) : ∀ g ∈ getters, g.2.2 ≠ metaProperty name := by
  intro g hg same
  obtain ⟨⟨property, t⟩, declared, rfl⟩ := List.mem_map.mp (getters_declared g hg)
  -- what can be stored there as a meta value has any type at all
  have int := storable_meta name (.int 0) t (same ▸ declared)
  have bool := storable_meta name (.bool true) t (same ▸ declared)
  cases int.trans bool.symm

/-- A meta value is no property. -/
theorem obeys_setMeta : Obeys ("set_meta", setMeta) := by
  intro lineage o args v _
  refine .other (by decide) fun g hg => ?_
  dsimp only
  unfold setMeta
  split
  · rfl
  · exact o.get_set_ne _ (metaProperty_ne _ g hg)

/-- Meta values are only read. -/
theorem obeys_getMeta : Obeys ("get_meta", getMeta) := by
  intro lineage o args v _
  refine .other (by decide) fun _ _ => ?_
  dsimp only
  unfold getMeta
  split <;> rfl

/-- Notifications are counted apart from the properties. -/
theorem obeys_notify : Obeys ("notify", notify) := by
  intro lineage o args v _
  refine .other (by decide) fun g hg => ?_
  dsimp only
  unfold notify
  split
  · rfl
  · have ne : ∀ g ∈ getters, g.2.2 ≠ "last_notification" := by decide
    exact o.get_set_ne _ (ne g hg)

/-! ### Node -/

/-- The name is set to the argument. -/
theorem obeys_setName :
    Obeys ("set_name", setting "name" fun _ args => .stringName <$> textArg "set_name" args 0) := by
  refine obeys_setting fun o args v done => ?_
  unfold textArg at done
  cases given : args[0]?.bind Variant.asText with
  | none =>
    rw [given] at done
    cases done
  | some s =>
    rw [given] at done
    cases done
    exact .name given

/-- A child is counted. -/
theorem obeys_addChild : Obeys ("add_child", setting "child_count" addChild) := by
  refine obeys_setting fun o args v done => ?_
  unfold addChild at done
  split at done
  · split at done
    · cases done
    · dsimp only at done
      split at done
      · cases done
      next room =>
        cases done
        exact .child rfl room
  · cases done

/-- The mode is set to the argument, if it is one of the modes. -/
theorem obeys_setProcessMode : Obeys ("set_process_mode", setting "process_mode" processMode) := by
  refine obeys_setting fun o args v done => ?_
  unfold processMode intArg at done
  cases given : args[0]?.bind Variant.asInt with
  | none =>
    rw [given] at done
    cases done
  | some n =>
    rw [given] at done
    by_cases range : 0 ≤ n.toInt ∧ n.toInt ≤ 4
    · have set : Except.ok (.int n) = (.ok v : Except HostError Variant) := by
        simpa [range, bind, Except.bind, pure, Except.pure] using done
      cases set
      exact .mode given range
    · simp [range, bind, Except.bind, throw, throwThe, MonadExceptOf.throw] at done

/-- The position is set to the argument. -/
theorem obeys_setPosition : Obeys ("set_position", setting "position" position) := by
  refine obeys_setting fun o args v done => ?_
  unfold position at done
  split at done
  next given =>
    cases done
    exact .position given
  next => cases done

/-- The rotation is not among the properties that are followed. -/
theorem obeys_rotate : Obeys ("rotate", setting "rotation" rotate) := by
  refine obeys_setting fun o args v _ => .other (by decide) fun g hg => ?_
  have ne : ∀ g ∈ getters, g.2.2 ≠ "rotation" := by decide
  exact o.get_set_ne v (ne g hg)

/-! ### Every class -/

/-- What a successful core method does to its object. -/
theorem changes_core {c : String × ClassDef} (hc : c ∈ core.classes) : ∀ m ∈ c.2.methods, Obeys m := by
  refine core_classes (motive := fun _ k => ∀ m ∈ k.methods, Obeys m) ?_ ?_ ?_ ?_ ?_ hc
  · simp only [objectClass_methods, List.forall_mem_cons]
    exact ⟨obeys_reading (by decide) _, obeys_isClass, obeys_reading (by decide) _, obeys_setMeta,
      obeys_getMeta, obeys_notify, List.forall_mem_nil _⟩
  · simp only [refCountedClass_methods, List.forall_mem_cons]
    exact ⟨obeys_reading (by decide) _, List.forall_mem_nil _⟩
  · simp only [nodeClass_methods, List.forall_mem_cons]
    exact ⟨obeys_setName, obeys_reading (by decide) _, obeys_addChild, obeys_reading (by decide) _,
      obeys_setProcessMode, obeys_reading (by decide) _, List.forall_mem_nil _⟩
  · simp only [canvasItemClass_methods, List.forall_mem_cons]
    refine ⟨obeys_setting fun o args v done => ?_, obeys_setting fun o args v done => ?_,
      obeys_reading (by decide) _, List.forall_mem_nil _⟩
    · cases done
      exact .shown
    · cases done
      exact .hidden
  · simp only [node2DClass_methods, List.forall_mem_cons]
    exact ⟨obeys_setPosition, obeys_reading (by decide) _, obeys_rotate, obeys_reading (by decide) _,
      List.forall_mem_nil _⟩

/-- A method with the name of a getter reports its property, in whatever class it stands. -/
theorem getting_core {c : String × ClassDef} (hc : c ∈ core.classes) :
    ∀ m ∈ c.2.methods, ∀ g ∈ getters, m.1 = g.2.1 → m.2 = getting g.2.2 := by
  refine core_classes (motive := fun _ k =>
    ∀ m ∈ k.methods, ∀ g ∈ getters, m.1 = g.2.1 → m.2 = getting g.2.2) ?_ ?_ ?_ ?_ ?_ hc
  · simp [objectClass_methods, getters]
  · simp [refCountedClass_methods, getters]
  · simp [nodeClass_methods, getters]
  · simp [canvasItemClass_methods, getters]
  · simp [node2DClass_methods, getters]

end CoreClasses

namespace ClassDb

open CoreClasses

/-! ## What an object has accepted -/

/-- A successful call: the method and its arguments. -/
abbrev Accepted := String × List Variant

/-- The calls that an object has accepted, after one deed more. -/
def Deed.record (id : ObjectId) (calls : List Accepted) : Deed → List Accepted
  | instantiate _ (.ok j) => if j = id then [] else calls
  | call j _ method args (.ok _) => if j = id then calls ++ [(method, args)] else calls
  | _ => calls

/-- The calls that an object has accepted since it was created, oldest first. -/
def accepted (id : ObjectId) (deeds : List Deed) : List Accepted :=
  deeds.foldl (Deed.record id) []

/-- Each deed is recorded after those before it. -/
theorem accepted_concat (id : ObjectId) (deeds : List Deed) (deed : Deed) :
    accepted id (deeds ++ [deed]) = deed.record id (accepted id deeds) := by
  simp [accepted]

/-- The value that the last of the calls sets that sets one, or the initial one. -/
def last (sets : Accepted → Option Variant) (initial : Variant) (calls : List Accepted) : Variant :=
  (calls.filterMap sets).getLast?.getD initial

/-- Without calls there is the initial value. -/
@[simp]
theorem last_nil (sets : Accepted → Option Variant) (initial : Variant) :
    last sets initial [] = initial := rfl

/-- A call that sets the property decides, and any other leaves it. -/
@[simp]
theorem last_concat (sets : Accepted → Option Variant) (initial : Variant) (calls : List Accepted)
    (call : Accepted) :
    last sets initial (calls ++ [call]) = (sets call).getD (last sets initial calls) := by
  cases h : sets call with
  | none => simp [last, h]
  | some v => simp [last, h]

/-- The process mode that a call sets. -/
def setsMode (call : Accepted) : Option Variant :=
  if call.1 = "set_process_mode" then (call.2[0]?.bind Variant.asInt).map .int else none

def setsName (call : Accepted) : Option Variant :=
  if call.1 = "set_name" then (call.2[0]?.bind Variant.asText).map .stringName else none

def setsPosition (call : Accepted) : Option Variant :=
  if call.1 = "set_position" then call.2.head? else none

def setsVisible (call : Accepted) : Option Variant :=
  if call.1 = "show" then some (.bool true)
  else if call.1 = "hide" then some (.bool false)
  else none

/-- How many children were added. -/
def children (calls : List Accepted) : Nat := calls.countP fun call => call.1 = "add_child"

/-! ## What is kept holds -/

/-- A relation of the calls that an object has accepted and the value of a property, which holds of a
new object and stays true whatever method succeeds. -/
structure Follows (property : String) (initial : Variant) (R : List Accepted → Variant → Prop) :
    Prop where
  new : R [] initial
  kept : ∀ {calls : List Accepted} {o o' : EngineObject} {method : String} {args : List Variant},
    Changes o method args o' → R calls (o.get property) →
      R (calls ++ [(method, args)]) (o'.get property)

/-- The initial properties of an object are those that its classes declare. -/
theorem initial_core {c : String × ClassDef} (hc : c ∈ core.classes) {chain : List ClassDef}
    (walked : core.chain? core.classes.length (some c.2) = some chain) :
    ∀ k ∈ core.classes, core.lineage.isA? c.1 k.1 = some true →
      ∀ p ∈ k.2.defaults, Keyed.get? p.1 (initialProperties chain) = some p.2 := by
  revert walked
  refine core_classes (motive := fun name d =>
    core.chain? core.classes.length (some d) = some chain →
      ∀ k ∈ core.classes, core.lineage.isA? name k.1 = some true →
        ∀ p ∈ k.2.defaults, Keyed.get? p.1 (initialProperties chain) = some p.2)
    ?_ ?_ ?_ ?_ ?_ hc
  all_goals
    intro walked
    cases walked
    decide

/-- What an instance is when it has been created. -/
theorem new_object {db db' : ClassDb} {cls : String} {id : ObjectId} {o : EngineObject}
    (made : db.instantiate cls = (.ok id, db')) (alive : db'.object? id = some o) :
    ∃ d chain, db.class? cls = some d ∧ db.chain? db.classes.length (some d) = some chain ∧
      o = ⟨id, cls, initialProperties chain⟩ := by
  unfold ClassDb.instantiate at made
  split at made
  · cases made
  next d found =>
    split at made
    · cases made
    · split at made
      · cases made
      next chain walked =>
        cases made
        rw [object?, Keyed.get?_put_self] at alive
        cases alive
        exact ⟨d, chain, found, walked, rfl⟩

section Over

variable {deeds : List Deed} {db db' : ClassDb}

/-- No deed touches the classes. -/
theorem Does.classes_eq {deed : Deed} (does : Does db deed db') : db'.classes = db.classes := by
  cases does with
  | instantiate cls => exact (Step.instantiate cls).classes_eq
  | call id cls method args => exact (Step.call id cls method args).classes_eq
  | free id => exact (Step.free id).classes_eq

/-- The classes are those of the start. -/
theorem Served.classes_eq {start : ClassDb} (served : Served start deeds db) :
    db.classes = start.classes := by
  induction served with
  | new => rfl
  | does _ does ih => exact does.classes_eq.trans ih

/-- No two objects are listed under one id, however often ids were given out. -/
theorem Served.nodup {start : ClassDb} (served : Served start deeds db)
    (nodup : (start.objects.map Prod.fst).Nodup) : (db.objects.map Prod.fst).Nodup := by
  induction served with
  | new => exact nodup
  | @does deeds db db' deed _ does ih =>
    cases does with
    | instantiate cls =>
      cases made : db.instantiate cls with
      | mk answer db' =>
      cases answer with
      | error e =>
        obtain rfl := instantiate_refused made
        exact ih
      | ok id =>
        obtain ⟨rfl, o, -, rfl⟩ := instantiate_ok made
        dsimp only
        -- an id that comes round again takes the place of the object that is listed under it
        rw [Keyed.keys_put]
        split
        · exact ih
        next absent =>
          exact ih.append (List.nodup_singleton _) (List.disjoint_singleton.mpr absent)
    | call id cls method args =>
      rw [(call_keys db id cls method args).2]
      exact ih
    | free id =>
      rw [free, Keyed.keys_erase]
      exact ih.erase id

/-- An object that has been freed is not there any more. -/
theorem object?_free_self (nodup : (db.objects.map Prod.fst).Nodup) (id : ObjectId) :
    (db.free id).2.object? id = none := by
  refine Option.not_isSome_iff_eq_none.mp fun alive => ?_
  have listed : id ∈ (Keyed.erase id db.objects).map Prod.fst := Keyed.isSome_get?_iff.mp alive
  rw [Keyed.keys_erase, nodup.mem_erase_iff] at listed
  exact listed.1 rfl

/-- The method that an object runs when it answers, and why it may. -/
theorem response_ok (classes : db.classes = core.classes) {o : EngineObject} {cls method : String}
    {args : List Variant} {v : Variant} (done : (db.response o cls method args).1 = .ok v) :
    ∃ c ∈ core.classes, ∃ run, (method, run) ∈ c.2.methods ∧
      db.response o cls method args = run db.lineage o args := by
  unfold response at done ⊢
  split at done
  · cases done
  · cases done
  · split at done
    · cases done
    next run found =>
      obtain ⟨c, hc, mem⟩ := method_of_found found
      exact ⟨c, classes ▸ hc, run, mem, rfl⟩

/-- What an object has become when it answers: it is of the same class, and changed as the name of
the method says. -/
theorem response_changes (classes : db.classes = core.classes) {o : EngineObject}
    {cls method : String} {args : List Variant} {v : Variant}
    (done : (db.response o cls method args).1 = .ok v) :
    (db.response o cls method args).2.cls = o.cls ∧
      Changes o method args (db.response o cls method args).2 := by
  obtain ⟨c, hc, run, mem, same⟩ := response_ok classes done
  rw [same] at done ⊢
  exact ⟨(kept_core hc mem db.lineage o args).cls, changes_core hc _ mem db.lineage o args v done⟩

/-- What a relation says about a property, of all objects of the class that declares it. -/
def Rules (property : String) (owner : String × ClassDef) (R : List Accepted → Variant → Prop)
    (deeds : List Deed) (db : ClassDb) : Prop :=
  ∀ id o, db.object? id = some o → core.lineage.isA? o.cls owner.1 = some true →
    R (accepted id deeds) (o.get property)

section Follows

variable {property : String} {initial : Variant} {R : List Accepted → Variant → Prop}
  {owner : String × ClassDef}

/-- A new object starts with the initial value and with no calls, and the others stay. -/
theorem Follows.instantiate (follows : Follows property initial R) (ho : owner ∈ core.classes)
    (declared : (property, initial) ∈ owner.2.defaults) (classes : db.classes = core.classes)
    (rules : Rules property owner R deeds db) (cls : String) :
    Rules property owner R (deeds ++ [.instantiate cls (db.instantiate cls).1])
      (db.instantiate cls).2 := by
  intro id o alive derives
  rw [accepted_concat]
  cases made : db.instantiate cls with
  | mk answer db' =>
  rw [made] at alive
  cases answer with
  | error e =>
    obtain rfl := instantiate_refused made
    exact rules id o alive derives
  | ok j =>
    dsimp only [Deed.record]
    by_cases here : j = id
    · subst here
      -- the new object has what its classes declare, among them the property
      obtain ⟨d, chain, found, walked, rfl⟩ := new_object made alive
      rw [class?_congr classes] at found
      rw [chain?_congr classes, classes] at walked
      have start := initial_core (Keyed.mem_of_get? found) walked owner ho derives _ declared
      rw [if_pos rfl, EngineObject.get, start]
      exact follows.new
    · obtain ⟨rfl, p, -, rfl⟩ := instantiate_ok made
      rw [if_neg here]
      refine rules id o ?_ derives
      exact (Keyed.get?_put_ne (Ne.symm here) ..).symm.trans alive

/-- A call that is answered changes its own object as `Changes` allows, and is recorded for it. One
that is refused changes nothing, and leaves no record. -/
theorem Follows.call (follows : Follows property initial R) (classes : db.classes = core.classes)
    (rules : Rules property owner R deeds db) (j : ObjectId) (cls method : String)
    (args : List Variant) :
    Rules property owner R (deeds ++ [.call j cls method args (db.call j cls method args).1])
      (db.call j cls method args).2 := by
  intro id o alive derives
  rw [accepted_concat]
  by_cases here : j = id
  · subst here
    cases known : db.object? j with
    | none =>
      rw [call_dead known] at alive ⊢
      rw [known] at alive
      cases alive
    | some p =>
      rw [object?_call_self db j cls method args known] at alive
      cases alive
      rw [call_live known]
      cases done : (db.response p cls method args).1 with
      | error e =>
        -- core methods that fail have changed nothing
        have unchanged := (findsCore_of_classes classes cls method).response done
        rw [unchanged] at derives ⊢
        exact rules j p known derives
      | ok v =>
        obtain ⟨same, changes⟩ := response_changes classes done
        rw [same] at derives
        dsimp only [Deed.record]
        rw [if_pos rfl]
        exact follows.kept changes (rules j p known derives)
  · have record : (Deed.call j cls method args (db.call j cls method args).1).record id
        (accepted id deeds) = accepted id deeds := by
      cases (db.call j cls method args).1 with
      | error e => rfl
      | ok v => exact if_neg here
    rw [object?_call_ne db j cls method args (Ne.symm here)] at alive
    rw [record]
    exact rules id o alive derives

/-- The object that is freed is gone, and the others stay. -/
theorem Rules.free (rules : Rules property owner R deeds db)
    (nodup : (db.objects.map Prod.fst).Nodup) (j : ObjectId) :
    Rules property owner R (deeds ++ [.free j (db.free j).1]) (db.free j).2 := by
  intro id o alive derives
  have ne : id ≠ j := by
    rintro rfl
    rw [object?_free_self nodup] at alive
    cases alive
  rw [accepted_concat]
  refine rules id o ?_ derives
  exact (Keyed.get?_erase_ne ne db.objects).symm.trans alive

/-- What follows a property holds of every object of the class that declares it, over every life of a
database. -/
theorem Follows.served (follows : Follows property initial R) (ho : owner ∈ core.classes)
    (declared : (property, initial) ∈ owner.2.defaults) (served : Served core deeds db) :
    Rules property owner R deeds db := by
  -- on the deeds, from the last one: it is about the object at hand, or changes neither side
  induction served with
  | new => exact fun id o alive => nomatch alive
  | does before does rules =>
    have classes := before.classes_eq
    cases does with
    | instantiate cls => exact follows.instantiate ho declared classes rules cls
    | call j cls method args => exact follows.call classes rules j cls method args
    | free j => exact rules.free (before.nodup List.nodup_nil) j

end Follows

end Over

/-! ## The properties one by one -/

/-- A property that successful calls set, to the value that the call names. -/
theorem follows_last {property : String} {initial : Variant} {sets : Accepted → Option Variant}
    (changed : ∀ {o o' : EngineObject} {method : String} {args : List Variant},
      Changes o method args o' → o'.get property = (sets (method, args)).getD (o.get property)) :
    Follows property initial fun calls v => v = last sets initial calls where
  new := rfl
  kept := by
    intro calls o o' method args changes holds
    rw [changed changes, holds, last_concat]

/-- The mode is what it was last set to. -/
theorem follows_mode :
    Follows "process_mode" (.int 0) fun calls v => v = last setsMode (.int 0) calls := by
  refine follows_last fun {o o' method args} changes => ?_
  cases changes with
  | mode given => simp [setsMode, given]
  | other other kept =>
    have ne : method ≠ "set_process_mode" := fun same => other (same ▸ by decide)
    simpa [setsMode, ne] using kept _ (.head _)
  | _ => simp [setsMode, EngineObject.get_set_ne]

/-- A mode is accepted only in its range. -/
theorem follows_range :
    Follows "process_mode" (.int 0) fun _ v =>
      ∃ n : Int64, v = .int n ∧ 0 ≤ n.toInt ∧ n.toInt ≤ 4 where
  new := ⟨0, rfl, by decide⟩
  kept := by
    intro calls o o' method args changes holds
    cases changes with
    | @mode args n given range => exact ⟨n, by simp, range⟩
    | other _ kept => rwa [kept _ (.head _)]
    | _ => simpa [EngineObject.get_set_ne] using holds

/-- The name is what it was last set to. -/
theorem follows_name :
    Follows "name" (.stringName "") fun calls v => v = last setsName (.stringName "") calls := by
  refine follows_last fun {o o' method args} changes => ?_
  cases changes with
  | name given => simp [setsName, given]
  | other other kept =>
    have ne : method ≠ "set_name" := fun same => other (same ▸ by decide)
    simpa [setsName, ne] using kept _ (.tail _ (.tail _ (.head _)))
  | _ => simp [setsName, EngineObject.get_set_ne]

/-- The position is what it was last set to. -/
theorem follows_position :
    Follows "position" (.vector2 Vector2.zero) fun calls v =>
      v = last setsPosition (.vector2 Vector2.zero) calls := by
  refine follows_last fun {o o' method args} changes => ?_
  cases changes with
  | position given => simp [setsPosition, given]
  | other other kept =>
    have ne : method ≠ "set_position" := fun same => other (same ▸ by decide)
    simpa [setsPosition, ne] using kept _ (.tail _ (.tail _ (.tail _ (.head _))))
  | _ => simp [setsPosition, EngineObject.get_set_ne]

/-- The visibility is what it was last set to. -/
theorem follows_visible :
    Follows "visible" (.bool true) fun calls v => v = last setsVisible (.bool true) calls := by
  refine follows_last fun {o o' method args} changes => ?_
  cases changes with
  | other other kept =>
    have show_ne : method ≠ "show" := fun same => other (same ▸ by decide)
    have hide_ne : method ≠ "hide" := fun same => other (same ▸ by decide)
    simpa [setsVisible, show_ne, hide_ne] using
      kept _ (.tail _ (.tail _ (.tail _ (.tail _ (.head _)))))
  | _ => simp [setsVisible, EngineObject.get_set_ne]

/-- A count that is not the greatest one fits when it is one more. -/
theorem count_fits {n : Nat} (fits : n < 2 ^ 63) (room : Int64.ofNat n ≠ Int64.maxValue) :
    n + 1 < 2 ^ 63 := by
  have ne : n ≠ 2 ^ 63 - 1 := fun full => room (full ▸ rfl)
  omega

/-- The count is right as long as it fits, and it fits because a child that would not is refused. -/
theorem follows_children :
    Follows "child_count" (.int 0) fun calls v =>
      v = .int (.ofNat (children calls)) ∧ children calls < 2 ^ 63 where
  new := ⟨rfl, by decide⟩
  kept := by
    intro calls o o' method args changes holds
    have more : children (calls ++ [(method, args)]) =
        children calls + if method = "add_child" then 1 else 0 := by
      simp [children, List.countP_append, List.countP_singleton]
    rw [more]
    cases changes with
    -- the method refuses a child for which the count would leave the integers
    | child before room =>
      obtain ⟨count, fits⟩ := holds
      rw [count] at before
      obtain rfl : Int64.ofNat (children calls) = _ := before
      refine ⟨?_, by simpa using count_fits fits room⟩
      simp [Int64.ofNat_add]
    | other other kept =>
      have ne : method ≠ "add_child" := fun same => other (same ▸ by decide)
      rw [kept _ (.tail _ (.head _))]
      simpa [ne] using holds
    | _ => simpa [EngineObject.get_set_ne] using holds

/-! ## What is reported -/

/-- A class is found among the ancestors exactly if the lineage says so. -/
theorem isParentClass_eq_ok {db : ClassDb} {cls ancestor : String} {answer : Bool} :
    db.isParentClass cls ancestor = .ok answer ↔ db.lineage.isA? cls ancestor = some answer := by
  unfold isParentClass
  cases db.lineage.isA? cls ancestor <;> simp

/-- What derives from a core class is a core class. -/
theorem registered_of_isA {cls ancestor : String}
    (derives : core.lineage.isA? cls ancestor = some true)
    (known : ∃ c ∈ core.classes, c.1 = ancestor) : ∃ c ∈ core.classes, c.1 = cls := by
  by_cases same : cls = ancestor
  · exact same ▸ known
  unfold Lineage.isA? at derives
  rw [Lineage.search, if_neg same] at derives
  cases above : core.lineage.parent? cls with
  | none =>
    rw [above] at derives
    cases derives
  | some parent =>
    obtain ⟨c, hc, named⟩ := List.mem_map.mp (Keyed.mem_of_get? (Option.join_eq_some_iff.mp above))
    exact ⟨c, hc, (Prod.mk.inj named).1⟩

/-- What derives from a class derives from all that this class derives from. -/
theorem isA_trans : ∀ a ∈ core.classes, ∀ b ∈ core.classes, ∀ c ∈ core.classes,
    core.lineage.isA? a.1 b.1 = some true → core.lineage.isA? b.1 c.1 = some true →
      core.lineage.isA? a.1 c.1 = some true := by
  decide

/-- A getter is found from every class that derives from the one that declares it. -/
theorem finds_getter : ∀ c ∈ core.classes, ∀ g ∈ getters, core.lineage.isA? c.1 g.1 = some true →
    (core.findMethod c.1 g.2.1 core.classes.length (core.class? c.1)).toOption.isSome := by
  decide

section Reports

variable {deeds : List Deed} {db : ClassDb} {g : String × String × String}

/-- What an object answers to a getter depends on the property alone. -/
theorem getter_congr (classes : db.classes = core.classes) (hg : g ∈ getters) {o o' : EngineObject}
    (sameCls : o'.cls = o.cls) (same : o'.get g.2.2 = o.get g.2.2) (cls : String)
    (args : List Variant) : (db.response o' cls g.2.1 args).1 = (db.response o cls g.2.1 args).1 := by
  unfold response
  rw [sameCls]
  split
  · rfl
  · rfl
  split
  · rfl
  next run found =>
    obtain ⟨c, hc, mem⟩ := method_of_found found
    obtain rfl : run = getting g.2.2 := getting_core (classes ▸ hc) _ mem g hg rfl
    exact congrArg Except.ok same

/-- A getter reports its property, from whatever class between that of the object and the one that
declares it. -/
theorem getter_reports (classes : db.classes = core.classes) (hg : g ∈ getters) {id : ObjectId}
    {o : EngineObject} (alive : db.object? id = some o) {cls : String}
    (derives : db.isParentClass o.cls cls = .ok true) (owner : db.isParentClass cls g.1 = .ok true)
    (args : List Variant) : (db.call id cls g.2.1 args).1 = .ok (o.get g.2.2) := by
  rw [isParentClass_eq_ok, lineage_congr classes] at owner
  have declared : ∀ g ∈ getters, ∃ c ∈ core.classes, c.1 = g.1 := by decide
  obtain ⟨c, hc, rfl⟩ := registered_of_isA owner (declared g hg)
  -- a class between the two finds the getter, and any method of this name reads the property
  obtain ⟨run, found⟩ := Option.isSome_iff_exists.mp (finds_getter c hc g hg owner)
  have found : core.findMethod c.1 g.2.1 core.classes.length (core.class? c.1) = .ok run := by
    cases h : core.findMethod c.1 g.2.1 core.classes.length (core.class? c.1) with
    | error e =>
      rw [h] at found
      cases found
    | ok run' =>
      rw [h] at found
      cases found
      rfl
  obtain ⟨k, hk, mem⟩ := method_of_found found
  obtain rfl : run = getting g.2.2 := getting_core hk _ mem g hg rfl
  rw [call_live alive, response, derives, findMethod_congr classes, class?_congr classes, classes]
  dsimp only
  rw [found]
  rfl

/-- A call of a method that sets none of the properties goes unnoticed by the getters, on its own
object as on the others. -/
theorem getter_unaffected (classes : db.classes = core.classes) (hg : g ∈ getters) {method : String}
    (other : method ∉ setters) (id id' : ObjectId) (cls cls' : String) (args args' : List Variant) :
    ((db.call id' cls' method args').2.call id cls g.2.1 args).1 = (db.call id cls g.2.1 args).1 := by
  by_cases here : id = id'
  · subst here
    cases alive : db.object? id with
    | none => rw [call_dead alive]
    | some o =>
      have after := object?_call_self db id cls' method args' alive
      have same := classes_call db id cls' method args'
      rw [answer_live after, answer_live alive, response_congr same]
      cases done : (db.response o cls' method args').1 with
      | error e => rw [(findsCore_of_classes classes cls' method).response done]
      | ok v =>
        obtain ⟨sameCls, changes⟩ := response_changes classes done
        refine getter_congr classes hg sameCls ?_ cls args
        -- no setter, so the properties are kept
        generalize (db.response o cls' method args').2 = o' at changes
        cases changes with
        | other _ kept => exact kept g hg
        | _ => exact absurd (by decide) other
  · exact answer_after db cls' method args' here cls g.2.1 args

/-- What a class of a live object answers about it, where it has the methods. -/
structure Reports (deeds : List Deed) (db : ClassDb) (id : ObjectId) (cls : String) : Prop where
  /-- The mode is the one accepted last, in its range. -/
  mode : db.isParentClass cls "Node" = .ok true → ∀ args, ∃ n : Int64,
    (db.call id cls "get_process_mode" args).1 = .ok (.int n) ∧
      .int n = last setsMode (.int 0) (accepted id deeds) ∧ 0 ≤ n.toInt ∧ n.toInt ≤ 4
  /-- The children are counted, and the count fits. -/
  children : db.isParentClass cls "Node" = .ok true → ∀ args,
    (db.call id cls "get_child_count" args).1 =
        .ok (.int (.ofNat (ClassDb.children (accepted id deeds)))) ∧
      ClassDb.children (accepted id deeds) < 2 ^ 63
  name : db.isParentClass cls "Node" = .ok true → ∀ args,
    (db.call id cls "get_name" args).1 =
      .ok (last setsName (.stringName "") (accepted id deeds))
  position : db.isParentClass cls "Node2D" = .ok true → ∀ args,
    (db.call id cls "get_position" args).1 =
      .ok (last setsPosition (.vector2 Vector2.zero) (accepted id deeds))
  visible : db.isParentClass cls "CanvasItem" = .ok true → ∀ args,
    (db.call id cls "is_visible" args).1 =
      .ok (last setsVisible (.bool true) (accepted id deeds))
  /-- Meta values, of any name, and notifications change none of these answers. -/
  aside : ∀ method, method = "set_meta" ∨ method = "notify" → ∀ g ∈ getters, ∀ id' cls' args args',
    ((db.call id' cls' method args').2.call id cls g.2.1 args).1 = (db.call id cls g.2.1 args).1

/-- Whatever a database of the core classes has been asked to create, to call and to free: its live
objects report what they have accepted since they were created, through every class of theirs that
has the method. -/
theorem properties_follow (served : Served core deeds db) {id : ObjectId} {o : EngineObject}
    (alive : db.object? id = some o) {cls : String}
    (derives : db.isParentClass o.cls cls = .ok true) : Reports deeds db id cls := by
  have classes := served.classes_eq
  -- the object's class derives from the one that declares the property
  have through : ∀ owner ∈ core.classes, db.isParentClass cls owner.1 = .ok true →
      core.lineage.isA? o.cls owner.1 = some true := by
    intro owner known above
    rw [isParentClass_eq_ok, lineage_congr classes] at derives above
    obtain ⟨b, hb, rfl⟩ := registered_of_isA above ⟨owner, known, rfl⟩
    obtain ⟨a, ha, named⟩ := registered_of_isA derives ⟨b, hb, rfl⟩
    rw [← named] at derives ⊢
    exact isA_trans a ha b hb owner known derives above
  have node : ("Node", nodeClass) ∈ core.classes := .tail _ (.tail _ (.head _))
  have canvasItem : ("CanvasItem", canvasItemClass) ∈ core.classes :=
    .tail _ (.tail _ (.tail _ (.head _)))
  have node2D : ("Node2D", node2DClass) ∈ core.classes :=
    .tail _ (.tail _ (.tail _ (.tail _ (.head _))))
  refine
    { mode := fun above args => ?_, children := fun above args => ?_, name := fun above args => ?_
      position := fun above args => ?_, visible := fun above args => ?_
      aside := fun method which g hg id' cls' args args' => ?_ }
  · have set := follows_mode.served node (by decide) served id o alive (through _ node above)
    obtain ⟨n, holds, range⟩ :=
      follows_range.served node (by decide) served id o alive (through _ node above)
    refine ⟨n, ?_, holds.symm.trans set, range⟩
    rw [← holds]
    exact getter_reports classes (.head _) alive derives above args
  · obtain ⟨counted, fits⟩ :=
      follows_children.served node (by decide) served id o alive (through _ node above)
    refine ⟨?_, fits⟩
    rw [← counted]
    exact getter_reports classes (.tail _ (.head _)) alive derives above args
  · rw [← follows_name.served node (by decide) served id o alive (through _ node above)]
    exact getter_reports classes (.tail _ (.tail _ (.head _))) alive derives above args
  · rw [← follows_position.served node2D (by decide) served id o alive (through _ node2D above)]
    exact getter_reports classes (.tail _ (.tail _ (.tail _ (.head _)))) alive derives above args
  · rw [← follows_visible.served canvasItem (by decide) served id o alive (through _ canvasItem above)]
    exact getter_reports classes (.tail _ (.tail _ (.tail _ (.tail _ (.head _))))) alive derives
      above args
  · refine getter_unaffected classes hg ?_ id id' cls cls' args args'
    rcases which with rfl | rfl <;> decide

/-- A node accepts a mode and refuses another one, gets a child, is hidden and given a meta value
under the name of a property. -/
theorem properties_follow_node : ∃ db, Reports
    [.instantiate "Node2D" (.ok ⟨1⟩),
      .call ⟨1⟩ "Node" "set_process_mode" [.int 3] (.ok .nil),
      .call ⟨1⟩ "Node" "set_process_mode" [.int 9]
        (.error (invalid "set_process_mode" 0 "unknown process mode")),
      .call ⟨1⟩ "Node2D" "add_child" [.object ⟨7⟩] (.ok .nil),
      .call ⟨1⟩ "CanvasItem" "hide" [] (.ok .nil),
      .call ⟨1⟩ "Object" "set_meta" [.string "visible", .bool true] (.ok .nil)] db ⟨1⟩ "Node2D" := by
  have served := (Served.new : Served core [] core)
    |>.does (.instantiate "Node2D")
    |>.does (.call ⟨1⟩ "Node" "set_process_mode" [.int 3])
    |>.does (.call ⟨1⟩ "Node" "set_process_mode" [.int 9])
    |>.does (.call ⟨1⟩ "Node2D" "add_child" [.object ⟨7⟩])
    |>.does (.call ⟨1⟩ "CanvasItem" "hide" [])
    |>.does (.call ⟨1⟩ "Object" "set_meta" [.string "visible", .bool true])
  exact ⟨_, properties_follow served rfl rfl⟩

end Reports

end ClassDb

end ScriptBind
