import ScriptBind.Proofs.ClassDb.Core
import Mathlib.Data.List.Chain

/-!
# The objects of a database

A database is asked to create, to call and to free objects, in any order. `Deed` is such a request
with its answer, and `Served` says that a database has answered a list of them. What the database
then holds is read off that list: an object is alive from the deed that created it up to the one that
freed it, and ids count the deeds that created one.

Instances are made from all the classes above their class, so the way up has to end: `Acyclic` says
that it does, and by `exists_chain` the number of classes bounds it.

Main results:

* `Books.does` — one deed keeps the books of a database.
* `books_of_served` — so do all deeds of its life.
* `store_orderly` — the ids, the live objects and their number, after any deeds.
-/

namespace ScriptBind

namespace ClassDb

/-! ## The way up ends -/

/-- A registered class names another one as its parent. -/
def Derives (db : ClassDb) (cls parent : String) : Prop :=
  ∃ d, db.class? cls = some d ∧ d.parent = some parent

/-- No class is among its own ancestors. -/
def Acyclic (db : ClassDb) : Prop := ∀ cls, ¬ Relation.TransGen db.Derives cls cls

/-- A way up that does not end within a number of steps goes through more classes than that. -/
theorem exists_path {db : ClassDb} {fuel : Nat} {cls : String} {d : ClassDef}
    (found : db.class? cls = some d) (more : db.chain? fuel (some d) = none) :
    ∃ path : List String, path.length = fuel ∧ List.IsChain db.Derives (cls :: path) ∧
      ∀ c ∈ cls :: path, (db.class? c).isSome := by
  have here : (db.class? cls).isSome := by rw [found]; rfl
  -- on the fuel: each step that is spent adds a class to the path
  induction fuel generalizing cls d with
  | zero => exact ⟨[], rfl, .singleton _, List.forall_mem_singleton.mpr here⟩
  | succ fuel ih =>
    rw [chain?, Option.map_eq_none_iff] at more
    cases above : db.above? d with
    | none =>
      rw [above] at more
      cases fuel <;> cases more
    | some d' =>
      rw [above] at more
      obtain ⟨parent, named, known⟩ := Option.bind_eq_some_iff.mp above
      obtain ⟨path, length, chain, registered⟩ := ih known more (by rw [known]; rfl)
      refine ⟨parent :: path, congrArg Nat.succ length, ?_, ?_⟩
      · exact List.isChain_cons_cons.mpr ⟨⟨d, found, named⟩, chain⟩
      · exact List.forall_mem_cons.mpr ⟨here, registered⟩

/-- Where no class is among its own ancestors, every way up ends within the number of classes. -/
theorem Acyclic.exists_chain {db : ClassDb} (acyclic : db.Acyclic) {cls : String} {d : ClassDef}
    (found : db.class? cls = some d) :
    ∃ chain, db.chain? db.classes.length (some d) = some chain := by
  refine Option.ne_none_iff_exists'.mp fun more => ?_
  obtain ⟨path, length, chain, registered⟩ := exists_path found more
  -- the classes on the way are different ones, and there are not that many
  have nodup : (cls :: path).Nodup := by
    have ancestors : List.IsChain (Relation.TransGen db.Derives) (cls :: path) :=
      chain.imp fun _ _ => .single
    refine ancestors.pairwise.imp fun above same => ?_
    subst same
    exact acyclic _ above
  have sub : (cls :: path) ⊆ db.classes.map Prod.fst := fun c hc =>
    Keyed.isSome_get?_iff.mp (registered c hc)
  have le := (nodup.subperm sub).length_le
  rw [List.length_map, List.length_cons, length] at le
  exact Nat.not_succ_le_self _ le

/-- Circles depend on the classes alone. -/
theorem Acyclic.congr {db db' : ClassDb} (acyclic : db.Acyclic) (same : db'.classes = db.classes) :
    db'.Acyclic := by
  have derives : db'.Derives = db.Derives := by
    funext cls parent
    rw [Derives, Derives, class?_congr same]
  unfold Acyclic
  rw [derives]
  exact acyclic

/-- No class is among its own ancestors where parents rank below their children. -/
theorem acyclic_of_rank {db : ClassDb} (rank : String → Nat)
    (below : ∀ c ∈ db.classes, ∀ parent ∈ c.2.parent, rank parent < rank c.1) : db.Acyclic := by
  have below : ∀ cls parent, Relation.TransGen db.Derives cls parent → rank parent < rank cls := by
    intro cls parent above
    induction above with
    | single one =>
      obtain ⟨d, found, named⟩ := one
      exact below (_, d) (Keyed.mem_of_get? found) _ named
    | tail _ one ih =>
      obtain ⟨d, found, named⟩ := one
      exact (below (_, d) (Keyed.mem_of_get? found) _ named).trans ih
  exact fun cls circle => Nat.lt_irrefl _ (below cls cls circle)

/-- The core classes, parents before children. -/
def coreRank (cls : String) : Nat :=
  ["Object", "RefCounted", "Node", "CanvasItem", "Node2D"].idxOf cls

/-- The core classes have no circle. -/
theorem core_acyclic : core.Acyclic := by
  refine acyclic_of_rank coreRank fun c hc => ?_
  exact CoreClasses.core_classes
    (motive := fun name d => ∀ parent ∈ d.parent, coreRank parent < coreRank name)
    nofun (by decide) (by decide) (by decide) (by decide) hc

/-! ## Methods that leave identities alone -/

/-- No registered method gives its object another id or another class. -/
def KeepsIdentities (db : ClassDb) : Prop :=
  ∀ c ∈ db.classes, ∀ m ∈ c.2.methods, ∀ lineage o args,
    (m.2 lineage o args).2.id = o.id ∧ (m.2 lineage o args).2.cls = o.cls

/-- The methods of the core classes leave number and class of an object alone. -/
theorem core_keepsIdentities : core.KeepsIdentities := fun _ hc _ hm lineage o args =>
  have kept := CoreClasses.kept_core hc hm lineage o args
  ⟨kept.id, kept.cls⟩

/-! ## Deeds -/

/-- A request about objects, with its answer. -/
inductive Deed where
  | instantiate (cls : String) (answer : Except HostError ObjectId)
  | call (id : ObjectId) (cls method : String) (args : List Variant)
      (answer : Except HostError Variant)
  | free (id : ObjectId) (answer : Bool)

/-- The database gives the answer, and becomes another one. -/
inductive Does (db : ClassDb) : Deed → ClassDb → Prop
  | instantiate (cls : String) :
      Does db (.instantiate cls (db.instantiate cls).1) (db.instantiate cls).2
  | call (id : ObjectId) (cls method : String) (args : List Variant) :
      Does db (.call id cls method args (db.call id cls method args).1)
        (db.call id cls method args).2
  | free (id : ObjectId) : Does db (.free id (db.free id).1) (db.free id).2

/-- `Served start deeds db`: the database `start` has answered the deeds in order, and is now `db`. -/
inductive Served (start : ClassDb) : List Deed → ClassDb → Prop
  | new : Served start [] start
  | does {deeds : List Deed} {db db' : ClassDb} {deed : Deed} (before : Served start deeds db)
      (does : Does db deed db') : Served start (deeds ++ [deed]) db'

/-- What was answered first was answered by an earlier database. -/
theorem Served.split {start db : ClassDb} {before after : List Deed} {deed : Deed}
    (served : Served start (before ++ deed :: after) db) :
    ∃ u v, Served start before u ∧ Does u deed v := by
  generalize hdeeds : before ++ deed :: after = deeds at served
  induction served generalizing after with
  | new => exact absurd hdeeds (by simp)
  | @does deeds u v last served does ih =>
    rcases List.eq_nil_or_concat after with rfl | ⟨after, last', rfl⟩
    · obtain ⟨rfl, same⟩ := List.append_inj' hdeeds rfl
      cases same
      exact ⟨u, v, served, does⟩
    · rw [List.concat_eq_append, ← List.cons_append, ← List.append_assoc] at hdeeds
      exact ih (List.append_inj' hdeeds rfl).1

/-- What a database has answered goes on with what it answers next. -/
theorem Served.append {start db db' : ClassDb} {past deeds : List Deed}
    (first : Served start past db) (second : Served db deeds db') :
    Served start (past ++ deeds) db' := by
  induction second with
  | new => rwa [List.append_nil]
  | does _ does ih => exact List.append_assoc .. ▸ ih.does does

/-- The id of an object that a deed created. -/
def Deed.created? : Deed → Option ObjectId
  | instantiate _ (.ok id) => some id
  | _ => none

/-- The id of an object that a deed freed. -/
def Deed.freed? : Deed → Option ObjectId
  | free id true => some id
  | _ => none

/-- The ids that were given out, in order. -/
def issued (deeds : List Deed) : List ObjectId := deeds.filterMap Deed.created?

/-- The ids of the objects that were freed. -/
def freed (deeds : List Deed) : List ObjectId := deeds.filterMap Deed.freed?

/-- An id was given out, and its object has not been freed since. -/
def Lent (deeds : List Deed) (id : ObjectId) : Prop :=
  ∃ before cls after, deeds = before ++ .instantiate cls (.ok id) :: after ∧
    ∀ answer, .free id answer ∉ after

/-- An id that was answered has been given out. -/
theorem mem_issued {deeds : List Deed} {cls : String} {id : ObjectId}
    (mem : .instantiate cls (.ok id) ∈ deeds) : id ∈ issued deeds :=
  List.mem_filterMap.mpr ⟨_, mem, rfl⟩

/-- An id that is lent has been given out. -/
theorem Lent.mem_issued {deeds : List Deed} {id : ObjectId} (lent : Lent deeds id) :
    id ∈ issued deeds := by
  obtain ⟨before, cls, after, rfl, -⟩ := lent
  exact ClassDb.mem_issued (List.mem_append_right _ List.mem_cons_self)

/-- Ids are given out one deed after the other. -/
theorem issued_append (before after : List Deed) :
    issued (before ++ after) = issued before ++ issued after :=
  List.filterMap_append

/-- Ids are taken back one deed after the other. -/
theorem freed_append (before after : List Deed) :
    freed (before ++ after) = freed before ++ freed after :=
  List.filterMap_append

/-- One deed more gives out an id, or keeps those that it does not free. -/
theorem lent_concat {deeds : List Deed} {deed : Deed} {id : ObjectId} :
    Lent (deeds ++ [deed]) id ↔
      deed.created? = some id ∨ Lent deeds id ∧ ∀ answer, deed ≠ .free id answer := by
  constructor
  · rintro ⟨before, cls, after, split, kept⟩
    -- the deed that gave the id out is the last one, or was done before it
    rcases List.eq_nil_or_concat after with rfl | ⟨after, last, rfl⟩
    · obtain ⟨-, same⟩ := List.append_inj' split rfl
      cases same
      exact .inl rfl
    · rw [List.concat_eq_append] at kept split
      rw [← List.cons_append, ← List.append_assoc] at split
      obtain ⟨rfl, same⟩ := List.append_inj' split rfl
      cases same
      refine .inr ⟨⟨before, cls, after, rfl, fun answer mem => ?_⟩, fun answer same => ?_⟩
      · exact kept answer (List.mem_append_left _ mem)
      · exact kept answer (List.mem_append_right _ (List.mem_singleton.mpr same.symm))
  · rintro (gives | ⟨⟨before, cls, after, rfl, kept⟩, other⟩)
    · cases deed with
      | instantiate cls answer =>
        cases answer with
        | ok given =>
          cases gives
          exact ⟨deeds, cls, [], rfl, fun _ => List.not_mem_nil⟩
        | error e => cases gives
      | _ => cases gives
    · refine ⟨before, cls, after ++ [deed], by simp, fun answer mem => ?_⟩
      rcases List.mem_append.mp mem with old | new
      · exact kept answer old
      · exact other answer (List.mem_singleton.mp new).symm

/-- Ids that count from one go on with the next number. -/
theorem numbered_concat {ids : List ObjectId} {id : ObjectId}
    (numbered : ∀ i j, ids[i]? = some j → j.number.toNat = i + 1)
    (number : id.number.toNat = ids.length + 1) :
    ∀ i j, (ids ++ [id])[i]? = some j → j.number.toNat = i + 1 := by
  intro i j hj
  rcases Nat.lt_trichotomy i ids.length with below | rfl | above
  · rw [List.getElem?_append_left below] at hj
    exact numbered i j hj
  · rw [List.getElem?_concat_length] at hj
    cases hj
    exact number
  · rw [List.getElem?_eq_none (by rw [List.length_append, List.length_singleton]; omega)] at hj
    cases hj

/-- A live object is in the books. -/
theorem mem_of_object? {db : ClassDb} {id : ObjectId} {o : EngineObject}
    (alive : db.object? id = some o) : id ∈ db.objects.map Prod.fst :=
  Keyed.isSome_get?_iff.mp (Option.isSome_of_eq_some alive)

/-- The objects are one less exactly if one was freed. -/
theorem length_erased (db : ClassDb) (id : ObjectId) :
    (Keyed.erase id db.objects).length + (freed [.free id (db.object? id).isSome]).length =
      db.objects.length := by
  have length := congrArg List.length (Keyed.keys_erase id db.objects)
  rw [List.length_map] at length
  rw [length]
  -- erasing what is not listed is no change, and is recorded as freeing nothing
  cases alive : db.object? id with
  | none =>
    have absent : id ∉ db.objects.map Prod.fst := fun mem => by
      have some := Keyed.isSome_get?_iff.mpr mem
      unfold object? at alive
      rw [alive] at some
      cases some
    rw [List.erase_of_not_mem absent, List.length_map]
    rfl
  | some o =>
    have present := mem_of_object? alive
    have positive := List.length_pos_of_mem present
    rw [List.length_erase_of_mem present]
    rw [List.length_map] at positive ⊢
    exact Nat.sub_add_cancel positive

/-! ## The books of a database -/

/-- What a database holds after a list of deeds. -/
structure Books (start : ClassDb) (deeds : List Deed) (db : ClassDb) : Prop where
  classes : db.classes = start.classes
  counter : db.created.toNat = (issued deeds).length
  ids : ∀ i id, (issued deeds)[i]? = some id → id.number.toNat = i + 1
  nodup : (db.objects.map Prod.fst).Nodup
  live : ∀ id, id ∈ db.objects.map Prod.fst ↔ Lent deeds id
  record : ∀ id o, db.object? id = some o →
    o.id = id ∧ ∀ cls, .instantiate cls (.ok id) ∈ deeds → o.cls = cls
  count : db.objects.length + (freed deeds).length = (issued deeds).length

/-- How an instance is created, or why not. -/
theorem instantiate_cases {db : ClassDb} (acyclic : db.Acyclic) (cls : String) :
    (db.instantiate cls = (.error (.classNotFound cls), db) ∧ db.class? cls = none) ∨
    (db.instantiate cls = (.error (.notInstantiable cls), db) ∧
      ∃ d, db.class? cls = some d ∧ d.isInstantiable = false) ∨
    ∃ properties, db.instantiate cls =
      (.ok ⟨db.created + 1⟩,
        { db with
          created := db.created + 1
          objects := Keyed.put ⟨db.created + 1⟩ ⟨⟨db.created + 1⟩, cls, properties⟩ db.objects }) := by
  unfold ClassDb.instantiate
  cases found : db.class? cls with
  | none => exact .inl ⟨rfl, rfl⟩
  | some d =>
    cases instantiable : d.isInstantiable with
    | false => exact .inr (.inl ⟨by simp [instantiable], d, rfl, instantiable⟩)
    | true =>
      -- without circles the walk through the ancestors comes to an end
      obtain ⟨chain, walked⟩ := acyclic.exists_chain found
      refine .inr (.inr ⟨initialProperties chain, ?_⟩)
      simp [instantiable, walked]

/-- A call changes the properties of its object, or nothing. -/
theorem call_cases {db : ClassDb} (keeps : db.KeepsIdentities) (id : ObjectId)
    (cls method : String) (args : List Variant) :
    (db.call id cls method args).2 = db ∨
    ∃ o o', db.object? id = some o ∧ o'.id = o.id ∧ o'.cls = o.cls ∧
      (db.call id cls method args).2 = { db with objects := Keyed.put id o' db.objects } := by
  unfold ClassDb.call
  cases alive : Keyed.get? id db.objects with
  | none => exact .inl rfl
  | some o =>
    dsimp only
    split
    · exact .inl rfl
    · exact .inl rfl
    split
    · exact .inl rfl
    next run found =>
      -- what the method leaves behind is still the same object
      obtain ⟨c, hc, mem⟩ := method_of_found found
      obtain ⟨sameId, sameCls⟩ := keeps c hc _ mem db.lineage o args
      exact .inr ⟨o, _, alive, sameId, sameCls, rfl⟩

/-- A call of a dead object fails and changes nothing. -/
theorem call_dead {db : ClassDb} {id : ObjectId} (dead : db.object? id = none)
    (cls method : String) (args : List Variant) :
    db.call id cls method args = (.error (.invalidObject id.number), db) := by
  unfold object? at dead
  unfold ClassDb.call
  rw [dead]

namespace Books

variable {start db db' : ClassDb} {deeds : List Deed}

/-- At the start there is nothing in the books. -/
theorem new {start : ClassDb} (objects : start.objects = []) (created : start.created = 0) :
    Books start [] start where
  classes := rfl
  counter := by rw [created]; rfl
  ids _ _ h := by cases h
  nodup := by rw [objects]; exact .nil
  live id := by
    rw [objects]
    refine ⟨fun h => absurd h List.not_mem_nil, ?_⟩
    rintro ⟨before, cls, after, split, -⟩
    exact absurd split.symm (by simp)
  record id o alive := by
    rw [object?, objects] at alive
    cases alive
  count := by rw [objects]; rfl

variable (books : Books start deeds db)
include books

/-- An object lives exactly as long as its id is lent. -/
theorem isSome_iff (id : ObjectId) : (db.object? id).isSome ↔ Lent deeds id :=
  Keyed.isSome_get?_iff.trans (books.live id)

/-- A deed that neither creates nor frees leaves the books as they are, whatever it does to the
properties of an object. -/
theorem unchanged {deed : Deed} (creates : deed.created? = none)
    (frees : ∀ id answer, deed ≠ .free id answer) : Books start (deeds ++ [deed]) db := by
  have none_created : issued (deeds ++ [deed]) = issued deeds := by
    rw [issued_append, show issued [deed] = [] from List.filterMap_cons_none creates,
      List.append_nil]
  have none_freed : freed (deeds ++ [deed]) = freed deeds := by
    have : deed.freed? = none := by
      cases deed with
      | free id answer => exact absurd rfl (frees id answer)
      | _ => rfl
    rw [freed_append, show freed [deed] = [] from List.filterMap_cons_none this, List.append_nil]
  -- the deed adds nothing to the ids that were given out and to those that were freed
  refine ⟨books.classes, ?_, ?_, books.nodup, fun id => ?_, fun id o alive => ?_, ?_⟩
  · rw [none_created]; exact books.counter
  · rw [none_created]; exact books.ids
  · rw [books.live, lent_concat, creates]
    exact ⟨fun lent => .inr ⟨lent, frees id⟩, fun h => (h.resolve_left nofun).1⟩
  · obtain ⟨same, born⟩ := books.record id o alive
    refine ⟨same, fun cls mem => ?_⟩
    rcases List.mem_append.mp mem with old | new
    · exact born cls old
    · rw [← List.mem_singleton.mp new] at creates
      cases creates
  · rw [none_created, none_freed]; exact books.count

/-- An id that is given out next is a new one. -/
theorem fresh (bound : (issued deeds).length + 1 < UInt64.size) :
    (⟨db.created + 1⟩ : ObjectId).number.toNat = (issued deeds).length + 1 ∧
      ⟨db.created + 1⟩ ∉ issued deeds := by
  have number : (db.created + 1).toNat = (issued deeds).length + 1 := by
    rw [UInt64.toNat_add, books.counter]
    exact Nat.mod_eq_of_lt bound
  refine ⟨number, fun mem => ?_⟩
  obtain ⟨i, hi⟩ := List.mem_iff_getElem?.mp mem
  have small : i < (issued deeds).length := (List.getElem?_eq_some_iff.mp hi).1
  have := books.ids i _ hi
  dsimp only at this
  omega

/-- An object that is put under a new id has this id and its class, and the others are as before. -/
theorem record_put_new {id j : ObjectId} {cls : String} {properties : List (String × Variant)}
    {o : EngineObject} (fresh : id ∉ issued deeds)
    (alive : Keyed.get? j (Keyed.put id ⟨id, cls, properties⟩ db.objects) = some o) :
    o.id = j ∧ ∀ c, .instantiate c (.ok j) ∈ deeds ++ [.instantiate cls (.ok id)] → o.cls = c := by
  have member : ∀ c, Deed.instantiate c (.ok j) ∈ deeds ++ [.instantiate cls (.ok id)] →
      Deed.instantiate c (.ok j) ∈ deeds ∨ c = cls ∧ j = id := by
    intro c mem
    refine (List.mem_append.mp mem).imp_right fun new => ?_
    cases List.mem_singleton.mp new
    exact ⟨rfl, rfl⟩
  by_cases here : j = id
  · subst here
    rw [Keyed.get?_put_self] at alive
    cases alive
    refine ⟨rfl, fun c mem => ?_⟩
    -- an id that was given out before would not be new
    rcases member c mem with old | ⟨rfl, -⟩
    · exact absurd (mem_issued old) fresh
    · rfl
  · rw [Keyed.get?_put_ne here] at alive
    obtain ⟨same, born⟩ := books.record j o alive
    exact ⟨same, fun c mem => born c ((member c mem).resolve_right fun h => here h.2)⟩

/-- An instance is listed under the next id. -/
theorem put_new (bound : (issued deeds).length + 1 < UInt64.size) (cls : String)
    (properties : List (String × Variant)) :
    Books start (deeds ++ [.instantiate cls (.ok ⟨db.created + 1⟩)])
      { db with
        created := db.created + 1
        objects := Keyed.put ⟨db.created + 1⟩ ⟨⟨db.created + 1⟩, cls, properties⟩ db.objects } := by
  obtain ⟨number, fresh⟩ := books.fresh bound
  generalize hid : (⟨db.created + 1⟩ : ObjectId) = id at number fresh ⊢
  have one_created : issued (deeds ++ [.instantiate cls (.ok id)]) = issued deeds ++ [id] :=
    issued_append ..
  have none_freed : freed (deeds ++ [.instantiate cls (.ok id)]) = freed deeds := by
    rw [freed_append]
    exact List.append_nil _
  -- what is listed was given out, and the new id was not
  have absent : id ∉ db.objects.map Prod.fst := fun mem =>
    fresh ((books.live id).mp mem).mem_issued
  have keys : (Keyed.put id ⟨id, cls, properties⟩ db.objects).map Prod.fst =
      db.objects.map Prod.fst ++ [id] := by
    rw [Keyed.keys_put, if_neg absent]
  refine ⟨books.classes, ?_, ?_, ?_, fun j => ?_, fun _ _ => books.record_put_new fresh, ?_⟩
  · rw [one_created, List.length_append, List.length_singleton, ← number, ← hid]
  · rw [one_created]
    exact numbered_concat books.ids number
  · rw [keys]
    exact books.nodup.append (List.nodup_singleton id) (List.disjoint_singleton.mpr absent)
  · rw [keys, List.mem_append, books.live, List.mem_singleton, lent_concat]
    constructor
    · rintro (lent | rfl)
      · exact .inr ⟨lent, nofun⟩
      · exact .inl rfl
    · rintro (gives | ⟨lent, -⟩)
      · cases gives
        exact .inr rfl
      · exact .inl lent
  · have length := congrArg List.length keys
    rw [List.length_map, List.length_append, List.length_map, List.length_singleton] at length
    have count := books.count
    rw [one_created, none_freed, List.length_append, List.length_singleton, length]
    omega

/-- A call leaves its object under its id, with its class. -/
theorem put_called {id : ObjectId} {o o' : EngineObject} (alive : db.object? id = some o)
    (sameId : o'.id = o.id) (sameCls : o'.cls = o.cls) :
    Books start deeds { db with objects := Keyed.put id o' db.objects } := by
  have present := mem_of_object? alive
  have keys : (Keyed.put id o' db.objects).map Prod.fst = db.objects.map Prod.fst := by
    rw [Keyed.keys_put, if_pos present]
  refine ⟨books.classes, books.counter, books.ids, ?_, fun j => ?_, fun j p found => ?_, ?_⟩
  · rw [keys]; exact books.nodup
  · rw [keys]; exact books.live j
  · unfold object? at found
    -- the object in the call is written over by one of the same id and class
    by_cases here : j = id
    · subst here
      rw [Keyed.get?_put_self] at found
      cases found
      rw [sameId, sameCls]
      exact books.record j o alive
    · rw [Keyed.get?_put_ne here] at found
      exact books.record j p found
  · have length := congrArg List.length keys
    rw [List.length_map, List.length_map] at length
    rw [length]
    exact books.count

/-- A freed object is gone, and nothing else is. -/
theorem erased (id : ObjectId) :
    Books start (deeds ++ [.free id (db.object? id).isSome])
      { db with objects := Keyed.erase id db.objects } := by
  have none_created : issued (deeds ++ [.free id (db.object? id).isSome]) = issued deeds := by
    rw [issued_append]
    exact List.append_nil _
  have keys := Keyed.keys_erase id db.objects
  refine ⟨books.classes, ?_, ?_, ?_, fun j => ?_, fun j o alive => ?_, ?_⟩
  · rw [none_created]; exact books.counter
  · rw [none_created]; exact books.ids
  · rw [keys]; exact books.nodup.erase id
  -- no id is listed twice, so that the erased one is not there any more
  · rw [keys, books.nodup.mem_erase_iff, books.live, lent_concat]
    constructor
    · rintro ⟨other, lent⟩
      refine .inr ⟨lent, fun answer same => ?_⟩
      cases same
      exact other rfl
    · rintro (gives | ⟨lent, other⟩)
      · cases gives
      · refine ⟨?_, lent⟩
        rintro rfl
        exact other _ rfl
  · have here : j ≠ id := by
      rintro rfl
      have listed : j ∈ (Keyed.erase j db.objects).map Prod.fst := mem_of_object? alive
      rw [keys, books.nodup.mem_erase_iff] at listed
      exact listed.1 rfl
    unfold object? at alive
    rw [Keyed.get?_erase_ne here] at alive
    obtain ⟨same, born⟩ := books.record j o alive
    refine ⟨same, fun cls mem => ?_⟩
    rcases List.mem_append.mp mem with old | new
    · exact born cls old
    · cases List.mem_singleton.mp new
  · have length := db.length_erased id
    have count := books.count
    rw [none_created, freed_append, List.length_append]
    dsimp only
    omega

/-- The books are kept by every deed. -/
theorem does {deed : Deed} (acyclic : start.Acyclic) (keeps : start.KeepsIdentities)
    (bound : (issued (deeds ++ [deed])).length < UInt64.size) (does : Does db deed db') :
    Books start (deeds ++ [deed]) db' := by
  have acyclic : db.Acyclic := acyclic.congr books.classes
  have keeps : db.KeepsIdentities := by
    unfold KeepsIdentities
    rw [books.classes]
    exact keeps
  cases does with
  | instantiate cls =>
    -- an instance that is refused gives no id out
    rcases instantiate_cases acyclic cls with ⟨refused, -⟩ | ⟨refused, -⟩ | ⟨properties, made⟩
    · rw [refused]
      exact books.unchanged rfl nofun
    · rw [refused]
      exact books.unchanged rfl nofun
    · rw [made, issued_append, List.length_append] at bound
      rw [made]
      exact books.put_new bound cls properties
  | call id cls method args =>
    have same : Books start deeds (db.call id cls method args).2 := by
      rcases call_cases keeps id cls method args with same | ⟨o, o', alive, sameId, sameCls, same⟩
      · rw [same]
        exact books
      · rw [same]
        exact books.put_called alive sameId sameCls
    exact same.unchanged rfl nofun
  | free id => exact books.erased id

end Books

/-- The books of a database are kept over its whole life. -/
theorem books_of_served {start db : ClassDb} {deeds : List Deed} (acyclic : start.Acyclic)
    (keeps : start.KeepsIdentities) (books : Books start [] start)
    (served : Served start deeds db) (bound : (issued deeds).length < UInt64.size) :
    Books start deeds db := by
  induction served with
  | new => exact books
  | does _ does ih =>
    have before := ih (by
      rw [issued_append, List.length_append] at bound
      omega)
    exact before.does acyclic keeps bound does

/-! ## The class of an id -/

/-- A database of classes without circles, whose methods leave identities alone, before it has made
any object. -/
structure Lawful (start : ClassDb) : Prop where
  unused : start.objects = [] ∧ start.created = 0
  acyclic : start.Acyclic
  keeps : start.KeepsIdentities

/-- The core classes are lawful. -/
theorem core_lawful : core.Lawful := ⟨⟨rfl, rfl⟩, core_acyclic, core_keepsIdentities⟩

/-- Whenever an object of an id is alive, it is of the class that the id was given out for, as long as
there have been enough ids. -/
theorem Lawful.same_class {start db db' : ClassDb} (lawful : start.Lawful) {before after : List Deed}
    (first : Served start before db) (next : Served db after db')
    (bound : (issued (before ++ after)).length < UInt64.size) {id : ObjectId} {cls cls' : String}
    (known : db.classOf id = .ok cls) (known' : db'.classOf id = .ok cls') : cls' = cls := by
  obtain ⟨⟨objects, created⟩, acyclic, keeps⟩ := lawful
  have new := Books.new objects created
  have bound' : (issued before).length < UInt64.size := by
    rw [issued_append, List.length_append] at bound
    omega
  have books := books_of_served acyclic keeps new first bound'
  have books' := books_of_served acyclic keeps new (first.append next) bound
  obtain ⟨o, alive, rfl⟩ := exists_object known
  obtain ⟨o', alive', rfl⟩ := exists_object known'
  obtain ⟨earlier, born, later, rfl, -⟩ := (books.live id).mp (mem_of_object? alive)
  -- the earlier object has its class from a deed that is also among the deeds until later
  have given : Deed.instantiate born (.ok id) ∈ earlier ++ .instantiate born (.ok id) :: later :=
    List.mem_append_right _ List.mem_cons_self
  rw [(books.record id o alive).2 born given,
    (books'.record id o' alive').2 born (List.mem_append_left _ given)]

/-! ## The store -/

/-- To register classes creates no objects. -/
theorem registered_unused (classes : List ClassDef) (db : ClassDb) :
    (classes.foldl register db).objects = db.objects ∧
      (classes.foldl register db).created = db.created := by
  induction classes generalizing db with
  | nil => exact ⟨rfl, rfl⟩
  | cons d rest ih => exact ih (db.register d)

/-- An id that was freed is not given out again: it was given out before, and no two places of the
list have one id. -/
theorem Books.not_lent {start u : ClassDb} {before after : List Deed} {id : ObjectId}
    (books : Books start before u) (alive : (u.object? id).isSome)
    (ids : ∀ i j, (issued (before ++ .free id true :: after))[i]? = some j →
      j.number.toNat = i + 1) : ¬ Lent (before ++ .free id true :: after) id := by
  rintro ⟨before', cls, after', split, kept⟩
  -- the deed that would give the id out comes after the freeing or before it
  rcases List.append_eq_append_iff.mp split with ⟨between, rfl, rest⟩ | ⟨between, rfl, rest⟩
  · obtain ⟨i, first⟩ := List.mem_iff_getElem?.mp ((books.isSome_iff id).mp alive).mem_issued
    have small : i < (issued before).length := (List.getElem?_eq_some_iff.mp first).1
    -- then the id would stand at two places of the list, but ids count upwards along it
    have twice : (issued (before ++ .free id true :: after))[(issued before ++ issued between).length]?
        = some id := by
      rw [rest, issued_append, issued_append, ← List.append_assoc,
        List.getElem?_append_right (Nat.le_refl _), Nat.sub_self]
      rfl
    have one := ids i id (by rw [issued_append, List.getElem?_append_left small, first])
    have two := ids _ id twice
    rw [List.length_append] at two
    omega
  · cases between with
    | nil => cases rest
    | cons deed between =>
      cases rest
      exact kept true (List.mem_append_right _ List.mem_cons_self)

/-- What a database answers after a list of deeds, and what it holds. -/
structure Orderly (deeds : List Deed) (db : ClassDb) : Prop where
  /-- The ids that were given out are one, two, three and so on. -/
  ids : ∀ i id, (issued deeds)[i]? = some id → id.number.toNat = i + 1
  /-- An instance that cannot be created takes no id, and nothing changes. -/
  refused : ∀ cls e db', db.instantiate cls = (.error e, db') → db' = db ∧
    (e = .classNotFound cls ∧ db.class? cls = none ∨
      e = .notInstantiable cls ∧ ∃ d, db.class? cls = some d ∧ d.isInstantiable = false)
  live : ∀ id, (db.object? id).isSome ↔ Lent deeds id
  /-- What was freed once is not alive, whatever was done since. -/
  gone : ∀ before id after, deeds = before ++ .free id true :: after → db.object? id = none
  /-- A live object has its own id and the class that it was created from. -/
  record : ∀ id o, db.object? id = some o →
    o.id = id ∧ db.classOf id = .ok o.cls ∧ ∀ cls, .instantiate cls (.ok id) ∈ deeds → o.cls = cls
  count : db.objectCount + (freed deeds).length = (issued deeds).length
  dead : ∀ id, db.object? id = none → db.classOf id = .error (.invalidObject id.number) ∧
    ∀ cls method args, db.call id cls method args = (.error (.invalidObject id.number), db)

/-- Whatever a database of classes without circles, whose methods leave identities alone, is asked to
create, to call and to free: ids are given out in order and once only, objects are alive from their
creation until they are freed, and requests about others are refused and change nothing. -/
theorem store_orderly (classes : List ClassDef)
    (acyclic : (classes.foldl register empty).Acyclic)
    (keeps : (classes.foldl register empty).KeepsIdentities) {deeds : List Deed} {db : ClassDb}
    (served : Served (classes.foldl register empty) deeds db)
    (bound : (issued deeds).length < UInt64.size) : Orderly deeds db := by
  obtain ⟨noObjects, noIds⟩ := registered_unused classes empty
  have new := Books.new noObjects noIds
  have books := books_of_served acyclic keeps new served bound
  have acyclic' := acyclic.congr books.classes
  refine ⟨books.ids, fun cls e db' refused => ?_, books.isSome_iff, ?_, fun id o alive => ?_,
    books.count, fun id dead => ⟨?_, call_dead dead⟩⟩
  · rcases instantiate_cases acyclic' cls with ⟨same, why⟩ | ⟨same, why⟩ | ⟨properties, made⟩
    · cases same.symm.trans refused
      exact ⟨rfl, .inl ⟨rfl, why⟩⟩
    · cases same.symm.trans refused
      exact ⟨rfl, .inr ⟨rfl, why⟩⟩
    · cases made.symm.trans refused
  -- the books until the freeing have the id as given out, those until now have no id twice
  · rintro before id after rfl
    obtain ⟨u, v, earlier, freed⟩ := served.split
    have alive : ∀ answer, Does u (.free id answer) v → (u.object? id).isSome = answer := by
      intro answer does
      cases does
      rfl
    have earlier := books_of_served acyclic keeps new earlier (by
      rw [issued_append, List.length_append] at bound
      omega)
    have lost := earlier.not_lent (alive true freed) books.ids
    rw [← books.isSome_iff] at lost
    exact Option.not_isSome_iff_eq_none.mp lost
  · obtain ⟨same, born⟩ := books.record id o alive
    refine ⟨same, ?_, born⟩
    unfold object? at alive
    rw [classOf, alive]
  · unfold object? at dead
    rw [classOf, dead]

/-- A node of the core classes is named and freed, and the next instance gets the next id. -/
theorem core_store_orderly : ∃ db, Orderly
    [.instantiate "Node" (.ok ⟨1⟩),
      .instantiate "CanvasItem" (.error (.notInstantiable "CanvasItem")),
      .call ⟨1⟩ "Node" "set_name" [.string "crate"] (.ok .nil),
      .free ⟨1⟩ true,
      .call ⟨1⟩ "Object" "get_class" [] (.error (.invalidObject 1)),
      .free ⟨1⟩ false,
      .instantiate "Node2D" (.ok ⟨2⟩)] db := by
  have served := (Served.new : Served core [] core)
    |>.does (.instantiate "Node")
    |>.does (.instantiate "CanvasItem")
    |>.does (.call ⟨1⟩ "Node" "set_name" [.string "crate"])
    |>.does (.free ⟨1⟩)
    |>.does (.call ⟨1⟩ "Object" "get_class" [])
    |>.does (.free ⟨1⟩)
    |>.does (.instantiate "Node2D")
  exact ⟨_, store_orderly _ core_acyclic core_keepsIdentities served (by decide)⟩

end ClassDb

end ScriptBind
