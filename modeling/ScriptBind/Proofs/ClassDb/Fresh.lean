import ScriptBind.Proofs.ClassDb.Objects

/-!
# New objects

An object that is created gets the next number, so it is told apart from all objects that have ever
been alive. This holds of any classes: their hierarchy may go in circles, as long as the request at
hand is answered, and their methods may do with identities what they like, because the objects are
listed under the ids that were given out.

Main results:

* `instantiate_ok`, `instantiate_refused` — what a request for an instance does.
* `History.numbered` — the numbers of the objects of a database, after any deeds.
* `instantiate_new` — a new object is one that has never been alive, and is listed last.
-/

namespace ScriptBind

namespace ClassDb

/-! ## Instances -/

/-- An instance that is created is listed under the next number. -/
theorem instantiate_ok {db db' : ClassDb} {cls : String} {id : ObjectId}
    (made : db.instantiate cls = (.ok id, db')) :
    id = ⟨db.created + 1⟩ ∧ ∃ o : EngineObject, o.cls = cls ∧
      db' = { db with created := db.created + 1, objects := Keyed.put id o db.objects } := by
  unfold ClassDb.instantiate at made
  split at made
  · cases made
  · split at made
    · cases made
    · split at made
      · cases made
      · cases made
        exact ⟨rfl, _, rfl, rfl⟩

/-- A request that is refused changes nothing. -/
theorem instantiate_refused {db db' : ClassDb} {cls : String} {e : HostError}
    (refused : db.instantiate cls = (.error e, db')) : db' = db := by
  unfold ClassDb.instantiate at refused
  split at refused
  · cases refused
    rfl
  · split at refused
    · cases refused
      rfl
    · split at refused
      · cases refused
        rfl
      · cases refused

/-- A new instance is of its class. -/
theorem classOf_instantiate {db db' : ClassDb} {cls : String} {id : ObjectId}
    (made : db.instantiate cls = (.ok id, db')) : db'.classOf id = .ok cls := by
  obtain ⟨-, o, rfl, rfl⟩ := instantiate_ok made
  rw [classOf, Keyed.get?_put_self]

/-- A call lists the same objects. -/
theorem call_keys (db : ClassDb) (id : ObjectId) (cls method : String) (args : List Variant) :
    (db.call id cls method args).2.created = db.created ∧
      (db.call id cls method args).2.objects.map Prod.fst = db.objects.map Prod.fst := by
  unfold ClassDb.call
  split
  · exact ⟨rfl, rfl⟩
  next o alive =>
    have listed : id ∈ db.objects.map Prod.fst :=
      Keyed.isSome_get?_iff.mp (Option.isSome_of_eq_some alive)
    split
    · exact ⟨rfl, rfl⟩
    · exact ⟨rfl, rfl⟩
    split
    · exact ⟨rfl, rfl⟩
    · exact ⟨rfl, (Keyed.keys_put ..).trans (if_pos listed)⟩

/-! ## Numbers -/

/-- `History deeds db`: a database that began without objects has done the deeds in order, and is
now `db`. Classes may have been registered at any time. -/
inductive History : List Deed → ClassDb → Prop
  | new {db : ClassDb} (objects : db.objects = []) (created : db.created = 0) : History [] db
  | register {deeds : List Deed} {db : ClassDb} (before : History deeds db) (d : ClassDef) :
      History deeds (db.register d)
  | does {deeds : List Deed} {db db' : ClassDb} {deed : Deed} (before : History deeds db)
      (does : Does db deed db') : History (deeds ++ [deed]) db'

/-- The ids that were given out and those of the objects are numbered, up to the number of instances
that were created. -/
structure Numbered (deeds : List Deed) (db : ClassDb) : Prop where
  counter : db.created.toNat = (issued deeds).length
  given : ∀ id ∈ issued deeds, id.number.toNat ≤ (issued deeds).length
  listed : ∀ id ∈ db.objects.map Prod.fst, id.number.toNat ≤ (issued deeds).length

variable {db db' : ClassDb} {deeds : List Deed}

theorem Numbered.next (numbered : Numbered deeds db)
    (bound : (issued deeds).length + 1 < UInt64.size) :
    (db.created + 1).toNat = (issued deeds).length + 1 := by
  rw [UInt64.toNat_add, numbered.counter]
  exact Nat.mod_eq_of_lt bound

/-- A deed that creates nothing, and lists no other objects. -/
theorem Numbered.unchanged {deed : Deed} (numbered : Numbered deeds db)
    (creates : deed.created? = none) (created : db'.created = db.created)
    (listed : ∀ id ∈ db'.objects.map Prod.fst, id ∈ db.objects.map Prod.fst) :
    Numbered (deeds ++ [deed]) db' := by
  have same : issued (deeds ++ [deed]) = issued deeds := by
    rw [issued_append, show issued [deed] = [] from List.filterMap_cons_none creates,
      List.append_nil]
  refine ⟨?_, ?_, ?_⟩
  · rw [same, created]
    exact numbered.counter
  · rw [same]
    exact numbered.given
  · rw [same]
    exact fun id mem => numbered.listed id (listed id mem)

theorem Numbered.does {deed : Deed} (numbered : Numbered deeds db)
    (bound : (issued (deeds ++ [deed])).length < UInt64.size) (does : Does db deed db') :
    Numbered (deeds ++ [deed]) db' := by
  cases does with
  | call id cls method args =>
    obtain ⟨created, keys⟩ := call_keys db id cls method args
    exact numbered.unchanged rfl created fun _ mem => keys ▸ mem
  | free id =>
    refine numbered.unchanged rfl rfl fun j mem => ?_
    have mem : j ∈ (Keyed.erase id db.objects).map Prod.fst := mem
    rw [Keyed.keys_erase] at mem
    exact List.mem_of_mem_erase mem
  | instantiate cls =>
    cases made : db.instantiate cls with
    | mk answer db' =>
    cases answer with
    | error e =>
      obtain rfl := instantiate_refused made
      exact numbered.unchanged rfl rfl fun _ mem => mem
    | ok id =>
      obtain ⟨rfl, o, -, rfl⟩ := instantiate_ok made
      have more : issued (deeds ++ [.instantiate cls (.ok ⟨db.created + 1⟩)]) =
          issued deeds ++ [⟨db.created + 1⟩] := issued_append ..
      rw [made] at bound
      rw [more, List.length_append, List.length_singleton] at bound
      have next := numbered.next bound
      -- the new id has the next number, and the old ones have smaller ones
      have covered : ∀ id : ObjectId,
          id.number.toNat ≤ (issued deeds).length ∨ id = ⟨db.created + 1⟩ →
            id.number.toNat ≤ (issued deeds).length + 1 := by
        rintro id (old | rfl)
        · exact Nat.le_succ_of_le old
        · exact Nat.le_of_eq next
      refine ⟨?_, fun id mem => ?_, fun id mem => ?_⟩
      · rw [more, List.length_append, List.length_singleton]
        exact next
      · rw [more] at mem ⊢
        rw [List.length_append, List.length_singleton]
        refine covered id ((List.mem_append.mp mem).imp (numbered.given id) fun new => ?_)
        exact List.mem_singleton.mp new
      · have mem : id ∈ (Keyed.put (⟨db.created + 1⟩ : ObjectId) o db.objects).map Prod.fst := mem
        rw [more, List.length_append, List.length_singleton]
        refine covered id ?_
        rw [Keyed.keys_put] at mem
        split at mem
        · exact .inl (numbered.listed id mem)
        · exact (List.mem_append.mp mem).imp (numbered.listed id) fun new =>
            List.mem_singleton.mp new

/-- Objects and ids stay numbered over the whole life of a database. -/
theorem History.numbered (history : History deeds db)
    (bound : (issued deeds).length < UInt64.size) : Numbered deeds db := by
  induction history with
  | new objects created =>
    refine ⟨congrArg UInt64.toNat created, nofun, fun _ mem => ?_⟩
    rw [objects] at mem
    exact absurd mem List.not_mem_nil
  | register _ _ ih =>
    obtain ⟨counter, given, listed⟩ := ih bound
    exact ⟨counter, given, listed⟩
  | does _ does ih =>
    refine (ih ?_).does bound does
    rw [issued_append, List.length_append] at bound
    omega

/-- A new object has an id that was never given out, and no object that was ever alive has had it.
It is listed after the objects that are there, and nothing else is. -/
theorem instantiate_new {cls : String} {id : ObjectId} (history : History deeds db)
    (bound : (issued deeds).length + 1 < UInt64.size)
    (made : db.instantiate cls = (.ok id, db')) :
    id ∉ issued deeds ∧
      (∀ before after u, deeds = before ++ after → History before u → u.object? id = none) ∧
      ∃ o : EngineObject, o.cls = cls ∧ db'.objects = db.objects ++ [(id, o)] := by
  have numbered := history.numbered (Nat.lt_of_succ_lt bound)
  obtain ⟨rfl, o, cls, rfl⟩ := instantiate_ok made
  have next := numbered.next bound
  -- ids count upwards, so all that are given out or listed are smaller than the new one
  have absent : ∀ j : ObjectId, j.number.toNat ≤ (issued deeds).length →
      j ≠ ⟨db.created + 1⟩ := by
    rintro j old rfl
    dsimp only at old
    omega
  refine ⟨fun mem => absent _ (numbered.given _ mem) rfl, ?_, o, cls, ?_⟩
  · rintro before after u rfl earlier
    have shorter : (issued before).length ≤ (issued (before ++ after)).length := by
      rw [issued_append, List.length_append]
      exact Nat.le_add_right ..
    have before := earlier.numbered (by omega)
    refine Option.not_isSome_iff_eq_none.mp fun alive => ?_
    have mem := Keyed.isSome_get?_iff.mp alive
    exact absent _ (Nat.le_trans (before.listed _ mem) shorter) rfl
  · refine Keyed.put_new (Option.not_isSome_iff_eq_none.mp fun alive => ?_) o
    exact absent _ (numbered.listed _ (Keyed.isSome_get?_iff.mp alive)) rfl

end ClassDb

end ScriptBind
