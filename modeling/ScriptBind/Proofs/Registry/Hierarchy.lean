import ScriptBind.Proofs.Registry.Construction
import ScriptBind.Proofs.Registry.Forest

/-!
# The hierarchy of declared classes

Classes refer to each other by hash. As long as the digests of their names do not collide, the
parent relation of the hashes is that of the names, and the forest in which the registry looks for
an order is the inheritance that the description declares.

Main results:

* `TypeHash.ofName_inj`, `TypeHash.owned_inj` — a hash tells apart what the digest tells apart.
* `hierarchy_parent`, `wellformed_hierarchy` — the forest of the declared classes.
* `parentsFirst_spec` — the order of the classes holds each once, parents first.
-/

namespace ScriptBind

open Relation (TransGen)

/-! ## Names and hashes -/

/-- No two of the names have the same digest. -/
def HashesApart (names : List String) : Prop :=
  ∀ a ∈ names, ∀ b ∈ names, Hash.digestText a = Hash.digestText b → a = b

instance (names : List String) : Decidable (HashesApart names) :=
  inferInstanceAs (Decidable (∀ a ∈ names, ∀ b ∈ names, _ → _))

/-- The names of the classes and of their parents. -/
def Api.Document.classNames (d : Api.Document) : List String :=
  d.classes.flatMap fun c => c.name :: c.inherits.toList

/-- The name of a class is one of the class names. -/
theorem Api.Document.name_mem_classNames {d : Api.Document} {c : Api.ClassEntry}
    (hc : c ∈ d.classes) : c.name ∈ d.classNames :=
  List.mem_flatMap.mpr ⟨c, hc, List.mem_cons_self⟩

/-- The name of a parent is one of the class names. -/
theorem Api.Document.parent_mem_classNames {d : Api.Document} {c : Api.ClassEntry} {p : String}
    (hc : c ∈ d.classes) (hp : p ∈ c.inherits) : p ∈ d.classNames :=
  List.mem_flatMap.mpr ⟨c, hc, List.mem_cons_of_mem _ (Option.mem_toList.mpr hp)⟩

/-- Fewer names are apart if more names are. -/
theorem HashesApart.subset {names more : List String} (h : HashesApart more) (sub : names ⊆ more) :
    HashesApart names := fun a ha b hb => h a (sub ha) b (sub hb)

namespace TypeHash

/-- Types have the same digest if their names have. -/
theorem ofName_inj {a b : String} :
    ofName a = ofName b ↔ Hash.digestText a = Hash.digestText b := by
  unfold ofName
  rw [TypeHash.mk.injEq, UInt64.xor_right_inj]

/-- Within one domain and owner, digests are the same if those of the names are. -/
theorem owned_inj {domain : UInt64} {owner : TypeHash} {a b : String} :
    owned domain owner a = owned domain owner b ↔ Hash.digestText a = Hash.digestText b := by
  unfold owned
  rw [TypeHash.mk.injEq, UInt64.add_right_inj]

/-- Methods of one owner have the same digest if their names have. -/
theorem method_inj {owner : TypeHash} {a b : String} :
    owner.method a = owner.method b ↔ Hash.digestText a = Hash.digestText b :=
  owned_inj

/-- Constants of one owner have the same digest if their names have. -/
theorem constant_inj {owner : TypeHash} {a b : String} :
    owner.constant a = owner.constant b ↔ Hash.digestText a = Hash.digestText b :=
  owned_inj

/-- Members of one owner have the same digest if their names have. -/
theorem member_inj {owner : TypeHash} {a b : String} :
    owner.member a = owner.member b ↔ Hash.digestText a = Hash.digestText b :=
  owned_inj

end TypeHash

/-- The builtin types are told apart by the digests of their names. -/
theorem Tag.names_apart : HashesApart (Tag.all.map Tag.name) := by decide +kernel

section Nodup

variable {α : Type} {as : List α} {nameOf : α → String} {hash : String → TypeHash}

/-- Equal names have equal hashes. -/
theorem nodup_of_hash (h : (as.map fun a => hash (nameOf a)).Nodup) : (as.map nameOf).Nodup :=
  List.Nodup.of_map hash (by rwa [List.map_map])

/-- Where the digests are apart, hashes are told apart as the names are. -/
theorem nodup_hash_iff (inj : ∀ {a b}, hash a = hash b ↔ Hash.digestText a = Hash.digestText b)
    (apart : HashesApart (as.map nameOf)) :
    (as.map fun a => hash (nameOf a)).Nodup ↔ (as.map nameOf).Nodup := by
  refine ⟨nodup_of_hash, fun h => ?_⟩
  have mapped : ((as.map nameOf).map hash).Nodup :=
    h.map_on fun a ha b hb h => apart a ha b hb (inj.mp h)
  rwa [List.map_map] at mapped

end Nodup

namespace Registry

/-! ## Looking classes up -/

section Lookup

variable {classes : List Class} {h : TypeHash} {c : Class}

/-- A class that is found is listed under the digest. -/
theorem mem_of_classOf? (found : classOf? classes h = some c) : c ∈ classes ∧ c.hash = h := by
  unfold classOf? at found
  have holds := List.find?_some found
  exact ⟨List.mem_of_find?_eq_some found, eq_of_beq holds⟩

/-- A class is found exactly if its digest is listed. -/
theorem isSome_classOf?_iff : (classOf? classes h).isSome ↔ h ∈ classes.map fun c => c.hash := by
  unfold classOf?
  rw [List.find?_isSome, List.mem_map]
  exact exists_congr fun c => and_congr_right fun _ => beq_iff_eq

/-- A class is found by its hash if no other one has it. -/
theorem classOf?_eq_some (nodup : (classes.map fun c => c.hash).Nodup) :
    classOf? classes h = some c ↔ c ∈ classes ∧ c.hash = h := by
  refine ⟨mem_of_classOf?, ?_⟩
  rintro ⟨hc, rfl⟩
  obtain ⟨x, hx⟩ := Option.isSome_iff_exists.mp
    (isSome_classOf?_iff.mpr (List.mem_map_of_mem (f := fun c : Class => c.hash) hc))
  obtain ⟨hmem, hhash⟩ := mem_of_classOf? hx
  rw [hx, List.inj_on_of_nodup_map nodup hmem hc hhash]

end Lookup

/-! ## The forest of the declared classes -/

section Declared

variable {entries : List Api.ClassEntry} {classes : List Class}
  (made : entries.map Class.ofApi = classes.map .ok)
include made

/-- The bindings are those of the entries. -/
theorem mem_made {x : Class} : x ∈ classes ↔ ∃ c ∈ entries, Class.ofApi c = .ok x := by
  have inj : Function.Injective (Except.ok : Class → Except ApiError Class) := fun _ _ h => by
    cases h
    rfl
  rw [← List.mem_map_of_injective inj, ← made, List.mem_map]

/-- The digests of the classes are those of their names, in the order of the description. -/
theorem map_hash_made :
    classes.map (fun c => c.hash) = entries.map fun c => TypeHash.ofName c.name :=
  map_key_eq (fun _ _ h => (Class.of_ofApi h).2.1) made

/-- The names of the classes come in the order of the description. -/
theorem map_name_made : classes.map (fun c => c.name) = entries.map fun c => c.name :=
  map_key_eq (fun _ _ h => (Class.of_ofApi h).1) made

variable (nodup : (classes.map fun c => c.hash).Nodup)
include nodup

/-- The step from a class to its parent, in hashes. -/
theorem hierarchy_parent {h p : TypeHash} :
    (hierarchy classes).Parent h p ↔
      ∃ c ∈ entries, TypeHash.ofName c.name = h ∧ ∃ q ∈ c.inherits, TypeHash.ofName q = p := by
  have found : (hierarchy classes).Parent h p ↔ ∃ x ∈ classes, x.hash = h ∧ x.parent = some p := by
    show (classOf? classes h).bind (fun c => c.parent) = some p ↔ _
    rw [Option.bind_eq_some_iff]
    exact exists_congr fun x => by rw [classOf?_eq_some nodup, and_assoc]
  rw [found]
  constructor
  -- a binding has the hashes of the names in its entry
  · rintro ⟨x, hx, rfl, hp⟩
    obtain ⟨c, hc, hok⟩ := (mem_made made).mp hx
    obtain ⟨-, hhash, hparent⟩ := Class.of_ofApi hok
    rw [hparent] at hp
    exact ⟨c, hc, hhash.symm, Option.map_eq_some_iff.mp hp⟩
  · rintro ⟨c, hc, rfl, q, hq, rfl⟩
    obtain ⟨x, hok⟩ := exists_made.mp ⟨classes, made⟩ c hc
    obtain ⟨-, hhash, hparent⟩ := Class.of_ofApi hok
    refine ⟨x, (mem_made made).mpr ⟨c, hc, hok⟩, hhash, ?_⟩
    rw [hparent, Option.mem_def.mp hq, Option.map_some]

/-- The declared classes form a forest if every parent is among them. -/
theorem wellformed_hierarchy
    (declared : ∀ c ∈ entries, ∀ q ∈ c.inherits,
      TypeHash.ofName q ∈ entries.map fun c => TypeHash.ofName c.name) :
    (hierarchy classes).Wellformed where
  nodup := nodup
  child_mem := by
    intro n p hp
    obtain ⟨c, hc, rfl, -⟩ := (hierarchy_parent made nodup).mp hp
    show TypeHash.ofName c.name ∈ classes.map fun c => c.hash
    rw [map_hash_made made]
    exact List.mem_map_of_mem hc
  parent_mem := by
    intro n p hp
    obtain ⟨c, hc, -, q, hq, rfl⟩ := (hierarchy_parent made nodup).mp hp
    show TypeHash.ofName q ∈ classes.map fun c => c.hash
    rw [map_hash_made made]
    exact declared c hc q hq

end Declared

/-! ## The order of the classes -/

/-- The classes are put in order exactly if there is an order of their hashes. -/
theorem parentsFirst_eq_ok {classes l : List Class} :
    parentsFirst classes = .ok l ↔
      ∃ order, (hierarchy classes).order = .ok order ∧ l = order.filterMap (classOf? classes) := by
  unfold parentsFirst
  cases (hierarchy classes).order with
  | error h => exact ⟨fun h => (by cases h), fun ⟨_, h, _⟩ => (by cases h)⟩
  | ok order =>
    exact ⟨fun h => ⟨order, rfl, (Except.ok.inj h).symm⟩, fun ⟨_, h, hl⟩ => (by cases h; rw [hl])⟩

/-- Hashes of classes, looked up and hashed again. -/
theorem map_hash_filterMap {classes : List Class} {order : List TypeHash}
    (known : ∀ h ∈ order, h ∈ classes.map fun c => c.hash) :
    (order.filterMap (classOf? classes)).map (fun c => c.hash) = order := by
  induction order with
  | nil => rfl
  | cons h rest ih =>
    obtain ⟨c, hc⟩ := Option.isSome_iff_exists.mp
      (isSome_classOf?_iff.mpr (known h List.mem_cons_self))
    rw [List.filterMap_cons_some hc, List.map_cons, (mem_of_classOf? hc).2,
      ih fun h hmem => known h (List.mem_cons_of_mem _ hmem)]

/-- In order, every class is there once, and where a class has a parent, the parent is before it. -/
theorem parentsFirst_spec {classes l : List Class} (hf : (hierarchy classes).Wellformed)
    (h : parentsFirst classes = .ok l) :
    l.Perm classes ∧ (l.map fun c => c.hash).Nodup ∧
      ∀ before c after, l = before ++ c :: after → ∀ p, c.parent = some p →
        p ∈ before.map fun c => c.hash := by
  obtain ⟨order, horder, rfl⟩ := parentsFirst_eq_ok.mp h
  have perm : order.Perm (classes.map fun c => c.hash) := Forest.perm_of_order hf horder
  have hashes : (order.filterMap (classOf? classes)).map (fun c => c.hash) = order :=
    map_hash_filterMap fun h hmem => perm.mem_iff.mp hmem
  have nodup : ((order.filterMap (classOf? classes)).map fun c => c.hash).Nodup := by
    rw [hashes]
    exact perm.nodup_iff.mpr hf.nodup
  refine ⟨?_, nodup, ?_⟩
  -- lists without repetition are permutations of each other if they have the same members
  · refine (List.perm_ext_iff_of_nodup (nodup.of_map _) (hf.nodup.of_map _)).mpr fun c => ?_
    rw [List.mem_filterMap]
    constructor
    · rintro ⟨h, -, hc⟩
      exact (mem_of_classOf? hc).1
    · intro hc
      refine ⟨c.hash, ?_, (classOf?_eq_some hf.nodup).mpr ⟨hc, rfl⟩⟩
      exact perm.mem_iff.mpr (List.mem_map_of_mem hc)
  · intro before c after hsplit p hp
    have hc : c ∈ classes := by
      have : c ∈ order.filterMap (classOf? classes) := by
        rw [hsplit]
        exact List.mem_append_right _ List.mem_cons_self
      obtain ⟨h, -, hfound⟩ := List.mem_filterMap.mp this
      exact (mem_of_classOf? hfound).1
    have parent : (hierarchy classes).Parent c.hash p := by
      show (classOf? classes c.hash).bind (fun c => c.parent) = some p
      rw [(classOf?_eq_some hf.nodup).mpr ⟨hc, rfl⟩]
      exact hp
    refine Forest.parentsFirst_of_order horder _ c.hash (after.map fun c => c.hash) ?_ p parent
    rw [← hashes, hsplit, List.map_append, List.map_cons]

end Registry

end ScriptBind
