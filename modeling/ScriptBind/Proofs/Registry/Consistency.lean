import ScriptBind.Proofs.Registry.Hierarchy
import Mathlib.Logic.Relation

/-!
# What a registry demands of a description

A registry is built in passes over the builtin types and the classes, with names replaced by hashes.
`Document.Consistent` says what a description must be like without passes, hashes or an order of its
entries: names are declared once, types are supported, parents are declared, and nothing is its own
ancestor. As long as the digests of the names involved do not collide, these are the descriptions
that a registry is built from, and no others.

Main results:

* `succeeds_ofApi_iff` — a registry is built exactly from the consistent descriptions.
* `acceptance_exact` — the same, with the order of the classes made irrelevant.
-/

namespace ScriptBind

open Relation (TransGen)
open Registry (Succeeds Supported)

/-! ## Consistent descriptions -/

namespace Api

/-- A builtin type is known, declares its constants and methods once, and mentions only types that
are supported. -/
structure BuiltinType.Consistent (b : BuiltinType) : Prop where
  known : ∃ t : Tag, t.name = b.name ∧ t.hasValueModel
  constant_once : (b.constants.map fun c => c.name).Nodup
  method_once : (b.methods.map fun m => m.name).Nodup
  method_types : ∀ m ∈ b.methods,
    (∀ a ∈ m.arguments, Supported a.type) ∧ ∀ r ∈ m.returnType, Supported r
  member_types : ∀ m ∈ b.members, Supported m.type
  constructor_types : ∀ k ∈ b.constructors, ∀ a ∈ k.arguments, Supported a.type

/-- A class declares its methods once and mentions only types that are supported. -/
structure ClassEntry.Consistent (c : ClassEntry) : Prop where
  method_once : (c.methods.map fun m => m.name).Nodup
  method_types : ∀ m ∈ c.methods,
    (∀ a ∈ m.arguments, Supported a.type) ∧ ∀ r ∈ m.returnValue, Supported r.type

namespace Document

/-- The names whose digests are compared: those of builtin types, their constants and methods, of
classes, their parents and methods. -/
def comparedNames (d : Document) : List String :=
  (d.builtins.flatMap fun b =>
    b.name :: (b.constants.map fun c => c.name) ++ b.methods.map fun m => m.name) ++
  d.classes.flatMap fun c => c.name :: c.inherits.toList ++ c.methods.map fun m => m.name

/-- The step from a class to the class that it inherits from, by name. -/
def Inherits (d : Document) (cls parent : String) : Prop :=
  ∃ c ∈ d.classes, c.name = cls ∧ c.inherits = some parent

/-- The entries of a description fit together. -/
structure Consistent (d : Document) : Prop where
  builtins : ∀ b ∈ d.builtins, b.Consistent
  builtin_once : (d.builtins.map fun b => b.name).Nodup
  classes : ∀ c ∈ d.classes, c.Consistent
  class_once : (d.classes.map fun c => c.name).Nodup
  parent_declared : ∀ c ∈ d.classes, ∀ p ∈ c.inherits, p ∈ d.classes.map fun c => c.name
  acyclic : ∀ cls, ¬ TransGen d.Inherits cls cls

/-- The order of the classes does not matter. -/
theorem consistent_of_perm {d : Document} {classes : List ClassEntry} (h : classes.Perm d.classes)
    (consistent : d.Consistent) : { d with classes }.Consistent := by
  have inherits : ∀ a b, { d with classes }.Inherits a b → d.Inherits a b := by
    rintro a b ⟨c, hc, hname, hp⟩
    exact ⟨c, h.mem_iff.mp hc, hname, hp⟩
  exact
    { builtins := consistent.builtins
      builtin_once := consistent.builtin_once
      classes := fun c hc => consistent.classes c (h.mem_iff.mp hc)
      class_once := (h.map _).nodup_iff.mpr consistent.class_once
      parent_declared := fun c hc p hp =>
        (h.map _).mem_iff.mpr (consistent.parent_declared c (h.mem_iff.mp hc) p hp)
      acyclic := fun cls cycle => consistent.acyclic cls (TransGen.mono inherits _ _ cycle) }

end Document

end Api

namespace Registry

open Api (Document)

/-! ## Ancestors by hash and by name -/

section Hierarchy

variable {d : Document} {classes : List Class}
  (made : d.classes.map Class.ofApi = classes.map .ok)
  (nodup : (classes.map fun c => c.hash).Nodup) (apart : HashesApart d.classNames)
include made nodup apart

/-- Ancestors by hash are ancestors by name. -/
theorem inherits_of_parent {h p : TypeHash} (path : TransGen (hierarchy classes).Parent h p) :
    ∃ c ∈ d.classes, TypeHash.ofName c.name = h ∧
      ∃ q ∈ d.classNames, TypeHash.ofName q = p ∧ TransGen d.Inherits c.name q := by
  induction path with
  | single step =>
    obtain ⟨c, hc, hh, q, hq, hp⟩ := (hierarchy_parent made nodup).mp step
    exact ⟨c, hc, hh, q, Document.parent_mem_classNames hc hq, hp, .single ⟨c, hc, rfl, hq⟩⟩
  | tail _ step ih =>
    obtain ⟨c, hc, hh, q, hq, hqh, path⟩ := ih
    obtain ⟨k, hk, hkh, r, hr, hp⟩ := (hierarchy_parent made nodup).mp step
    -- the class reached by hash is the one reached by name
    have same : k.name = q := by
      refine apart k.name (Document.name_mem_classNames hk) q hq ?_
      exact TypeHash.ofName_inj.mp (hkh.trans hqh.symm)
    exact ⟨c, hc, hh, r, Document.parent_mem_classNames hk hr, hp, path.tail ⟨k, hk, same, hr⟩⟩

theorem acyclic_hierarchy_iff :
    (hierarchy classes).Acyclic ↔ ∀ cls, ¬ TransGen d.Inherits cls cls := by
  constructor
  · intro acyclic cls cycle
    refine acyclic (TypeHash.ofName cls) (cycle.lift TypeHash.ofName ?_)
    rintro a b ⟨c, hc, rfl, hb⟩
    exact (hierarchy_parent made nodup).mpr ⟨c, hc, rfl, b, hb, rfl⟩
  · intro acyclic h cycle
    obtain ⟨c, hc, hh, q, hq, hqh, path⟩ := inherits_of_parent made nodup apart cycle
    have same : c.name = q := by
      refine apart c.name (Document.name_mem_classNames hc) q hq ?_
      exact TypeHash.ofName_inj.mp (hh.trans hqh.symm)
    exact acyclic q (same ▸ path)

end Hierarchy

/-! ## Acceptance -/

theorem succeeds_checkParent {classes : List Class} {c : Api.ClassEntry} :
    Succeeds (checkParent classes c) ↔
      ∀ p ∈ c.inherits, TypeHash.ofName p ∈ classes.map fun c => c.hash := by
  unfold checkParent
  cases c.inherits with
  | none => exact ⟨fun _ p hp => (by cases hp), fun _ => succeeds_ok ()⟩
  | some parent =>
    dsimp only
    split
    next known =>
      refine ⟨fun _ p hp => ?_, fun _ => succeeds_ok ()⟩
      cases hp
      exact isSome_classOf?_iff.mp known
    next new =>
      refine ⟨fun h => absurd h (not_succeeds_error _), fun h => ?_⟩
      exact absurd (isSome_classOf?_iff.mpr (h parent rfl)) new

theorem succeeds_parentsFirst {classes : List Class} :
    Succeeds (parentsFirst classes) ↔ ∃ order, (hierarchy classes).order = .ok order := by
  constructor
  · rintro ⟨l, hl⟩
    obtain ⟨order, horder, -⟩ := parentsFirst_eq_ok.mp hl
    exact ⟨order, horder⟩
  · rintro ⟨order, horder⟩
    exact ⟨_, parentsFirst_eq_ok.mpr ⟨order, horder, rfl⟩⟩

/-- The passes over a description, one condition each. -/
theorem succeeds_ofApi {d : Document} :
    Succeeds (ofApi d) ↔
      Succeeds (d.builtins.foldlM addBuiltin []) ∧
      ∃ classes, d.classes.foldlM addClass [] = .ok classes ∧
        (∀ c ∈ d.classes, Succeeds (checkParent classes c)) ∧ Succeeds (parentsFirst classes) := by
  unfold ofApi
  refine (succeeds_bind_iff fun _ _ => ?_)
  rw [succeeds_bind]
  refine exists_congr fun classes => and_congr_right fun _ => ?_
  rw [succeeds_bind_iff fun _ _ => succeeds_map, succeeds_forM]

section Names

variable {d : Document} (apart : HashesApart d.comparedNames)
include apart

theorem apart_builtins : HashesApart (d.builtins.map fun b => b.name) := by
  refine apart.subset fun n hn => ?_
  obtain ⟨b, hb, rfl⟩ := List.mem_map.mp hn
  exact List.mem_append_left _ (List.mem_flatMap.mpr ⟨b, hb, List.mem_cons_self⟩)

theorem apart_classNames : HashesApart d.classNames := by
  refine apart.subset fun n hn => List.mem_append_right _ ?_
  obtain ⟨c, hc, hn⟩ := List.mem_flatMap.mp hn
  exact List.mem_flatMap.mpr ⟨c, hc, List.mem_append_left _ hn⟩

theorem apart_classes : HashesApart (d.classes.map fun c => c.name) := by
  refine (apart_classNames apart).subset fun n hn => ?_
  obtain ⟨c, hc, rfl⟩ := List.mem_map.mp hn
  exact Document.name_mem_classNames hc

/-- A builtin type resolves exactly if it is consistent. -/
theorem succeeds_builtin_iff {b : Api.BuiltinType} (hb : b ∈ d.builtins) :
    Succeeds (Builtin.ofApi b) ↔ b.Consistent := by
  have constants : HashesApart (b.constants.map fun c => c.name) := by
    refine apart.subset fun n hn => List.mem_append_left _ (List.mem_flatMap.mpr ⟨b, hb, ?_⟩)
    exact List.mem_append_left _ (List.mem_cons_of_mem _ hn)
  have methods : HashesApart (b.methods.map fun m => m.name) := by
    refine apart.subset fun n hn => List.mem_append_left _ (List.mem_flatMap.mpr ⟨b, hb, ?_⟩)
    exact List.mem_append_right _ hn
  rw [Builtin.succeeds_ofApi, nodup_hash_iff TypeHash.constant_inj constants,
    nodup_hash_iff TypeHash.method_inj methods]
  exact ⟨fun ⟨k, c, mt, m, mm, ct⟩ => ⟨k, c, m, mt, mm, ct⟩,
    fun ⟨k, c, m, mt, mm, ct⟩ => ⟨k, c, mt, m, mm, ct⟩⟩

/-- A class resolves exactly if it is consistent. -/
theorem succeeds_class_iff {c : Api.ClassEntry} (hc : c ∈ d.classes) :
    Succeeds (Class.ofApi c) ↔ c.Consistent := by
  have methods : HashesApart (c.methods.map fun m => m.name) := by
    refine apart.subset fun n hn => List.mem_append_right _ (List.mem_flatMap.mpr ⟨c, hc, ?_⟩)
    exact List.mem_append_right _ hn
  rw [Class.succeeds_ofApi, nodup_hash_iff TypeHash.method_inj methods]
  exact ⟨fun ⟨mt, m⟩ => ⟨m, mt⟩, fun ⟨m, mt⟩ => ⟨mt, m⟩⟩

/-- A parent is declared exactly if its hash is that of a declared class. -/
theorem parent_declared_iff {c : Api.ClassEntry} {p : String} (hc : c ∈ d.classes)
    (hp : p ∈ c.inherits) :
    (TypeHash.ofName p ∈ d.classes.map fun c => TypeHash.ofName c.name) ↔
      p ∈ d.classes.map fun c => c.name := by
  rw [List.mem_map, List.mem_map]
  refine exists_congr fun k => and_congr_right fun hk => ⟨fun h => ?_, fun h => by rw [h]⟩
  exact apart_classNames apart k.name (Document.name_mem_classNames hk) p
    (Document.parent_mem_classNames hc hp) (TypeHash.ofName_inj.mp h)

theorem succeeds_builtins :
    Succeeds (d.builtins.foldlM addBuiltin []) ↔
      (∀ b ∈ d.builtins, b.Consistent) ∧ (d.builtins.map fun b => b.name).Nodup := by
  have hashed : ∀ (b : Api.BuiltinType) x, Builtin.ofApi b = .ok x →
      x.hash = TypeHash.ofName b.name := fun _ _ => Builtin.hash_of_ofApi
  rw [succeeds_collects collects_builtins hashed,
    nodup_hash_iff TypeHash.ofName_inj (apart_builtins apart)]
  exact and_congr_left' (forall₂_congr fun b hb => succeeds_builtin_iff apart hb)

/-- With all classes resolved, what is left to check is their hierarchy. -/
theorem succeeds_hierarchy {classes : List Class}
    (made : d.classes.map Class.ofApi = classes.map .ok)
    (nodup : (classes.map fun c => c.hash).Nodup) :
    (∀ c ∈ d.classes, Succeeds (checkParent classes c)) ∧ Succeeds (parentsFirst classes) ↔
      (∀ c ∈ d.classes, ∀ p ∈ c.inherits, p ∈ d.classes.map fun c => c.name) ∧
        ∀ cls, ¬ TransGen d.Inherits cls cls := by
  have parents : (∀ c ∈ d.classes, Succeeds (checkParent classes c)) ↔
      ∀ c ∈ d.classes, ∀ p ∈ c.inherits, p ∈ d.classes.map fun c => c.name := by
    refine forall₂_congr fun c hc => ?_
    rw [succeeds_checkParent, map_hash_made made]
    exact forall₂_congr fun p hp => parent_declared_iff apart hc hp
  rw [parents]
  refine and_congr_right fun declared => ?_
  have hf := wellformed_hierarchy made nodup fun c hc p hp =>
    (parent_declared_iff apart hc hp).mpr (declared c hc p hp)
  rw [succeeds_parentsFirst, Forest.order_isOk_iff hf,
    acyclic_hierarchy_iff made nodup (apart_classNames apart)]

/-- A registry is built exactly from the consistent descriptions. -/
theorem succeeds_ofApi_iff : Succeeds (ofApi d) ↔ d.Consistent := by
  rw [succeeds_ofApi, succeeds_builtins apart]
  constructor
  -- hashes are compared where the description has names, hence the apartness in both directions
  · rintro ⟨⟨builtins, builtin_once⟩, classes, collected, checked⟩
    obtain ⟨made, nodup⟩ := foldlM_addClass.mp collected
    obtain ⟨parent_declared, acyclic⟩ := (succeeds_hierarchy apart made nodup).mp checked
    have resolved := exists_made.mp ⟨classes, made⟩
    rw [map_hash_made made, nodup_hash_iff TypeHash.ofName_inj (apart_classes apart)] at nodup
    exact ⟨builtins, builtin_once, fun c hc => (succeeds_class_iff apart hc).mp (resolved c hc),
      nodup, parent_declared, acyclic⟩
  · rintro ⟨builtins, builtin_once, consistent, class_once, parent_declared, acyclic⟩
    obtain ⟨classes, made⟩ := exists_made.mpr fun c hc =>
      (succeeds_class_iff apart hc).mpr (consistent c hc)
    have nodup : (classes.map fun c => c.hash).Nodup := by
      rwa [map_hash_made made, nodup_hash_iff TypeHash.ofName_inj (apart_classes apart)]
    exact ⟨⟨builtins, builtin_once⟩, classes, foldlM_addClass.mpr ⟨made, nodup⟩,
      (succeeds_hierarchy apart made nodup).mpr ⟨parent_declared, acyclic⟩⟩

end Names

/-- As long as the digests of the names involved do not collide, a registry is built from a
description exactly if that is consistent, in whatever order its classes are listed. -/
theorem acceptance_exact {d : Document} (apart : HashesApart d.comparedNames) :
    ((∃ r, ofApi d = .ok r) ↔ d.Consistent) ∧
      ∀ classes : List Api.ClassEntry, classes.Perm d.classes →
        ((∃ r, ofApi { d with classes } = .ok r) ↔ ∃ r, ofApi d = .ok r) := by
  have exact_ : (∃ r, ofApi d = .ok r) ↔ d.Consistent := succeeds_ofApi_iff apart
  refine ⟨exact_, fun classes h => ?_⟩
  have apart' : HashesApart { d with classes }.comparedNames := by
    refine apart.subset fun n hn => ?_
    rcases List.mem_append.mp hn with hn | hn
    · exact List.mem_append_left _ hn
    · exact List.mem_append_right _ ((h.flatMap_right _).mem_iff.mp hn)
  have reordered : (∃ r, ofApi { d with classes } = .ok r) ↔ { d with classes }.Consistent :=
    succeeds_ofApi_iff apart'
  rw [reordered, exact_]
  exact ⟨Document.consistent_of_perm (d := { d with classes }) h.symm,
    Document.consistent_of_perm h⟩

/-- A builtin type with a constant and a method, and two classes, the derived one first. -/
def planar : Document where
  header := .empty
  builtins := [{
    name := "Vector2"
    constants := [⟨"ZERO", "Vector2", "Vector2(0, 0)"⟩]
    constructors := [⟨0, [⟨"x", "float", none⟩, ⟨"y", "float", none⟩]⟩]
    methods := [⟨"length", some "float", false, true, false, []⟩]
    members := [⟨"x", "float"⟩]
    enums := [] }]
  classes := [
    ⟨"Node2D", some "Node", true, false, "core", [], [],
      [⟨"move", false, false, false, false, none, [⟨"by", "Vector2", none⟩]⟩]⟩,
    ⟨"Node", none, true, false, "core", [], [], []⟩]
  enums := []

theorem acceptance_exact_planar :
    HashesApart planar.comparedNames ∧ (∃ r, ofApi planar = .ok r) ∧ planar.Consistent ∧
      ∃ r, ofApi { planar with classes := planar.classes.reverse } = .ok r := by
  have apart : HashesApart planar.comparedNames := by decide +kernel
  have accepted : ∃ r, ofApi planar = .ok r := succeeds_of_isOk (by decide +kernel)
  obtain ⟨exact_, reordered⟩ := acceptance_exact apart
  exact ⟨apart, accepted, exact_.mp accepted,
    (reordered planar.classes.reverse (List.reverse_perm _)).mpr accepted⟩

end Registry

end ScriptBind
