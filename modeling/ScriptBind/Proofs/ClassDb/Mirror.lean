import ScriptBind.ClassDb.Basic
import ScriptBind.Proofs.Registry.Ancestry
import ScriptBind.Proofs.Registry.Bindings
import ScriptBind.Proofs.Binding.Dispatch
import Mathlib.Data.List.Perm.Subperm

/-!
# Two hierarchies

A registry knows its classes by the hashes of their names, and it stops at parents that it cannot
find. The class database knows definitions by name, looks for an ancestor by name and for a method
from the class that it is told. `ClassDb.Mirrors` says that a database holds the classes of a
description, with their parents and the names of their methods, whatever these do. Then both walk
up the same way, and a method that the registry finds runs on the object.

Main results:

* `chain?_eq` — the definitions on the way up are those of the registry's ancestors.
* `search_eq` — both look for an ancestor among the same classes.
* `dispatch_mirrored` — both agree on ancestors and on methods.
-/

namespace ScriptBind

open Api (Document)

/-- The names by which classes and their methods are told apart. -/
def Api.Document.hierarchyNames (d : Document) : List String :=
  d.classes.flatMap fun c => c.name :: c.inherits.toList ++ c.methods.map fun m => m.name

namespace ClassDb

/-- A database holds the classes of a description and no others, each with the declared parent and
methods of the declared names. -/
structure Mirrors (db : ClassDb) (d : Document) : Prop where
  declared {name : String} : (db.class? name).isSome ↔ name ∈ d.classes.map fun c => c.name
  parent {e : Api.ClassEntry} (he : e ∈ d.classes) {k : ClassDef}
    (found : db.class? e.name = some k) : k.parent = e.inherits
  methods {e : Api.ClassEntry} (he : e ∈ d.classes) {k : ClassDef}
    (found : db.class? e.name = some k) {name : String} :
    (Keyed.get? name k.methods).isSome ↔ name ∈ e.methods.map fun m => m.name

/-- The definitions under the names of bindings. -/
def definitions (db : ClassDb) (classes : List Registry.Class) : List ClassDef :=
  classes.filterMap fun x => db.class? x.name

theorem definitions_cons {db : ClassDb} {x : Registry.Class} {k : ClassDef}
    (found : db.class? x.name = some k) (rest : List Registry.Class) :
    db.definitions (x :: rest) = k :: db.definitions rest :=
  List.filterMap_cons_some (f := fun x : Registry.Class => db.class? x.name) found

theorem definitions_append (db : ClassDb) (before after : List Registry.Class) :
    db.definitions (before ++ after) = db.definitions before ++ db.definitions after :=
  List.filterMap_append

/-! ## Lineage -/

/-- The parent by name is the one of the definition. -/
theorem lineage_parent? (db : ClassDb) (cls : String) :
    db.lineage.parent? cls = (db.class? cls).bind fun k => k.parent := by
  have lookup : ∀ l : List (String × ClassDef),
      Keyed.get? cls (l.map fun c => (c.1, c.2.parent)) =
        (Keyed.get? cls l).map fun k => k.parent := by
    intro l
    induction l with
    | nil => rfl
    | cons p rest ih =>
      rw [List.map_cons, Keyed.get?, Keyed.get?, ih]
      split <;> rfl
  unfold Lineage.parent? lineage class?
  rw [lookup]
  cases Keyed.get? cls db.classes <;> rfl

/-- Where the chain of definitions ends, the search for an ancestor does. -/
theorem isSome_search {db : ClassDb} (ancestor : String) {fuel : Nat} {cls : String}
    (ends : (db.chain? fuel (db.class? cls)).isSome) :
    (db.lineage.search ancestor (fuel + 1) cls).isSome := by
  -- on the fuel; the search starts at a name and the chain at a definition, hence the step more
  induction fuel generalizing cls with
  | zero =>
    cases known : db.class? cls with
    | some d =>
      rw [known] at ends
      cases ends
    | none =>
      rw [Lineage.search, lineage_parent?, known]
      split <;> rfl
  | succ fuel ih =>
    rw [Lineage.search, lineage_parent?]
    split
    · rfl
    cases known : db.class? cls with
    | none => rfl
    | some d =>
      rw [known, chain?, Option.isSome_map, above?] at ends
      rw [Option.bind_some]
      cases parent : d.parent with
      | none => rfl
      | some p =>
        rw [parent, Option.bind_some] at ends
        exact ih ends

section Mirrored

variable {d : Document} {r : Registry} {db : ClassDb} (built : Registry.ofApi d = .ok r)
  (apart : HashesApart d.hierarchyNames) (mirrors : db.Mirrors d)

include apart in
theorem apart_classNames : HashesApart d.classNames := by
  refine apart.subset fun n hn => ?_
  obtain ⟨c, hc, hn⟩ := List.mem_flatMap.mp hn
  exact List.mem_flatMap.mpr ⟨c, hc, List.mem_append_left _ hn⟩

theorem method_mem {e : Api.ClassEntry} (he : e ∈ d.classes) {m : Api.ClassMethod}
    (hm : m ∈ e.methods) : m.name ∈ d.hierarchyNames :=
  List.mem_flatMap.mpr ⟨e, he, List.mem_append_right _ (List.mem_map_of_mem hm)⟩

include built

theorem name_mem {x : Registry.Class} (mem : x ∈ r.classes) : x.name ∈ d.hierarchyNames := by
  obtain ⟨e, he, made⟩ := (Registry.mem_classes_iff built).mp mem
  rw [(Registry.Class.of_ofApi made).1]
  exact List.mem_flatMap.mpr ⟨e, he, List.mem_cons_self⟩

include mirrors

/-- Every class of the registry is defined. -/
theorem exists_def {x : Registry.Class} (mem : x ∈ r.classes) : ∃ k, db.class? x.name = some k := by
  obtain ⟨e, he, made⟩ := (Registry.mem_classes_iff built).mp mem
  rw [← Option.isSome_iff_exists, mirrors.declared, (Registry.Class.of_ofApi made).1]
  exact List.mem_map_of_mem he

/-- There are no more bindings than definitions. -/
theorem length_classes_le : r.classes.length ≤ db.classes.length := by
  have nodup := (Registry.ordered_classes built).name_nodup
  have sub : (r.classes.map fun c => c.name) ⊆ db.classes.map Prod.fst := by
    intro name hname
    obtain ⟨x, hx, rfl⟩ := List.mem_map.mp hname
    exact Keyed.isSome_get?_iff.mp
      (Option.isSome_iff_exists.mpr (exists_def built mirrors hx))
  have le := (nodup.subperm sub).length_le
  rwa [List.length_map, List.length_map] at le

include apart

/-- Both have the same parent of a class. -/
theorem parent_def {x : Registry.Class} (mem : x ∈ r.classes) {k : ClassDef}
    (found : db.class? x.name = some k) :
    k.parent = (x.parent.bind (Registry.classOf? r.classes)).map fun c => c.name := by
  obtain ⟨e, he, made⟩ := (Registry.mem_classes_iff built).mp mem
  rw [(Registry.Class.of_ofApi made).1] at found
  rw [mirrors.parent he found, Registry.parent_name (apart_classNames apart) built he made]

/-! ## The way up -/

section Way

variable {before after : List Registry.Class} {x : Registry.Class}
  (split : r.classes = before ++ x :: after) {fuel : Nat} (enough : before.length < fuel)
include split enough

/-- The definitions on the way up are those of the classes on the way up. -/
theorem chain?_eq :
    db.chain? fuel (db.class? x.name) =
      some (db.definitions (Registry.chain r.classes fuel (some x))) := by
  -- on the fuel, of which there is more than there are classes before this one: a parent stands
  -- among those, so what is left is enough for it
  induction fuel generalizing before x after with
  | zero => exact absurd enough (Nat.not_lt_zero _)
  | succ fuel ih =>
    have mem : x ∈ r.classes := split ▸ List.mem_append_right _ List.mem_cons_self
    obtain ⟨k, found⟩ := exists_def built mirrors mem
    have parent := parent_def built apart mirrors mem found
    rw [found, chain?, Registry.chain, definitions_cons found, above?, parent]
    cases hy : x.parent.bind (Registry.classOf? r.classes) with
    | none =>
      rw [Registry.chain_none, Option.map_none, Option.bind_none]
      cases fuel <;> rfl
    | some y =>
      obtain ⟨s, t, rfl, split'⟩ := (Registry.ordered_classes built).parent_split split hy
      rw [List.length_append, List.length_cons] at enough
      rw [Option.map_some, Option.bind_some, ih split' (by omega), Option.map_some]

/-- An ancestor is looked for among the classes on the way up. -/
theorem search_eq (ancestor : String) :
    db.lineage.search ancestor fuel x.name =
      some ((Registry.chain r.classes fuel (some x)).any fun y => y.name = ancestor) := by
  -- on the fuel as for `chain?_eq`, except that the search ends at the ancestor
  induction fuel generalizing before x after with
  | zero => exact absurd enough (Nat.not_lt_zero _)
  | succ fuel ih =>
    have mem : x ∈ r.classes := split ▸ List.mem_append_right _ List.mem_cons_self
    obtain ⟨k, found⟩ := exists_def built mirrors mem
    rw [Lineage.search, Registry.chain, List.any_cons]
    by_cases reached : x.name = ancestor
    · rw [if_pos reached, decide_eq_true reached, Bool.true_or]
    · rw [if_neg reached, decide_eq_false reached, Bool.false_or, lineage_parent?, found,
        Option.bind_some, parent_def built apart mirrors mem found]
      cases hy : x.parent.bind (Registry.classOf? r.classes) with
      | none =>
        rw [Registry.chain_none]
        rfl
      | some y =>
        obtain ⟨s, t, rfl, split'⟩ := (Registry.ordered_classes built).parent_split split hy
        rw [List.length_append, List.length_cons] at enough
        exact ih split' (by omega)

end Way

omit apart in
/-- With room for all definitions, the way up is that of the ancestors. -/
theorem exists_split {x : Registry.Class} (mem : x ∈ r.classes) {fuel : Nat}
    (room : db.classes.length ≤ fuel) :
    ∃ before after, r.classes = before ++ x :: after ∧ before.length < fuel ∧
      Registry.chain r.classes fuel (some x) = r.ancestors x.name := by
  obtain ⟨before, after, split⟩ := List.append_of_mem mem
  have short : before.length < r.classes.length := by
    rw [split, List.length_append, List.length_cons]
    omega
  have enough : before.length < fuel :=
    Nat.lt_of_lt_of_le short (Nat.le_trans (length_classes_le built mirrors) room)
  refine ⟨before, after, split, enough, ?_⟩
  unfold Registry.ancestors
  rw [Registry.class?_name built mem,
    (Registry.ordered_classes built).chain_eq split enough short]

/-- The definitions on the host's way up are those of the ancestors. -/
theorem chain?_ancestors {x : Registry.Class} (mem : x ∈ r.classes) :
    db.chain? db.classes.length (db.class? x.name) =
      some (db.definitions (r.ancestors x.name)) := by
  obtain ⟨before, after, split, enough, whole⟩ := exists_split built mirrors mem (Nat.le_refl _)
  rw [← whole, chain?_eq built apart mirrors split enough]

/-- Both answer alike whether a class derives from another one, whatever that is. -/
theorem isParentClass_eq {ancestor : String} (apart' : HashesApart (ancestor :: d.hierarchyNames))
    {x : Registry.Class} (mem : x ∈ r.classes) :
    db.isParentClass x.name ancestor = .ok (r.isSubclass x.name ancestor) := by
  obtain ⟨before, after, split, enough, whole⟩ :=
    exists_split built mirrors mem (Nat.le_succ db.classes.length)
  have size : db.lineage.length = db.classes.length := List.length_map _
  have searched : db.lineage.isA? x.name ancestor =
      some ((r.ancestors x.name).any fun y => y.name = ancestor) := by
    unfold Lineage.isA?
    rw [size, search_eq built apart mirrors split enough, whole]
  -- on the way up, names are told apart by their hashes
  have told : r.isSubclass x.name ancestor =
      (r.ancestors x.name).any fun y => y.name = ancestor := by
    unfold Registry.isSubclass
    rw [Bool.eq_iff_iff, List.any_eq_true, List.any_eq_true]
    refine exists_congr fun y => and_congr_right fun hy => ?_
    have hy := Registry.mem_of_mem_ancestors hy
    rw [beq_iff_eq, decide_eq_true_iff, Registry.hash_name built hy, TypeHash.ofName_inj]
    exact ⟨apart' _ (List.mem_cons_of_mem _ (name_mem built hy)) _ List.mem_cons_self,
      fun same => by rw [same]⟩
  unfold isParentClass
  rw [searched, told]

/-! ## Methods -/

omit apart in
/-- A definition has the methods that the binding of the class has. -/
theorem isSome_method_iff {name : String} (apart' : HashesApart (name :: d.hierarchyNames))
    {x : Registry.Class} (mem : x ∈ r.classes) {k : ClassDef} (found : db.class? x.name = some k) :
    (Keyed.get? name k.methods).isSome ↔ (x.method? name).isSome := by
  obtain ⟨e, he, made⟩ := (Registry.mem_classes_iff built).mp mem
  rw [(Registry.Class.of_ofApi made).1] at found
  rw [mirrors.methods he found, Registry.Class.isSome_method?_iff made, List.mem_map]
  refine exists_congr fun m => and_congr_right fun hm => ?_
  rw [TypeHash.method_inj]
  exact ⟨fun same => by rw [same],
    apart' _ (List.mem_cons_of_mem _ (method_mem he hm)) _ List.mem_cons_self⟩

omit apart mirrors in
/-- A binding found under a name has that name. -/
theorem method_name {name : String} (apart' : HashesApart (name :: d.hierarchyNames))
    {x : Registry.Class} (mem : x ∈ r.classes) {m : Registry.Method}
    (found : x.method? name = some m) : m.name = name := by
  obtain ⟨e, he, made⟩ := (Registry.mem_classes_iff built).mp mem
  obtain ⟨entry, hentry, resolved, hash⟩ := (Registry.Class.method?_eq_some made).mp found
  rw [(Registry.Method.of_ofApi resolved).1]
  refine apart' _ (List.mem_cons_of_mem _ ?_) _ List.mem_cons_self (TypeHash.method_inj.mp hash)
  exact method_mem he hentry

omit apart in
/-- Where no binding has a method, no definition has one. -/
theorem not_defined {name : String} (apart' : HashesApart (name :: d.hierarchyNames))
    {classes : List Registry.Class} (sub : classes ⊆ r.classes)
    (lacking : ∀ x ∈ classes, x.method? name = none) {k : ClassDef}
    (mem : k ∈ db.definitions classes) : Keyed.get? name k.methods = none := by
  obtain ⟨x, hx, found⟩ := List.mem_filterMap.mp mem
  have defined := isSome_method_iff built mirrors apart' (sub hx) found
  rw [lacking x hx] at defined
  exact Option.not_isSome_iff_eq_none.mp fun h => Bool.false_ne_true (defined.mp h)

end Mirrored

/-- A method that the class asked for has itself runs on the object. -/
theorem call_own {db : ClassDb} {id : ObjectId} {o : EngineObject} (alive : db.object? id = some o)
    {cls : String} (derives : db.isParentClass o.cls cls = .ok true) {k : ClassDef}
    (found : db.class? cls = some k) {method : String} {run : ObjectMethod}
    (own : Keyed.get? method k.methods = some run) (args : List Variant) :
    db.call id cls method args =
      ((run db.lineage o args).1,
        { db with objects := Keyed.put id (run db.lineage o args).2 db.objects }) := by
  have nonempty : db.classes ≠ [] := by
    intro empty
    rw [class?, empty] at found
    cases found
  have size := List.length_pos_iff.mpr nonempty
  -- there is at least one step to search with, and the first one finds the method
  have searched : db.findMethod cls method db.classes.length (db.class? cls) = .ok run := by
    obtain ⟨n, hn⟩ := Nat.exists_eq_succ_of_ne_zero (Nat.pos_iff_ne_zero.mp size)
    rw [hn, found, findMethod, own]
  unfold object? at alive
  unfold call
  rw [alive]
  dsimp only
  rw [derives]
  dsimp only
  rw [searched]

/-! ## Agreement -/

/-- The nearest definition of a chain that has a method, with what the method does. -/
def Nearest (chain : List ClassDef) (name : String) (k : ClassDef) (run : ObjectMethod) : Prop :=
  ∃ before after, chain = before ++ k :: after ∧ (∀ j ∈ before, Keyed.get? name j.methods = none) ∧
    Keyed.get? name k.methods = some run

/-- Against a database that mirrors an accepted description, as long as the digests of the names
involved do not collide: the registry and the database agree on the ancestors of a declared class,
whatever name is asked about. A method that the registry finds for a class is the nearest one on the
database's own way up, and a call of it on an object of that class runs it. Where the registry finds
none, there is none on that way. -/
theorem dispatch_mirrored {d : Document} {r : Registry} {db : ClassDb}
    (built : Registry.ofApi d = .ok r) (mirrors : db.Mirrors d) {e : Api.ClassEntry}
    (he : e ∈ d.classes) :
    (∀ ancestor, HashesApart (ancestor :: d.hierarchyNames) →
      db.isParentClass e.name ancestor = .ok (r.isSubclass e.name ancestor)) ∧
    ∀ name, HashesApart (name :: d.hierarchyNames) →
      ∃ chain, db.chain? db.classes.length (db.class? e.name) = some chain ∧
        match r.findMethod? e.name name with
        | none => ∀ k ∈ chain, Keyed.get? name k.methods = none
        | some (owner, m) => m.name = name ∧ ∃ k run, db.class? owner.name = some k ∧
          Nearest chain name k run ∧
            ∀ id o, db.object? id = some o → o.cls = e.name → ∀ args,
              db.call id owner.name name args =
                ((run db.lineage o args).1,
                  { db with objects := Keyed.put id (run db.lineage o args).2 db.objects }) := by
  obtain ⟨x, hx, made⟩ := Registry.exists_class built he
  have name_eq : e.name = x.name := (Registry.Class.of_ofApi made).1.symm
  rw [name_eq]
  refine ⟨fun ancestor apart' => ?_, fun name apart' => ?_⟩
  · have apart := apart'.subset (List.subset_cons_self _ _)
    exact isParentClass_eq built apart mirrors apart' hx
  · have apart := apart'.subset (List.subset_cons_self _ _)
    refine ⟨_, chain?_ancestors built apart mirrors hx, ?_⟩
    have sub : r.ancestors x.name ⊆ r.classes := fun y hy => Registry.mem_of_mem_ancestors hy
    -- both ways up list the same classes, so the nearest owner is the same on either
    cases found : r.findMethod? x.name name with
    | none =>
      unfold Registry.findMethod? at found
      rw [List.findSome?_eq_none_iff] at found
      exact fun k mem => not_defined built mirrors apart' sub
        (fun y hy => Option.map_eq_none_iff.mp (found y hy)) mem
    | some p =>
      obtain ⟨owner, m⟩ := p
      obtain ⟨before, after, split, nearer, declared⟩ := ScriptM.findMethod?_eq_some.mp found
      have howner : owner ∈ r.ancestors x.name := by
        rw [split]
        exact List.mem_append_right _ List.mem_cons_self
      obtain ⟨k, hk⟩ := exists_def built mirrors (sub howner)
      obtain ⟨run, own⟩ := Option.isSome_iff_exists.mp
        ((isSome_method_iff built mirrors apart' (sub howner) hk).mpr
          (Option.isSome_iff_exists.mpr ⟨m, declared⟩))
      have subclass : r.isSubclass x.name owner.name = true :=
        List.any_eq_true.mpr ⟨owner, howner, beq_iff_eq.mpr (Registry.hash_name built (sub howner))⟩
      have derives : db.isParentClass x.name owner.name = .ok true := by
        rw [isParentClass_eq built apart mirrors ?_ hx, subclass]
        exact apart.subset (List.cons_subset.mpr ⟨name_mem built (sub howner), fun _ h => h⟩)
      refine ⟨method_name built apart' (sub howner) declared, k, run, hk,
        ⟨db.definitions before, db.definitions after, ?_, ?_, own⟩, ?_⟩
      · rw [split, definitions_append, definitions_cons hk]
      · refine fun j mem => not_defined built mirrors apart' (fun y hy => sub ?_) nearer mem
        rw [split]
        exact List.mem_append_left _ hy
      · intro id o alive cls args
        exact call_own alive (by rw [cls, derives]) hk own args

/-- A database for `Registry.planar` with a live `Node2D`. -/
def planar : ClassDb :=
  { classes := [
      ("Node", ClassDef.new "Node"),
      ("Node2D", (ClassDef.new "Node2D").inherits "Node"
        |>.method "move" fun _ o args => (.ok .nil, o.set "by" (args.getD 0 .nil)))]
    objects := [(⟨1⟩, ⟨⟨1⟩, "Node2D", []⟩)]
    created := 1 }

theorem planar_mirrors : planar.Mirrors Registry.planar where
  declared {name} := by
    rw [class?, Keyed.isSome_get?_iff]
    exact List.Perm.mem_iff (.swap ..)
  parent {e} he {k} found := by
    rcases List.mem_pair.mp he with rfl | rfl <;> (cases found; rfl)
  methods {e} he {k} found {name} := by
    rw [Keyed.isSome_get?_iff]
    rcases List.mem_pair.mp he with rfl | rfl <;> (cases found; rfl)

theorem dispatch_mirrored_planar :
    ∃ r, Registry.ofApi Registry.planar = .ok r ∧
      planar.isParentClass "Node2D" "Node" = .ok (r.isSubclass "Node2D" "Node") ∧
      ∃ owner m, ∃ run : ObjectMethod, r.findMethod? "Node2D" "move" = some (owner, m) ∧
        ∀ args, (planar.call ⟨1⟩ owner.name "move" args).1 =
          (run planar.lineage ⟨⟨1⟩, "Node2D", []⟩ args).1 := by
  obtain ⟨r, built⟩ : Registry.Succeeds (Registry.ofApi Registry.planar) :=
    Registry.succeeds_of_isOk (by decide +kernel)
  obtain ⟨ancestors, methods⟩ := dispatch_mirrored built planar_mirrors List.mem_cons_self
  refine ⟨r, built, ancestors "Node" (by decide +kernel), ?_⟩
  obtain ⟨chain, hchain, found⟩ := methods "move" (by decide +kernel)
  cases hchain
  split at found
  next => exact absurd (found _ List.mem_cons_self) (by decide)
  next owner m hfound =>
    obtain ⟨-, k, run, -, -, runs⟩ := found
    refine ⟨owner, m, run, hfound, fun args => ?_⟩
    rw [runs ⟨1⟩ ⟨⟨1⟩, "Node2D", []⟩ rfl rfl args]

end ClassDb

end ScriptBind
