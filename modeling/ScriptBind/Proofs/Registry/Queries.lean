import ScriptBind.Proofs.Registry.Ancestry
import ScriptBind.Proofs.Registry.Bindings
import ScriptBind.Proofs.Binding.Dispatch

/-!
# Questions about the declared hierarchy

A registry is asked for the classes above a name, whether one class derives from another, and which
class a method comes from. It answers by going up from hash to hash. `Document.Line` is the way up
as the description declares it: entry by entry, each found by the name that the one before inherits
from. As long as the digests of the names involved do not collide, the answers are those that can be
read off this line, and they are the same in whatever order the classes are listed.

Main results:

* `ancestors_line` — the ancestors of a declared class are the bindings of its line.
* `isSubclass_iff` — deriving is reaching by steps of inheritance.
* `findMethod?_line` — a method is that of the nearest entry on the line that declares it.
* `queries_reordered` — another order of the classes changes no answer.
* `queries_match_declaration` — all of this for one description.
-/

namespace ScriptBind

open Relation (TransGen ReflTransGen)

/-! ## The declared line -/

namespace Api.Document

/-- The entries from a class up to a root: each next one is declared under the name that the one
before inherits from. -/
inductive Line (d : Document) : Option String → List ClassEntry → Prop
  | root : Line d none []
  | step {e : ClassEntry} {rest : List ClassEntry} (declared : e ∈ d.classes)
      (above : Line d e.inherits rest) : Line d (some e.name) (e :: rest)

/-- The nearest entry of a line that declares a method of a name, with that method. -/
def Nearest (line : List ClassEntry) (name : String) (e : ClassEntry) (m : ClassMethod) : Prop :=
  ∃ nearer farther, line = nearer ++ e :: farther ∧
    (∀ k ∈ nearer, name ∉ k.methods.map fun m => m.name) ∧ m ∈ e.methods ∧ m.name = name

section Line

variable {d : Document} {start : Option String} {line : List ClassEntry}

theorem Line.declared (h : d.Line start line) : ∀ e ∈ line, e ∈ d.classes := by
  induction h with
  | root => exact fun _ he => absurd he List.not_mem_nil
  | step declared _ ih => exact List.forall_mem_cons.mpr ⟨declared, ih⟩

variable (once : (d.classes.map fun c => c.name).Nodup)
include once

/-- There is one line from a name. -/
theorem Line.unique (h : d.Line start line) {other : List ClassEntry} (h' : d.Line start other) :
    other = line := by
  induction h generalizing other with
  | root =>
    cases h'
    rfl
  | @step e rest declared above ih =>
    generalize hstart : some e.name = start' at h'
    cases h' with
    | root => cases hstart
    | @step e' rest' declared' above' =>
      have same : e' = e :=
        List.inj_on_of_nodup_map once declared' declared (Option.some.inj hstart).symm
      subst same
      rw [ih above']

/-- On the line from a class stand the classes that are reached by inheriting. -/
theorem Line.mem_iff (h : d.Line start line) {name : String} :
    (name ∈ line.map fun e => e.name) ↔ ∃ first ∈ start, ReflTransGen d.Inherits first name := by
  induction h with
  | root => exact ⟨fun h => absurd h List.not_mem_nil, fun ⟨_, h, _⟩ => (by cases h)⟩
  | @step e rest declared above ih =>
    rw [List.map_cons, List.mem_cons, ih]
    constructor
    · rintro (rfl | ⟨p, hp, path⟩)
      · exact ⟨e.name, rfl, .refl⟩
      · exact ⟨e.name, rfl, path.head ⟨e, declared, rfl, hp⟩⟩
    · rintro ⟨first, hfirst, path⟩
      cases hfirst
      rcases path.cases_head with rfl | ⟨p, ⟨e', declared', hname, hp⟩, path⟩
      · exact .inl rfl
      · -- the step up from the name is that of this entry
        have same : e' = e := List.inj_on_of_nodup_map once declared' declared hname
        exact .inr ⟨p, same ▸ hp, path⟩

end Line

end Api.Document

namespace Registry

open Api (Document)

variable {d : Document} {r : Registry} (built : ofApi d = .ok r)

/-! ## What a registry has made sure of -/

section Accepted

theorem acyclic_classes {classes : List Class} (hf : (hierarchy classes).Wellformed)
    (ordered : parentsFirst classes = .ok r.classes) : (hierarchy classes).Acyclic := by
  obtain ⟨order, found, -⟩ := parentsFirst_eq_ok.mp ordered
  exact (Forest.order_isOk_iff hf).mp ⟨order, found⟩

include built

/-- Every class is declared once. -/
theorem class_once : (d.classes.map fun c => c.name).Nodup := by
  obtain ⟨classes, made, nodup, -, -⟩ := classes_of_ofApi built
  rw [map_hash_made made] at nodup
  exact nodup_of_hash nodup

/-- No class inherits from itself. -/
theorem acyclic_inherits (apart : HashesApart d.classNames) (cls : String) :
    ¬ TransGen d.Inherits cls cls := by
  obtain ⟨classes, made, nodup, hf, ordered⟩ := classes_of_ofApi built
  have acyclic := acyclic_classes hf ordered
  exact (acyclic_hierarchy_iff made nodup apart).mp acyclic cls

end Accepted

/-! ## The way up -/

section Way

include built

/-- A name that collides with no class is only found if a class has it. -/
theorem ancestors_undeclared {name : String} (apart : HashesApart (name :: d.classNames))
    (undeclared : name ∉ d.classes.map fun c => c.name) : r.ancestors name = [] := by
  have unknown : r.class? name = none := by
    rw [Option.eq_none_iff_forall_not_mem]
    intro x found
    obtain ⟨mem, hash⟩ := mem_of_classOf? found
    obtain ⟨e, he, made⟩ := (mem_classes_iff built).mp mem
    rw [(Class.of_ofApi made).2.1, TypeHash.ofName_inj] at hash
    have same := apart _ (List.mem_cons_of_mem _ (Document.name_mem_classNames he)) _
      List.mem_cons_self hash
    exact undeclared (same ▸ List.mem_map_of_mem he)
  rw [ancestors, unknown, chain_none]

variable (apart : HashesApart d.classNames)
include apart

/-- From a class of the registry, the declared line and the way up by hashes are the same. The bound
on the way up counts the classes that may still come. -/
theorem line_chain {before after : List Class} {x : Class}
    (split : r.classes = before ++ x :: after) {fuel : Nat} (enough : before.length < fuel) :
    ∃ line, d.Line (some x.name) line ∧
      line.map Class.ofApi = (chain r.classes fuel (some x)).map .ok := by
  induction fuel generalizing before x after with
  | zero => exact absurd enough (Nat.not_lt_zero _)
  | succ fuel ih =>
    have mem : x ∈ r.classes := split ▸ List.mem_append_right _ List.mem_cons_self
    obtain ⟨e, he, made⟩ := (mem_classes_iff built).mp mem
    have parent := parent_name apart built he made
    suffices above : ∃ rest, d.Line e.inherits rest ∧ rest.map Class.ofApi =
        (chain r.classes fuel (x.parent.bind (classOf? r.classes))).map .ok by
      obtain ⟨rest, line, bindings⟩ := above
      refine ⟨e :: rest, ?_, ?_⟩
      · rw [(Class.of_ofApi made).1]
        exact .step he line
      · rw [chain, List.map_cons, List.map_cons, made, bindings]
    rw [← parent]
    cases hy : x.parent.bind (classOf? r.classes) with
    | none =>
      rw [chain_none]
      exact ⟨[], .root, rfl⟩
    | some y =>
      -- the parent stands earlier in the list, so one step less is enough
      obtain ⟨s, t, rfl, split'⟩ := (ordered_classes built).parent_split split hy
      rw [List.length_append, List.length_cons] at enough
      exact ih split' (by omega)

/-- The ancestors of a declared class are the bindings of the entries on its line. -/
theorem ancestors_line {name : String} (declared : name ∈ d.classes.map fun c => c.name) :
    ∃ line, d.Line (some name) line ∧ line.map Class.ofApi = (r.ancestors name).map .ok := by
  obtain ⟨e, he, rfl⟩ := List.mem_map.mp declared
  obtain ⟨x, mem, made⟩ := exists_class built he
  obtain ⟨before, after, split⟩ := List.append_of_mem mem
  have enough : before.length < r.classes.length := by
    rw [split, List.length_append, List.length_cons]
    omega
  rw [← (Class.of_ofApi made).1, ancestors, class?_name built mem]
  exact line_chain built apart split enough

end Way

/-! ## Deriving -/

section Deriving

/-- A declared name collides with no class. -/
theorem apart_declared (apart : HashesApart d.classNames) {name : String}
    (declared : name ∈ d.classes.map fun c => c.name) : HashesApart (name :: d.classNames) := by
  obtain ⟨e, he, rfl⟩ := List.mem_map.mp declared
  exact apart.subset (List.cons_subset.mpr ⟨Document.name_mem_classNames he, fun _ h => h⟩)

include built

/-- A class derives from what it reaches by inheriting. -/
theorem isSubclass_iff {cls ancestor : String} (apart : HashesApart (cls :: d.classNames))
    (apart' : HashesApart (ancestor :: d.classNames)) :
    r.isSubclass cls ancestor = true ↔
      (cls ∈ d.classes.map fun c => c.name) ∧ ReflTransGen d.Inherits cls ancestor := by
  by_cases declared : cls ∈ d.classes.map fun c => c.name
  case neg =>
    rw [isSubclass, ancestors_undeclared built apart declared]
    exact ⟨fun h => absurd h Bool.false_ne_true, fun h => absurd h.1 declared⟩
  rw [and_iff_right declared]
  obtain ⟨line, hline, bindings⟩ := ancestors_line built (apart.subset (List.subset_cons_self _ _))
    declared
  have hashes : r.isSubclass cls ancestor = true ↔
      TypeHash.ofName ancestor ∈ line.map fun e => TypeHash.ofName e.name := by
    rw [← map_hash_made bindings, isSubclass, List.any_eq_true, List.mem_map]
    exact exists_congr fun y => and_congr_right fun _ => beq_iff_eq
  -- on the line, a hash is told apart as its name is
  have names : (TypeHash.ofName ancestor ∈ line.map fun e => TypeHash.ofName e.name) ↔
      ancestor ∈ line.map fun e => e.name := by
    rw [List.mem_map, List.mem_map]
    refine exists_congr fun e => and_congr_right fun he => ?_
    rw [TypeHash.ofName_inj]
    have listed := Document.name_mem_classNames (hline.declared e he)
    exact ⟨apart' _ (List.mem_cons_of_mem _ listed) _ List.mem_cons_self, fun same => by rw [same]⟩
  rw [hashes, names, hline.mem_iff (class_once built)]
  exact ⟨fun ⟨_, h, path⟩ => (by cases h; exact path), fun path => ⟨cls, rfl, path⟩⟩

/-- Among declared classes, deriving is a partial order. -/
theorem isSubclass_partialOrder (apart : HashesApart d.classNames) {a b : String}
    (ha : a ∈ d.classes.map fun c => c.name) (hb : b ∈ d.classes.map fun c => c.name) :
    r.isSubclass a a = true ∧
      (∀ c ∈ d.classes.map fun c => c.name,
        r.isSubclass a b = true → r.isSubclass b c = true → r.isSubclass a c = true) ∧
      (r.isSubclass a b = true → r.isSubclass b a = true → a = b) := by
  have reached : ∀ {x y}, (x ∈ d.classes.map fun c => c.name) →
      (y ∈ d.classes.map fun c => c.name) →
        (r.isSubclass x y = true ↔ ReflTransGen d.Inherits x y) := fun hx hy => by
    rw [isSubclass_iff built (apart_declared apart hx) (apart_declared apart hy),
      and_iff_right hx]
  rw [reached ha ha, reached ha hb, reached hb ha]
  refine ⟨.refl, fun c hc up => ?_, fun up down => ?_⟩
  · rw [reached hb hc, reached ha hc]
    exact up.trans
  · rcases ReflTransGen.cases_head up with same | ⟨p, step, path⟩
    · exact same
    · -- a way up and back would be a circle
      exact absurd (TransGen.head' step (path.trans down)) (acyclic_inherits built apart a)

end Deriving

/-! ## Methods -/

section Methods

variable {name : String} {e : Api.ClassEntry} {x : Class}
  (apart : HashesApart (name :: e.methods.map fun m => m.name)) (made : Class.ofApi e = .ok x)
include apart made

/-- A method that a class has itself is one that its entry declares. -/
theorem method?_declared {m : Method} :
    x.method? name = some m ↔ ∃ k ∈ e.methods, k.name = name ∧
      Method.ofApi e.name name k.flags k.arguments (k.returnValue.map fun r => r.type) =
        .ok m := by
  rw [Class.method?_eq_some made]
  refine exists_congr fun k => and_congr_right fun hk => ?_
  rw [TypeHash.method_inj]
  constructor
  · rintro ⟨resolved, hash⟩
    have same := apart _ (List.mem_cons_of_mem _ (List.mem_map_of_mem hk)) _ List.mem_cons_self hash
    exact ⟨same, same ▸ resolved⟩
  · rintro ⟨rfl, resolved⟩
    exact ⟨resolved, rfl⟩

/-- A class has no method of a name that its entry does not declare, and no others are lacking. -/
theorem method?_undeclared : x.method? name = none ↔ name ∉ e.methods.map fun m => m.name := by
  rw [← Option.not_isSome_iff_eq_none, Class.isSome_method?_iff made, List.mem_map]
  refine not_congr (exists_congr fun k => and_congr_right fun hk => ?_)
  rw [TypeHash.method_inj]
  exact ⟨apart _ (List.mem_cons_of_mem _ (List.mem_map_of_mem hk)) _ List.mem_cons_self,
    fun same => by rw [same]⟩

end Methods

section Nearest

variable {name : String} {line : List Api.ClassEntry} {classes : List Class}
  (apart : ∀ e ∈ line, HashesApart (name :: e.methods.map fun m => m.name))
  (bindings : line.map Class.ofApi = classes.map .ok)
include apart bindings

/-- Among bindings, a method is nearest where it is nearest among the entries. -/
theorem nearest_line {x : Class} {m : Method} :
    ScriptM.Nearest classes name x m ↔ ∃ e k, Document.Nearest line name e k ∧
      Class.ofApi e = .ok x ∧
        Method.ofApi e.name name k.flags k.arguments (k.returnValue.map fun r => r.type) =
          .ok m := by
  -- bindings lack a method where the entries that they were made of do not declare it
  have undeclared : ∀ {es : List Api.ClassEntry} {cs : List Class}, es ⊆ line →
      es.map Class.ofApi = cs.map .ok →
        ((∀ c ∈ cs, c.method? name = none) ↔
          ∀ e ∈ es, name ∉ e.methods.map fun m => m.name) := by
    intro es cs sub made
    constructor
    · intro lacking e he
      obtain ⟨c, hc⟩ := exists_made.mp ⟨cs, made⟩ e he
      exact (method?_undeclared (apart e (sub he)) hc).mp
        (lacking c ((mem_made made).mpr ⟨e, he, hc⟩))
    · intro lacking c hc
      obtain ⟨e, he, hok⟩ := (mem_made made).mp hc
      exact (method?_undeclared (apart e (sub he)) hok).mpr (lacking e he)
  constructor
  · rintro ⟨before, after, rfl, nearer, declared⟩
    rw [List.map_append, List.map_cons] at bindings
    obtain ⟨nearerEntries, rest, rfl, hnearer, hrest⟩ := List.map_eq_append_iff.mp bindings
    obtain ⟨e, farther, rfl, made, -⟩ := List.map_eq_cons_iff.mp hrest
    have he : e ∈ nearerEntries ++ e :: farther := List.mem_append_right _ List.mem_cons_self
    obtain ⟨k, hk, hname, resolved⟩ := (method?_declared (apart e he) made).mp declared
    refine ⟨e, k, ⟨nearerEntries, farther, rfl, ?_, hk, hname⟩, made, resolved⟩
    exact (undeclared (List.subset_append_left _ _) hnearer).mp nearer
  · rintro ⟨e, k, ⟨nearer, farther, rfl, lacking, hk, hname⟩, made, resolved⟩
    rw [List.map_append, List.map_cons] at bindings
    obtain ⟨before, rest, rfl, hbefore, hrest⟩ := List.map_eq_append_iff.mp bindings.symm
    obtain ⟨y, after, rfl, hy, -⟩ := List.map_eq_cons_iff.mp hrest
    cases hy.trans made
    have he : e ∈ nearer ++ e :: farther := List.mem_append_right _ List.mem_cons_self
    refine ⟨before, after, rfl, ?_, ?_⟩
    · exact (undeclared (List.subset_append_left _ _) hbefore.symm).mpr lacking
    · exact (method?_declared (apart e he) made).mpr ⟨k, hk, hname, resolved⟩

end Nearest

section FindMethod

variable {cls name : String} (apart : HashesApart (cls :: d.classNames))
  (methods : ∀ e ∈ d.classes, HashesApart (name :: e.methods.map fun m => m.name))
include built apart methods

/-- A method is found in the nearest class on the line that declares it. -/
theorem findMethod?_line {x : Class} {m : Method} :
    r.findMethod? cls name = some (x, m) ↔ ∃ line e k, d.Line (some cls) line ∧
      Document.Nearest line name e k ∧ Class.ofApi e = .ok x ∧
        Method.ofApi e.name name k.flags k.arguments (k.returnValue.map fun r => r.type) =
          .ok m := by
  rw [ScriptM.findMethod?_eq_some]
  -- a name that is not declared has no ancestors and no line
  by_cases declared : cls ∈ d.classes.map fun c => c.name
  case neg =>
    rw [ancestors_undeclared built apart declared]
    constructor
    · rintro ⟨before, after, split, -⟩
      cases before <;> cases split
    · rintro ⟨line, -, -, hline, -⟩
      cases hline with
      | step he _ => exact absurd (List.mem_map_of_mem he) declared
  obtain ⟨line, hline, bindings⟩ := ancestors_line built (apart.subset (List.subset_cons_self _ _))
    declared
  rw [nearest_line (fun e he => methods e (hline.declared e he)) bindings]
  constructor
  · rintro ⟨e, k, nearest, made⟩
    exact ⟨line, e, k, hline, nearest, made⟩
  · rintro ⟨other, e, k, hother, nearest, made⟩
    rw [hline.unique (class_once built) hother] at nearest
    exact ⟨e, k, nearest, made⟩

/-- A method is not found if no class on the line declares it. -/
theorem findMethod?_none :
    r.findMethod? cls name = none ↔
      ∀ line, d.Line (some cls) line → ∀ e ∈ line, name ∉ e.methods.map fun m => m.name := by
  have lacking : r.findMethod? cls name = none ↔
      ∀ x ∈ r.ancestors cls, x.method? name = none := by
    rw [findMethod?, List.findSome?_eq_none_iff]
    exact forall₂_congr fun x _ => Option.map_eq_none_iff
  rw [lacking]
  -- a name that is not declared has no ancestors and no line
  by_cases declared : cls ∈ d.classes.map fun c => c.name
  case neg =>
    rw [ancestors_undeclared built apart declared]
    refine ⟨fun _ line hline => ?_, fun _ x hx => absurd hx List.not_mem_nil⟩
    cases hline with
    | step he _ => exact absurd (List.mem_map_of_mem he) declared
  obtain ⟨line, hline, bindings⟩ := ancestors_line built (apart.subset (List.subset_cons_self _ _))
    declared
  have own : ∀ e ∈ line, ∀ x, Class.ofApi e = .ok x →
      (x.method? name = none ↔ name ∉ e.methods.map fun m => m.name) := fun e he x made =>
    method?_undeclared (methods e (hline.declared e he)) made
  constructor
  · intro none_ other hother e he
    rw [hline.unique (class_once built) hother] at he
    obtain ⟨x, made⟩ := exists_made.mp ⟨_, bindings⟩ e he
    exact (own e he x made).mp (none_ x ((mem_made bindings).mpr ⟨e, he, made⟩))
  · intro none_ x hx
    obtain ⟨e, he, made⟩ := (mem_made bindings).mp hx
    exact (own e he x made).mpr (none_ line hline e he)

end FindMethod

/-! ## The order of the classes -/

section Order

/-- The way up depends on what is found under a hash, not on where it stands. -/
theorem chain_congr {classes others : List Class}
    (same : ∀ h, classOf? classes h = classOf? others h) (fuel : Nat) (c : Option Class) :
    chain classes fuel c = chain others fuel c := by
  induction fuel generalizing c with
  | zero => rfl
  | succ fuel ih =>
    cases c with
    | none => rfl
    | some c => rw [chain, chain, ih, funext same]

variable {classes : List Api.ClassEntry} (perm : classes.Perm d.classes)
include built perm

/-- A description is accepted in any order of its classes. -/
theorem accepted_reordered : ∃ r', ofApi { d with classes } = .ok r' := by
  obtain ⟨bindings, made, nodup, hf, ordered⟩ := classes_of_ofApi built
  obtain ⟨builtins, collected, -⟩ := succeeds_ofApi.mp ⟨r, built⟩
  obtain ⟨bindings', made'⟩ := exists_made.mpr fun e he =>
    exists_made.mp ⟨bindings, made⟩ e (perm.mem_iff.mp he)
  have hashes : (bindings'.map fun c => c.hash).Perm (bindings.map fun c => c.hash) := by
    rw [map_hash_made made, map_hash_made made']
    exact perm.map _
  have nodup' := hashes.nodup_iff.mpr nodup
  -- parents are found by hash, so they are the same
  have parent : ∀ h p, (hierarchy bindings').Parent h p ↔ (hierarchy bindings).Parent h p := by
    intro h p
    rw [hierarchy_parent made nodup, hierarchy_parent made' nodup']
    exact exists_congr fun e => and_congr_left' perm.mem_iff
  have known : ∀ e ∈ classes, ∀ p ∈ e.inherits, TypeHash.ofName p ∈ bindings'.map fun c => c.hash :=
    fun e he p hp => hashes.mem_iff.mpr (hf.parent_mem
      ((hierarchy_parent made nodup).mpr ⟨e, perm.mem_iff.mp he, rfl, p, hp, rfl⟩))
  have hf' : (hierarchy bindings').Wellformed :=
    wellformed_hierarchy made' nodup' fun e he p hp => by
      rw [← map_hash_made made']
      exact known e he p hp
  have acyclic : (hierarchy bindings').Acyclic := fun h cycle =>
    acyclic_classes hf ordered h (TransGen.mono (fun a b => (parent a b).mp) _ _ cycle)
  refine succeeds_ofApi.mpr ⟨builtins, bindings', foldlM_addClass.mpr ⟨made', nodup'⟩,
    fun e he => succeeds_checkParent.mpr (known e he), ?_⟩
  exact succeeds_parentsFirst.mpr ((Forest.order_isOk_iff hf').mpr acyclic)

/-- In any order of the classes, every question has the same answer. -/
theorem queries_reordered {r' : Registry} (built' : ofApi { d with classes } = .ok r') (n : String) :
    r'.ancestors n = r.ancestors n ∧ (∀ a, r'.isSubclass n a = r.isSubclass n a) ∧
      ∀ m, r'.findMethod? n m = r.findMethod? n m := by
  have mem : ∀ x, x ∈ r'.classes ↔ x ∈ r.classes := by
    intro x
    rw [mem_classes_iff built, mem_classes_iff built']
    exact exists_congr fun e => and_congr_left' perm.mem_iff
  have nodup := (ordered_classes built).hash_nodup
  have nodup' := (ordered_classes built').hash_nodup
  -- no hash stands for two classes, so looking one up does not depend on the order
  have same : ∀ h, classOf? r'.classes h = classOf? r.classes h := fun h => Option.ext fun x => by
    rw [classOf?_eq_some nodup, classOf?_eq_some nodup', mem]
  have length : r'.classes.length = r.classes.length :=
    ((List.perm_ext_iff_of_nodup (nodup'.of_map _) (nodup.of_map _)).mpr mem).length_eq
  have ancestors_eq : r'.ancestors n = r.ancestors n := by
    unfold ancestors class?
    rw [length, same, chain_congr same]
  refine ⟨ancestors_eq, fun a => ?_, fun m => ?_⟩
  · rw [isSubclass, isSubclass, ancestors_eq]
  · rw [findMethod?, findMethod?, ancestors_eq]

end Order

/-! ## All questions -/

/-- A registry answers questions about its classes as the description declares them, as long as the
digests of the names involved do not collide. The ancestors of a declared class are the bindings of
the entries on its line, from the class itself up to the root, and there are none of any other name.
A class derives from what it reaches by inheriting in any number of steps, which orders the declared
classes partially. A method is that of the nearest class on the line that declares it. The order in
which the classes are listed changes neither that the description is accepted nor any answer. -/
theorem queries_match_declaration (built : ofApi d = .ok r) (apart : HashesApart d.classNames) :
    (∀ n, HashesApart (n :: d.classNames) →
      ((n ∉ d.classes.map fun c => c.name) → r.ancestors n = []) ∧
      ((n ∈ d.classes.map fun c => c.name) → ∃ line, d.Line (some n) line ∧
        (r.ancestors n).map .ok = line.map Class.ofApi)) ∧
    (∀ c a, HashesApart (c :: d.classNames) → HashesApart (a :: d.classNames) →
      (r.isSubclass c a = true ↔
        (c ∈ d.classes.map fun c => c.name) ∧ ReflTransGen d.Inherits c a)) ∧
    (∀ a ∈ d.classes.map fun c => c.name, ∀ b ∈ d.classes.map fun c => c.name,
      r.isSubclass a a = true ∧
      (∀ c ∈ d.classes.map fun c => c.name,
        r.isSubclass a b = true → r.isSubclass b c = true → r.isSubclass a c = true) ∧
      (r.isSubclass a b = true → r.isSubclass b a = true → a = b)) ∧
    (∀ c m, HashesApart (c :: d.classNames) →
      (∀ e ∈ d.classes, HashesApart (m :: e.methods.map fun m => m.name)) →
        (∀ x b, r.findMethod? c m = some (x, b) ↔ ∃ line e k, d.Line (some c) line ∧
          Document.Nearest line m e k ∧ Class.ofApi e = .ok x ∧
            Method.ofApi e.name m k.flags k.arguments (k.returnValue.map fun r => r.type) =
              .ok b) ∧
        (r.findMethod? c m = none ↔
          ∀ line, d.Line (some c) line → ∀ e ∈ line, m ∉ e.methods.map fun m => m.name)) ∧
    ∀ classes : List Api.ClassEntry, classes.Perm d.classes →
      ∃ r', ofApi { d with classes } = .ok r' ∧ ∀ n,
        r'.ancestors n = r.ancestors n ∧ (∀ a, r'.isSubclass n a = r.isSubclass n a) ∧
          ∀ m, r'.findMethod? n m = r.findMethod? n m := by
  refine ⟨fun n apart' => ⟨ancestors_undeclared built apart', fun declared => ?_⟩,
    fun c a apart' apart'' => isSubclass_iff built apart' apart'',
    fun a ha b hb => isSubclass_partialOrder built apart ha hb,
    fun c m apart' methods => ⟨fun x b => findMethod?_line built apart' methods,
      findMethod?_none built apart' methods⟩,
    fun classes perm => ?_⟩
  · obtain ⟨line, hline, bindings⟩ := ancestors_line built apart declared
    exact ⟨line, hline, bindings.symm⟩
  · obtain ⟨r', built'⟩ := accepted_reordered built perm
    exact ⟨r', built', queries_reordered built perm built'⟩

theorem queries_match_declaration_planar :
    HashesApart planar.classNames ∧ ∃ r, ofApi planar = .ok r ∧
      r.isSubclass "Node2D" "Node" = true ∧ r.isSubclass "Node" "Node2D" = false ∧
        r.ancestors "Sprite" = [] ∧ r.findMethod? "Node" "move" = none ∧
          ∃ x b, r.findMethod? "Node2D" "move" = some (x, b) ∧ x.name = "Node2D" := by
  have apart : HashesApart planar.classNames := by decide +kernel
  obtain ⟨r, built⟩ : Succeeds (ofApi planar) := succeeds_of_isOk (by decide +kernel)
  obtain ⟨ancestors, subclass, partialOrder, method, -⟩ := queries_match_declaration built apart
  have node : planar.Line (some "Node") [planar.classes[1]] :=
    .step (e := planar.classes[1]) (List.mem_cons_of_mem _ List.mem_cons_self) .root
  have node2D : planar.Line (some "Node2D") [planar.classes[0], planar.classes[1]] :=
    .step (e := planar.classes[0]) List.mem_cons_self node
  have derives : r.isSubclass "Node2D" "Node" = true :=
    (subclass "Node2D" "Node" (by decide +kernel) (by decide +kernel)).mpr
      ⟨by decide, .single ⟨_, List.mem_cons_self, rfl, rfl⟩⟩
  refine ⟨apart, r, built, derives, ?_, ?_, ?_, ?_⟩
  · rw [← Bool.not_eq_true]
    intro back
    have same := (partialOrder "Node2D" (by decide) "Node" (by decide)).2.2 derives back
    exact absurd same (by decide)
  · exact (ancestors "Sprite" (by decide +kernel)).1 (by decide)
  · refine (method "Node" "move" (by decide +kernel) (by decide +kernel)).2.mpr ?_
    intro line hline
    rw [node.unique (class_once built) hline]
    decide
  · obtain ⟨x, -, made⟩ := exists_class built (e := planar.classes[0]) List.mem_cons_self
    obtain ⟨b, resolved⟩ : Succeeds (Method.ofApi "Node2D" "move" default
        [⟨"by", "Vector2", none⟩] none) := succeeds_of_isOk (by decide +kernel)
    refine ⟨x, b, ?_, (Class.of_ofApi made).1⟩
    refine ((method "Node2D" "move" (by decide +kernel) (by decide +kernel)).1 x b).mpr ?_
    exact ⟨_, _, _, node2D, ⟨[], [planar.classes[1]], rfl, fun _ hk => absurd hk List.not_mem_nil,
      List.mem_cons_self, rfl⟩, made, resolved⟩

end Registry

end ScriptBind
