import ScriptBind.Proofs.Registry.Consistency

/-!
# Parents first, and the way up

The classes of a registry are its declared classes, each with its parent before it. The way from a
class to its ancestors therefore goes to the front of the list, so it ends, and it passes no class
twice. The bound that the registry puts on it is never what ends it: `climb` goes on for as many
steps as it is told to, and passes the same classes.

Main results:

* `ancestors_spec` — the way up in a list with parents first.
* `classes_parents_first` — the classes of a registry, and the way up from each name.
-/

namespace ScriptBind.Registry

open Api (Document)

/-! ## The way up -/

/-- The class that is reached from a class in a number of steps to the parent. -/
def climb (classes : List Class) : Nat → Option Class → Option Class
  | 0, c => c
  | k + 1, c => climb classes k (c.bind fun c => c.parent.bind (classOf? classes))

theorem climb_none (classes : List Class) (k : Nat) : climb classes k none = none := by
  induction k with
  | zero => rfl
  | succ k ih => exact ih

theorem chain_none (classes : List Class) (fuel : Nat) : chain classes fuel none = [] := by
  cases fuel <;> rfl

/-- There are only classes of the list on the way up. -/
theorem mem_of_mem_chain {classes : List Class} {fuel : Nat} {c : Option Class}
    (start : ∀ k ∈ c, k ∈ classes) {x : Class} (hx : x ∈ chain classes fuel c) : x ∈ classes := by
  induction fuel generalizing c with
  | zero => exact absurd hx List.not_mem_nil
  | succ fuel ih =>
    cases c with
    | none => exact absurd hx List.not_mem_nil
    | some k =>
      rcases List.mem_cons.mp hx with rfl | hx
      · exact start x rfl
      · refine ih (fun y hy => ?_) hx
        obtain ⟨p, -, found⟩ := Option.bind_eq_some_iff.mp hy
        exact (mem_of_classOf? found).1

theorem mem_of_mem_ancestors {r : Registry} {name : String} {x : Class}
    (hx : x ∈ r.ancestors name) : x ∈ r.classes :=
  mem_of_mem_chain (fun _ hk => (mem_of_classOf? hk).1) hx

/-- In a list of classes, every parent stands before its children, and the names are distinct. -/
structure Ordered (classes : List Class) : Prop where
  hash_nodup : (classes.map fun c => c.hash).Nodup
  name_nodup : (classes.map fun c => c.name).Nodup
  first {before after : List Class} {c : Class} (split : classes = before ++ c :: after)
    {p : TypeHash} (hp : c.parent = some p) : p ∈ before.map fun c => c.hash

namespace Ordered

variable {classes before after : List Class} {c k : Class} (h : Ordered classes)
  (split : classes = before ++ c :: after)
include h split

/-- The parent stands before the class. -/
theorem parent_mem (hk : c.parent.bind (classOf? classes) = some k) : k ∈ before := by
  obtain ⟨p, hp, hfound⟩ := Option.bind_eq_some_iff.mp hk
  obtain ⟨x, hx, hhash⟩ := List.mem_map.mp (h.first split hp)
  have found : classOf? classes p = some x := by
    rw [classOf?_eq_some h.hash_nodup, split]
    exact ⟨List.mem_append_left _ hx, hhash⟩
  rw [hfound] at found
  exact Option.some.inj found ▸ hx

/-- What stands before the parent stands before the class, too. -/
theorem parent_split (hk : c.parent.bind (classOf? classes) = some k) :
    ∃ s t, before = s ++ k :: t ∧ classes = s ++ k :: (t ++ c :: after) := by
  obtain ⟨s, t, rfl⟩ := List.append_of_mem (h.parent_mem split hk)
  refine ⟨s, t, rfl, ?_⟩
  rw [split, List.append_assoc, List.cons_append]

/-- On the way up there are only classes that stand before. -/
theorem mem_of_mem_chain {fuel : Nat} {x : Class}
    (hx : x ∈ chain classes fuel (c.parent.bind (classOf? classes))) : x ∈ before := by
  induction fuel generalizing before c after with
  | zero => exact absurd hx List.not_mem_nil
  | succ fuel ih =>
    cases hk : c.parent.bind (classOf? classes) with
    | none =>
      rw [hk] at hx
      exact absurd hx List.not_mem_nil
    | some k =>
      rw [hk] at hx
      obtain ⟨s, t, rfl, split'⟩ := h.parent_split split hk
      rcases List.mem_cons.mp hx with rfl | hx
      · exact List.mem_append_right _ List.mem_cons_self
      · exact List.mem_append_left _ (ih split' hx)

/-- The way up passes no name twice. -/
theorem nodup_chain (fuel : Nat) :
    ((chain classes fuel (some c)).map fun c => c.name).Nodup := by
  -- on the fuel: what is above a class stands before it, where nothing has its name
  induction fuel generalizing before c after with
  | zero => exact List.nodup_nil
  | succ fuel ih =>
    rw [chain, List.map_cons, List.nodup_cons]
    constructor
    · intro hmem
      obtain ⟨x, hx, hname⟩ := List.mem_map.mp hmem
      have hx := h.mem_of_mem_chain split hx
      have := h.name_nodup
      rw [split, List.map_append, List.map_cons] at this
      exact (List.nodup_append.mp this).2.2 x.name (List.mem_map_of_mem hx) c.name
        List.mem_cons_self hname
    · cases hk : c.parent.bind (classOf? classes) with
      | none =>
        rw [chain_none]
        exact List.nodup_nil
      | some k =>
        obtain ⟨s, t, -, split'⟩ := h.parent_split split hk
        exact ih split'

/-- A way up that may be longer than there are classes before is the whole way. -/
theorem getElem?_chain {fuel : Nat} (enough : before.length < fuel) (n : Nat) :
    (chain classes fuel (some c))[n]? = climb classes n (some c) := by
  induction fuel generalizing before c after n with
  | zero => exact absurd enough (Nat.not_lt_zero _)
  | succ fuel ih =>
    cases n with
    | zero => rfl
    | succ n =>
      show (chain classes fuel (c.parent.bind (classOf? classes)))[n]? =
        climb classes n (c.parent.bind (classOf? classes))
      cases hk : c.parent.bind (classOf? classes) with
      | none => rw [chain_none, climb_none, List.getElem?_nil]
      | some k =>
        -- fewer classes stand before the parent, and one step of the bound is gone
        obtain ⟨s, t, rfl, split'⟩ := h.parent_split split hk
        rw [List.length_append, List.length_cons] at enough
        exact ih split' (by omega) n

/-- Ways up that may be longer than there are classes before are the same. -/
theorem chain_eq {fuel fuel' : Nat} (enough : before.length < fuel)
    (enough' : before.length < fuel') :
    chain classes fuel (some c) = chain classes fuel' (some c) :=
  List.ext_getElem? fun n => by
    rw [h.getElem?_chain split enough, h.getElem?_chain split enough']

end Ordered

/-- The way up from a name ends. Of any length, it is what the registry answers, and it passes no
class twice. -/
theorem ancestors_spec {r : Registry} (h : Ordered r.classes) (name : String) :
    (∃ n, climb r.classes n (r.class? name) = none) ∧
      (∀ n, (r.ancestors name)[n]? = climb r.classes n (r.class? name)) ∧
        ((r.ancestors name).map fun c => c.name).Nodup := by
  -- the chain has ended where the answer has no more elements
  suffices passed : (∀ n, (r.ancestors name)[n]? = climb r.classes n (r.class? name)) ∧
      ((r.ancestors name).map fun c => c.name).Nodup by
    refine ⟨⟨(r.ancestors name).length, ?_⟩, passed⟩
    rw [← passed.1, List.getElem?_length]
  unfold ancestors
  cases hc : r.class? name with
  | none =>
    rw [chain_none]
    exact ⟨fun n => by rw [climb_none, List.getElem?_nil], List.nodup_nil⟩
  | some c =>
    obtain ⟨before, after, split⟩ := List.append_of_mem (mem_of_classOf? hc).1
    refine ⟨h.getElem?_chain split ?_, h.nodup_chain split _⟩
    rw [split, List.length_append, List.length_cons]
    omega

/-! ## The classes of a registry -/

variable {d : Document} {r : Registry}

/-- The classes of a registry are the declared ones in order. -/
theorem classes_of_ofApi (built : ofApi d = .ok r) :
    ∃ classes, d.classes.map Class.ofApi = classes.map .ok ∧
      (classes.map fun c => c.hash).Nodup ∧ (hierarchy classes).Wellformed ∧
        parentsFirst classes = .ok r.classes := by
  obtain ⟨builtins, -, h⟩ := bind_eq_ok.mp built
  obtain ⟨classes, collected, h⟩ := bind_eq_ok.mp h
  obtain ⟨_, checked, h⟩ := bind_eq_ok.mp h
  obtain ⟨ordered, hordered, h⟩ := bind_eq_ok.mp h
  cases h
  obtain ⟨made, nodup⟩ := foldlM_addClass.mp collected
  have parents := succeeds_forM.mp ⟨_, checked⟩
  refine ⟨classes, made, nodup, wellformed_hierarchy made nodup fun c hc p hp => ?_, hordered⟩
  rw [← map_hash_made made]
  exact succeeds_checkParent.mp (parents c hc) p hp

theorem ordered_classes (built : ofApi d = .ok r) : Ordered r.classes := by
  obtain ⟨classes, made, hashes, hf, h⟩ := classes_of_ofApi built
  obtain ⟨perm, nodup, first⟩ := parentsFirst_spec hf h
  refine ⟨nodup, ?_, fun split p hp => first _ _ _ split p hp⟩
  rw [map_hash_made made] at hashes
  rw [(perm.map fun c => c.name).nodup_iff, map_name_made made]
  exact nodup_of_hash hashes

/-- Every class of a registry is the binding of a declared one. -/
theorem mem_classes_iff (built : ofApi d = .ok r) {x : Class} :
    x ∈ r.classes ↔ ∃ e ∈ d.classes, Class.ofApi e = .ok x := by
  obtain ⟨classes, made, -, hf, h⟩ := classes_of_ofApi built
  rw [(parentsFirst_spec hf h).1.mem_iff]
  exact mem_made made

/-- Every declared class has its binding. -/
theorem exists_class (built : ofApi d = .ok r) {e : Api.ClassEntry} (he : e ∈ d.classes) :
    ∃ x ∈ r.classes, Class.ofApi e = .ok x := by
  obtain ⟨classes, made, -, -, -⟩ := classes_of_ofApi built
  obtain ⟨x, hx⟩ := exists_made.mp ⟨classes, made⟩ e he
  exact ⟨x, (mem_classes_iff built).mpr ⟨e, he, hx⟩, hx⟩

/-- A class is found by its hash. -/
theorem classOf?_hash (built : ofApi d = .ok r) {x : Class} (mem : x ∈ r.classes) :
    classOf? r.classes x.hash = some x :=
  (classOf?_eq_some (ordered_classes built).hash_nodup).mpr ⟨mem, rfl⟩

/-- The hash of a class belongs to its name. -/
theorem hash_name (built : ofApi d = .ok r) {x : Class} (mem : x ∈ r.classes) :
    x.hash = TypeHash.ofName x.name := by
  obtain ⟨e, -, made⟩ := (mem_classes_iff built).mp mem
  rw [(Class.of_ofApi made).1, (Class.of_ofApi made).2.1]

/-- A class is found by its name. -/
theorem class?_name (built : ofApi d = .ok r) {x : Class} (mem : x ∈ r.classes) :
    r.class? x.name = some x := by
  unfold class?
  rw [← hash_name built mem, classOf?_hash built mem]

/-- The ancestors of a class start with itself. -/
theorem ancestors_head (built : ofApi d = .ok r) {x : Class} (mem : x ∈ r.classes) :
    ∃ above, r.ancestors x.name = x :: above := by
  obtain ⟨n, count⟩ := Nat.exists_eq_add_one.mpr (List.length_pos_of_mem mem)
  rw [ancestors, class?_name built mem, count]
  exact ⟨_, rfl⟩

/-- The parent of a class is the class of the name that the entry inherits from. -/
theorem parent_name (apart : HashesApart d.classNames) (built : ofApi d = .ok r)
    {e : Api.ClassEntry} (he : e ∈ d.classes) {x : Class} (made : Class.ofApi e = .ok x) :
    (x.parent.bind (classOf? r.classes)).map (fun c => c.name) = e.inherits := by
  have mem := (mem_classes_iff built).mpr ⟨e, he, made⟩
  have parent := (Class.of_ofApi made).2.2
  cases inherits : e.inherits with
  | none =>
    rw [parent, inherits]
    rfl
  | some p =>
    rw [inherits, Option.map_some] at parent
    obtain ⟨before, after, split⟩ := List.append_of_mem mem
    obtain ⟨y, hy, hash⟩ := List.mem_map.mp ((ordered_classes built).first split parent)
    have hy : y ∈ r.classes := split ▸ List.mem_append_left _ hy
    obtain ⟨e', he', made'⟩ := (mem_classes_iff built).mp hy
    -- the parent has been found by its hash, which no other class name has
    have name : y.name = p := by
      rw [(Class.of_ofApi made').1]
      refine apart _ (Document.name_mem_classNames he') _
        (Document.parent_mem_classNames he inherits) (TypeHash.ofName_inj.mp ?_)
      rw [← hash, (Class.of_ofApi made').2.1]
    rw [parent, Option.bind_some, ← hash, classOf?_hash built hy, Option.map_some, name]

/-- The classes of a registry are the bindings of the declared classes, each once, and the parent of
each stands before it. From every name, the way up ends and passes no class twice. -/
theorem classes_parents_first (apart : HashesApart d.classNames) (built : ofApi d = .ok r) :
    (d.classes.map Class.ofApi).Perm (r.classes.map .ok) ∧
      (r.classes.map fun c => c.name).Nodup ∧
      (∀ before c after, r.classes = before ++ c :: after →
        ∀ e ∈ d.classes, e.name = c.name → ∀ p ∈ e.inherits, p ∈ before.map fun c => c.name) ∧
      ∀ name,
        (∃ n, climb r.classes n (r.class? name) = none) ∧
          (∀ n, (r.ancestors name)[n]? = climb r.classes n (r.class? name)) ∧
            ((r.ancestors name).map fun c => c.name).Nodup := by
  obtain ⟨classes, made, nodup, hf, h⟩ := classes_of_ofApi built
  have ordered := ordered_classes built
  have perm := (parentsFirst_spec hf h).1
  have declared : ∀ x ∈ r.classes, ∃ e ∈ d.classes, Class.ofApi e = .ok x := fun x hx =>
    (mem_made made).mp (perm.mem_iff.mp hx)
  refine ⟨?_, ordered.name_nodup, ?_, ancestors_spec ordered⟩
  · rw [made]
    exact (perm.map _).symm
  · intro before c after split e he hname p hp
    obtain ⟨e', he', hok⟩ := declared c (split ▸ List.mem_append_right _ List.mem_cons_self)
    obtain ⟨hname', -, hparent⟩ := Class.of_ofApi hok
    -- the entry of the class is the one of its name
    rw [map_hash_made made] at nodup
    have same : e' = e :=
      List.inj_on_of_nodup_map (nodup_of_hash nodup) he' he (hname'.symm.trans hname.symm)
    subst same
    rw [Option.mem_def.mp hp] at hparent
    obtain ⟨k, hk, hhash⟩ := List.mem_map.mp (ordered.first split hparent)
    obtain ⟨e'', he'', hok''⟩ := declared k (split ▸ List.mem_append_left _ hk)
    obtain ⟨hkname, hkhash, -⟩ := Class.of_ofApi hok''
    -- and the class of the parent's hash is the one of the parent's name
    have parent : e''.name = p := by
      refine apart e''.name (Document.name_mem_classNames he'') p
        (Document.parent_mem_classNames he hp) ?_
      exact TypeHash.ofName_inj.mp (hkhash.symm.trans hhash)
    exact List.mem_map.mpr ⟨k, hk, hkname.trans parent⟩

theorem classes_parents_first_planar :
    HashesApart planar.classNames ∧ ∃ r, ofApi planar = .ok r ∧
      (r.classes.map fun c => c.name).Nodup ∧
        ((r.ancestors "Node2D").map fun c => c.name).Nodup := by
  have apart : HashesApart planar.classNames := by decide +kernel
  obtain ⟨r, built⟩ : Succeeds (ofApi planar) := succeeds_of_isOk (by decide +kernel)
  obtain ⟨-, nodup, -, ancestors⟩ := classes_parents_first apart built
  exact ⟨apart, r, built, nodup, (ancestors "Node2D").2.2⟩

end ScriptBind.Registry
