import ScriptBind.Proofs.Registry.Consistency

/-!
# The class that a refusal blames

A description whose classes inherit in a circle has no registry, and the refusal names one class.
Which one is decided late: all other checks have passed by then, so the classes have been resolved
and form a forest of hashes, and the walk over that forest has met every one of them. Circles may
have trees of further classes hanging off them, and the walk may enter anywhere; the class that is
named is nevertheless one of the circle and never one that only derives from it.

`FailsOnly` says which errors a computation can end in. No check before the last one speaks of a
circle, so a refusal that does comes from the order of the classes, where the named hash is on a
circle of hashes.

Main results:

* `parentsFirst_of_refusal` — a refusal that names a circle comes from the order of the classes.
* `blamed_is_circular` — the class that is named is declared and among its own ancestors.
-/

namespace ScriptBind.Registry

open Api (Document)
open Relation (TransGen)

/-! ## Which errors there can be -/

/-- If the computation ends in an error, it is one of these. -/
def FailsOnly {ε α : Type} (P : ε → Prop) (x : Except ε α) : Prop := ∀ e, x = .error e → P e

section Except

variable {ε α β : Type} {P : ε → Prop}

/-- A success does not fail. -/
theorem failsOnly_ok (a : α) : FailsOnly P (.ok a : Except ε α) := fun _ h => by cases h

/-- An error of the kind is one of the kind. -/
theorem failsOnly_error {e : ε} (h : P e) : FailsOnly P (.error e : Except ε α) := fun _ h' => by
  cases h'
  exact h

/-- An error does not depend on the result that it keeps from being made. -/
theorem error_of_map {x : Except ε α} {e : ε} (h : (x.map fun _ => ()) = .error e) :
    x = .error e := by
  cases x with
  | error _ =>
    cases h
    rfl
  | ok _ => cases h

/-- One check after another fails as either of them does. -/
theorem failsOnly_bind {x : Except ε α} {g : α → Except ε β} (hx : FailsOnly P x)
    (hg : ∀ a, FailsOnly P (g a)) : FailsOnly P (x >>= g) := by
  cases x with
  | error e =>
    intro e' h
    cases h
    exact hx e rfl
  | ok a => exact hg a

/-- An error that the first part cannot end in comes from the second. -/
theorem bind_eq_error {x : Except ε α} {g : α → Except ε β} {e : ε}
    (hx : FailsOnly P x) (he : ¬ P e) (h : (x >>= g) = .error e) :
    ∃ a, x = .ok a ∧ g a = .error e := by
  cases x with
  | error _ =>
    cases h
    exact absurd (hx e rfl) he
  | ok a => exact ⟨a, rfl, h⟩

/-- A list fails as its entries do. -/
theorem failsOnly_mapM {g : α → Except ε β} (h : ∀ a, FailsOnly P (g a)) (as : List α) :
    FailsOnly P (as.mapM g) := by
  induction as with
  | nil => exact failsOnly_ok []
  | cons a rest ih =>
    rw [List.mapM_cons]
    exact failsOnly_bind (h a) fun _ => failsOnly_bind ih fun _ => failsOnly_ok _

/-- What is missing does not fail. -/
theorem failsOnly_optionMapM {g : α → Except ε β} (h : ∀ a, FailsOnly P (g a)) (o : Option α) :
    FailsOnly P (o.mapM g) := by
  cases o with
  | none => exact failsOnly_ok none
  | some a => exact failsOnly_bind (h a) fun _ => failsOnly_ok _

/-- A fold fails as its steps do. -/
theorem failsOnly_foldlM {g : β → α → Except ε β} (h : ∀ b a, FailsOnly P (g b a)) (as : List α)
    (b : β) : FailsOnly P (as.foldlM g b) := by
  induction as generalizing b with
  | nil => exact failsOnly_ok b
  | cons a rest ih =>
    rw [List.foldlM_cons]
    exact failsOnly_bind (h b a) ih

/-- A loop fails as its steps do. -/
theorem failsOnly_forM {g : α → Except ε PUnit} (h : ∀ a, FailsOnly P (g a)) (as : List α) :
    FailsOnly P (as.forM g) := by
  induction as with
  | nil => exact failsOnly_ok _
  | cons a rest ih => exact failsOnly_bind (h a) fun _ => ih

end Except

/-- The error blames no circle of classes. -/
def BlamesNoCircle (e : ApiError) : Prop := ∀ name, e ≠ .inheritanceCycle name

section Entries

/-- An unknown type is no circle. -/
theorem failsOnly_resolve (item spelling : String) :
    FailsOnly BlamesNoCircle (resolve item spelling) := by
  unfold resolve
  dsimp only
  split
  · exact failsOnly_ok _
  · split
    · exact failsOnly_ok _
    · exact failsOnly_error nofun

/-- A method is refused for its types. -/
theorem failsOnly_method (owner name : String) (flags : Api.MethodFlags)
    (arguments : List Api.Argument) (result : Option String) :
    FailsOnly BlamesNoCircle (Method.ofApi owner name flags arguments result) :=
  failsOnly_bind (failsOnly_mapM (fun _ => failsOnly_resolve _ _) _) fun _ =>
    failsOnly_bind (failsOnly_optionMapM (failsOnly_resolve _) _) fun _ => failsOnly_ok _

/-- Methods are refused for their types or their names. -/
theorem failsOnly_methods {α : Type} {owner : String} {make : α → Except ApiError Method}
    (h : ∀ a, FailsOnly BlamesNoCircle (make a)) (known : Methods) (as : List α) :
    FailsOnly BlamesNoCircle
      (as.foldlM (fun known a => do Methods.add owner known (← make a)) known) := by
  refine failsOnly_foldlM (fun known a => failsOnly_bind (h a) fun m => ?_) as known
  unfold Methods.add
  split
  · exact failsOnly_error nofun
  · exact failsOnly_ok _

/-- A builtin type is refused for what it declares. -/
theorem failsOnly_builtin (b : Api.BuiltinType) : FailsOnly BlamesNoCircle (Builtin.ofApi b) := by
  have tag : FailsOnly BlamesNoCircle b.tag := by
    unfold Api.BuiltinType.tag
    split
    · exact failsOnly_ok _
    · exact failsOnly_error nofun
  have constant : ∀ known (c : Api.Constant),
      FailsOnly BlamesNoCircle (Builtin.addConstant b.name known c) := by
    intro known c
    unfold Builtin.addConstant
    dsimp only
    split
    · exact failsOnly_error nofun
    · exact failsOnly_ok _
  -- whichever step fails first, it does not know of parents
  refine failsOnly_bind tag fun t => ?_
  dsimp only
  split
  · exact failsOnly_error nofun
  · refine failsOnly_bind (failsOnly_foldlM constant _ _) fun _ => ?_
    refine failsOnly_bind (failsOnly_methods (fun _ => failsOnly_method _ _ _ _ _) _ _) fun _ => ?_
    refine failsOnly_bind (failsOnly_mapM (fun _ => ?_) _) fun _ => ?_
    · exact failsOnly_bind (failsOnly_resolve _ _) fun _ => failsOnly_ok _
    refine failsOnly_bind (failsOnly_mapM (fun _ => ?_) _) fun _ => failsOnly_ok _
    exact failsOnly_bind (failsOnly_mapM (fun _ => failsOnly_resolve _ _) _) fun _ => failsOnly_ok _

/-- A class is refused for what it declares. -/
theorem failsOnly_class (c : Api.ClassEntry) : FailsOnly BlamesNoCircle (Class.ofApi c) :=
  failsOnly_bind (failsOnly_methods (fun _ => failsOnly_method _ _ _ _ _) _ _) fun _ =>
    failsOnly_ok _

/-- Two builtin types of one name are no circle. -/
theorem failsOnly_addBuiltin (known : List Builtin) (b : Api.BuiltinType) :
    FailsOnly BlamesNoCircle (addBuiltin known b) := by
  refine failsOnly_bind (failsOnly_builtin b) fun binding => ?_
  dsimp only
  split
  · exact failsOnly_error nofun
  · exact failsOnly_ok _

/-- Two classes of one name are no circle. -/
theorem failsOnly_addClass (known : List Class) (c : Api.ClassEntry) :
    FailsOnly BlamesNoCircle (addClass known c) := by
  refine failsOnly_bind (failsOnly_class c) fun binding => ?_
  dsimp only
  split
  · exact failsOnly_error nofun
  · exact failsOnly_ok _

/-- An unknown parent is no circle. -/
theorem failsOnly_checkParent (classes : List Class) (c : Api.ClassEntry) :
    FailsOnly BlamesNoCircle (checkParent classes c) := by
  unfold checkParent
  split
  · exact failsOnly_ok _
  · split
    · exact failsOnly_ok _
    · exact failsOnly_error nofun

end Entries

/-! ## The class that is named -/

/-- A refusal that names a circle comes from the order of the classes, once all are resolved and
their parents are known. -/
theorem parentsFirst_of_refusal {d : Document} {name : String}
    (refused : ofApi d = .error (.inheritanceCycle name)) :
    ∃ classes, d.classes.foldlM addClass [] = .ok classes ∧
      (∀ c ∈ d.classes, Succeeds (checkParent classes c)) ∧
      parentsFirst classes = .error (.inheritanceCycle name) := by
  have circle : ¬ BlamesNoCircle (.inheritanceCycle name) := fun h => h name rfl
  -- no step before the ordering can have failed with a circle, so all of them have succeeded
  obtain ⟨_, -, rest⟩ := bind_eq_error (failsOnly_foldlM failsOnly_addBuiltin _ _) circle refused
  obtain ⟨classes, declared, rest⟩ :=
    bind_eq_error (failsOnly_foldlM failsOnly_addClass _ _) circle rest
  obtain ⟨_, checked, rest⟩ :=
    bind_eq_error (failsOnly_forM (failsOnly_checkParent classes) _) circle rest
  refine ⟨classes, declared, succeeds_forM.mp ⟨_, checked⟩, ?_⟩
  cases placed : parentsFirst classes with
  | ok l =>
    rw [placed] at rest
    cases rest
  | error e =>
    rw [placed] at rest
    cases rest
    rfl

/-- Without an order, the class that is named is that of a hash among its own ancestors. -/
theorem circular_of_parentsFirst {classes : List Class} {name : String}
    (hf : (hierarchy classes).Wellformed)
    (refused : parentsFirst classes = .error (.inheritanceCycle name)) :
    ∃ c ∈ classes, c.name = name ∧ (hierarchy classes).Circular c.hash := by
  unfold parentsFirst at refused
  split at refused
  · cases refused
  next hash noOrder =>
    cases refused
    obtain ⟨known, circular⟩ := Forest.circular_of_order hf noOrder
    obtain ⟨c, found⟩ := Option.isSome_iff_exists.mp (isSome_classOf?_iff.mpr known)
    obtain ⟨hc, rfl⟩ := mem_of_classOf? found
    exact ⟨c, hc, by rw [found]; rfl, circular⟩

section Declared

variable {d : Document} {classes : List Class}
  (declared : d.classes.foldlM addClass [] = .ok classes)
include declared

/-- Once the parents are checked, the classes form a forest. -/
theorem wellformed_checked (checked : ∀ c ∈ d.classes, Succeeds (checkParent classes c)) :
    (hierarchy classes).Wellformed := by
  obtain ⟨made, nodup⟩ := foldlM_addClass.mp declared
  refine wellformed_hierarchy made nodup fun c hc p hp => ?_
  rw [← map_hash_made made]
  exact succeeds_checkParent.mp (checked c hc) p hp

/-- A class whose hash is among its own ancestors is so by name. -/
theorem inherits_self (apart : HashesApart d.classNames) {c : Class} (hc : c ∈ classes)
    (circular : (hierarchy classes).Circular c.hash) :
    c.name ∈ d.classes.map (fun c => c.name) ∧ TransGen d.Inherits c.name c.name := by
  obtain ⟨made, nodup⟩ := foldlM_addClass.mp declared
  obtain ⟨entry, hentry, hmade⟩ := (mem_made made).mp hc
  obtain ⟨hname, hhash, -⟩ := Class.of_ofApi hmade
  obtain ⟨first, hfirst, hfirstHash, last, hlast, hlastHash, path⟩ :=
    inherits_of_parent made nodup apart circular
  -- both ends of the path have the hash of the class, hence its name
  have mem := Document.name_mem_classNames hentry
  have begins : first.name = c.name := by
    rw [hname]
    refine apart _ (Document.name_mem_classNames hfirst) _ mem ?_
    exact TypeHash.ofName_inj.mp (hfirstHash.trans hhash)
  have ends : last = c.name := by
    rw [hname]
    exact apart _ hlast _ mem (TypeHash.ofName_inj.mp (hlastHash.trans hhash))
  rw [begins, ends] at path
  exact ⟨hname ▸ List.mem_map_of_mem hentry, path⟩

end Declared

/-- As long as the digests of the class names do not collide, classes that inherit in a circle are
refused, and a class that is named in a refusal as being on a circle is declared and among its own
ancestors. -/
theorem blamed_is_circular {d : Document} (apart : HashesApart d.classNames) :
    (∀ name, ofApi d = .error (.inheritanceCycle name) →
      name ∈ d.classes.map (fun c => c.name) ∧ TransGen d.Inherits name name) ∧
    ((∃ cls, TransGen d.Inherits cls cls) → ∃ e, ofApi d = .error e) := by
  constructor
  · intro name refused
    obtain ⟨classes, declared, checked, placed⟩ := parentsFirst_of_refusal refused
    obtain ⟨c, hc, rfl, circular⟩ :=
      circular_of_parentsFirst (wellformed_checked declared checked) placed
    exact inherits_self declared apart hc circular
  -- what is accepted has been put in order, which is impossible with a circle
  · rintro ⟨cls, circle⟩
    cases built : ofApi d with
    | error e => exact ⟨e, rfl⟩
    | ok r =>
      obtain ⟨-, classes, declared, checked, placed⟩ := succeeds_ofApi.mp ⟨r, built⟩
      obtain ⟨made, nodup⟩ := foldlM_addClass.mp declared
      have acyclic := (Forest.order_isOk_iff (wellformed_checked declared checked)).mp
        (succeeds_parentsFirst.mp placed)
      exact absurd circle ((acyclic_hierarchy_iff made nodup apart).mp acyclic cls)

/-- A class that derives from two classes that inherit from each other, listed before them. -/
def hanging : Document where
  header := .empty
  builtins := []
  classes := [
    ⟨"A", some "B", true, false, "core", [], [], []⟩,
    ⟨"B", some "C", true, false, "core", [], [], []⟩,
    ⟨"C", some "B", true, false, "core", [], [], []⟩]
  enums := []

theorem blamed_is_circular_hanging :
    HashesApart hanging.classNames ∧ ofApi hanging = .error (.inheritanceCycle "C") ∧
      "C" ∈ hanging.classes.map (fun c => c.name) ∧ TransGen hanging.Inherits "C" "C" ∧
      ∃ e, ofApi hanging = .error e := by
  have apart : HashesApart hanging.classNames := by decide +kernel
  have refused : ofApi hanging = .error (.inheritanceCycle "C") := error_of_map (by decide +kernel)
  obtain ⟨accurate, refuses⟩ := blamed_is_circular apart
  obtain ⟨declared, circle⟩ := accurate "C" refused
  exact ⟨apart, refused, declared, circle, refuses ⟨"C", circle⟩⟩

end ScriptBind.Registry
