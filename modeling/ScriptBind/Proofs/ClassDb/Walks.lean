import ScriptBind.Proofs.ClassDb.Mirror
import ScriptBind.Proofs.ClassDb.Objects
import Mathlib.Data.Finset.Card
import Mathlib.Data.Finset.Range
import Mathlib.Tactic.WLOG

/-!
# Walks up the hierarchy

To look for an ancestor, to collect what an instance starts with and to look for a method, a
database goes up from parent to parent. Classes can be registered so that this leads in a circle,
and then a walk that does not come to what it looks for goes on forever. `Ends` speaks of the walks
as they are meant, without a bound: a loop whose rounds are `nameAbove?` or `defAbove?`. The
database bounds them by the number of its classes, and it answers `endlessHierarchy` in place of
those, and only those, that would never end.

Main results:

* `ends_iff_rounds`, `ends_iff_no_circle` — a loop through finitely many states ends within as many
  rounds as there are states, or comes to a circle.
* `ends_nameAbove_iff` — a walk ends if it comes to no circle or to what it looks for.
* `acyclic_register_iff` — which registrations close a circle.
* `walks_end_iff_acyclic` — all walks end exactly where no class is among its own ancestors.
-/

namespace ScriptBind

open Relation (TransGen ReflTransGen)

/-! ## Loops -/

/-- Where a loop is after a number of rounds, or none when it was over before. -/
def rounds {σ : Type} (next : σ → Option σ) : Nat → σ → Option σ
  | 0, s => some s
  | n + 1, s => (next s).bind (rounds next n)

/-- A loop that is over after some number of rounds. -/
def Ends {σ : Type} (next : σ → Option σ) (s : σ) : Prop := ∃ n, rounds next n s = none

section Loop

variable {σ : Type} {next : σ → Option σ} {s t : σ}

/-- Rounds are gone one after the other. -/
theorem rounds_add (m n : Nat) :
    rounds next (m + n) s = (rounds next m s).bind (rounds next n) := by
  induction m generalizing s with
  | zero => rw [Nat.zero_add, rounds, Option.bind_some]
  | succ m ih =>
    rw [Nat.succ_add, rounds, rounds]
    cases next s with
    | none => rfl
    | some t => exact ih

/-- A walk that has stopped has stopped for good. -/
theorem rounds_mono {m n : Nat} (stopped : rounds next m s = none) (le : m ≤ n) :
    rounds next n s = none := by
  obtain ⟨k, rfl⟩ := Nat.exists_eq_add_of_le le
  rw [rounds_add, stopped, Option.bind_none]

/-- A walk ends where there is no next. -/
theorem ends_of_stop (stop : next s = none) : Ends next s := ⟨1, by rw [rounds, stop]; rfl⟩

/-- A walk ends if it ends one step later. -/
theorem ends_of_next (step : next s = some t) (ends : Ends next t) : Ends next s := by
  obtain ⟨n, stopped⟩ := ends
  exact ⟨n + 1, by rw [rounds, step]; exact stopped⟩

/-- What a loop comes to after some rounds is reached step by step. -/
theorem reaches_of_rounds {n : Nat} (there : rounds next n s = some t) :
    ReflTransGen (fun a b => next a = some b) s t := by
  induction n generalizing s with
  | zero =>
    cases there
    exact .refl
  | succ n ih =>
    obtain ⟨a, step, there⟩ := Option.bind_eq_some_iff.mp there
    exact (ih there).head step

/-- A loop that can come to a circle is never over. -/
theorem not_ends_of_circle {c : σ} (reached : ReflTransGen (fun a b => next a = some b) s c)
    (circle : TransGen (fun a b => next a = some b) c c) : ¬ Ends next s := by
  rintro ⟨n, stopped⟩
  induction n generalizing s with
  | zero => cases stopped
  | succ n ih =>
    -- the next state leads to the circle as well
    obtain ⟨t, step, onward⟩ :
        ∃ t, next s = some t ∧ ReflTransGen (fun a b => next a = some b) t c := by
      rcases reached.cases_head with rfl | found
      · exact TransGen.head'_iff.mp circle
      · exact found
    refine ih onward ?_
    rwa [rounds, step] at stopped

section Finite

variable {states : List σ} (start : s ∈ states)
  (closed : ∀ a ∈ states, ∀ b ∈ next a, b ∈ states)
include start closed

/-- A walk stays within the states that are closed under steps. -/
theorem mem_of_rounds {n : Nat} (there : rounds next n s = some t) : t ∈ states := by
  induction n generalizing s with
  | zero =>
    cases there
    exact start
  | succ n ih =>
    obtain ⟨a, step, there⟩ := Option.bind_eq_some_iff.mp there
    exact ih (closed s start a step) there

/-- After more rounds than there are states, some state has been met twice. -/
theorem exists_circle (more : rounds next states.length s ≠ none) :
    ∃ c, ReflTransGen (fun a b => next a = some b) s c ∧
      TransGen (fun a b => next a = some b) c c := by
  classical
  have runs : ∀ i ≤ states.length, ∃ t, rounds next i s = some t := fun i le =>
    Option.ne_none_iff_exists'.mp fun stopped => more (rounds_mono stopped le)
  have few : states.toFinset.card < (Finset.range (states.length + 1)).card := by
    rw [Finset.card_range]
    exact Nat.lt_succ_of_le states.toFinset_card_le
  have stay : ∀ i ∈ Finset.range (states.length + 1),
      (rounds next i s).getD s ∈ states.toFinset := by
    intro i hi
    obtain ⟨t, there⟩ := runs i (Nat.le_of_lt_succ (Finset.mem_range.mp hi))
    rw [there, Option.getD_some, List.mem_toFinset]
    exact mem_of_rounds start closed there
  obtain ⟨i, hi, j, hj, ne, same⟩ := Finset.exists_ne_map_eq_of_card_lt_of_maps_to few stay
  -- the earlier of the two rounds is at the state that the later one comes back to
  wlog lt : i < j generalizing i j
  · exact this j hj i hi ne.symm same.symm (Nat.lt_of_le_of_ne (Nat.le_of_not_lt lt) ne.symm)
  obtain ⟨c, first⟩ := runs i (Nat.le_of_lt_succ (Finset.mem_range.mp hi))
  obtain ⟨c', second⟩ := runs j (Nat.le_of_lt_succ (Finset.mem_range.mp hj))
  rw [first, second, Option.getD_some, Option.getD_some] at same
  subst same
  obtain ⟨k, rfl⟩ := Nat.exists_eq_add_of_lt lt
  rw [Nat.add_assoc, rounds_add, first, Option.bind_some] at second
  obtain ⟨t, step, back⟩ := Option.bind_eq_some_iff.mp second
  exact ⟨c, reaches_of_rounds first, TransGen.head' step (reaches_of_rounds back)⟩

/-- As many rounds as there are states tell whether a loop ends. -/
theorem ends_iff_rounds {fuel : Nat} (enough : states.length ≤ fuel) :
    Ends next s ↔ rounds next fuel s = none := by
  refine ⟨fun ends => ?_, fun stopped => ⟨fuel, stopped⟩⟩
  by_contra more
  have more : rounds next states.length s ≠ none := fun stopped =>
    more (rounds_mono stopped enough)
  obtain ⟨c, reached, circle⟩ := exists_circle start closed more
  exact not_ends_of_circle reached circle ends

/-- A walk ends exactly if it does not come to a circle. -/
theorem ends_iff_no_circle :
    Ends next s ↔ ¬ ∃ c, ReflTransGen (fun a b => next a = some b) s c ∧
      TransGen (fun a b => next a = some b) c c := by
  constructor
  · rintro ends ⟨c, reached, circle⟩
    exact not_ends_of_circle reached circle ends
  · intro none_
    by_contra more
    refine none_ (exists_circle start closed fun stopped => more ⟨_, stopped⟩)

end Finite

end Loop

namespace ClassDb

variable {db : ClassDb} {cls ancestor : String} {d : ClassDef}

/-! ## The walks of a database -/

/-- One round of a walk from name to name, which stops at some of them. -/
def nameAbove? (db : ClassDb) (stop : String → Bool) (name : String) : Option String :=
  if stop name then none else (db.class? name).bind fun d => d.parent

/-- One round of a walk from definition to definition, which stops at some of them. -/
def defAbove? (db : ClassDb) (stop : ClassDef → Bool) (d : ClassDef) : Option ClassDef :=
  if stop d then none else db.above? d

/-- The class or one of its ancestors is among its own ancestors. -/
def Endless (db : ClassDb) (cls : String) : Prop :=
  ∃ c, ReflTransGen db.Derives cls c ∧ TransGen db.Derives c c

/-- There is no circle exactly if no class has ancestors without end. -/
theorem acyclic_iff : db.Acyclic ↔ ∀ cls, ¬ db.Endless cls :=
  ⟨fun acyclic _ ⟨c, _, circle⟩ => acyclic c circle, fun h cls circle => h cls ⟨cls, .refl, circle⟩⟩

section Names

variable {stop : String → Bool}

/-- One step up leads to the parent, unless the walk is to stop. -/
theorem nameAbove?_eq_some {name parent : String} :
    db.nameAbove? stop name = some parent ↔ stop name = false ∧ db.Derives name parent := by
  unfold nameAbove? Derives
  cases stop name with
  | true => exact ⟨fun h => (by cases h), fun h => (by cases h.1)⟩
  | false =>
    rw [if_neg Bool.false_ne_true, Option.bind_eq_some_iff]
    exact ⟨fun h => ⟨rfl, h⟩, And.right⟩

/-- The names that a walk can come to. -/
theorem nameAbove?_closed (db : ClassDb) (stop : String → Bool) (cls : String) :
    ∀ a ∈ cls :: db.classes.filterMap (fun c => c.2.parent), ∀ b ∈ db.nameAbove? stop a,
      b ∈ cls :: db.classes.filterMap (fun c => c.2.parent) := by
  intro a _ b step
  obtain ⟨-, d, found, named⟩ := nameAbove?_eq_some.mp step
  refine List.mem_cons_of_mem _ (List.mem_filterMap.mpr ⟨(a, d), Keyed.mem_of_get? found, ?_⟩)
  exact named

/-- A walk from name to name ends if it leads to no circle or to a name at which it stops. -/
theorem ends_nameAbove_iff :
    Ends (db.nameAbove? stop) cls ↔
      ¬ db.Endless cls ∨ ∃ a, ReflTransGen db.Derives cls a ∧ stop a = true := by
  have derives : ∀ a b, db.nameAbove? stop a = some b → db.Derives a b := fun a b step =>
    (nameAbove?_eq_some.mp step).2
  constructor
  · intro ends
    by_contra endless
    obtain ⟨⟨c, reached, circle⟩, on⟩ := not_or.mp endless |>.imp_left not_not.mp
    -- without a stop on the way, every step up is a round of the walk
    have step : ∀ a b, ReflTransGen db.Derives cls a → db.Derives a b →
        db.nameAbove? stop a = some b := fun a b reached up =>
      nameAbove?_eq_some.mpr ⟨Bool.eq_false_iff.mpr fun stops => on ⟨a, reached, stops⟩, up⟩
    have walked : ReflTransGen (fun a b => db.nameAbove? stop a = some b) cls c := by
      clear circle
      induction reached with
      | refl => exact .refl
      | tail before up ih => exact ih.tail (step _ _ before up)
    have round : ∀ x, TransGen db.Derives c x →
        TransGen (fun a b => db.nameAbove? stop a = some b) c x := by
      intro x path
      induction path with
      | single up => exact .single (step _ _ reached up)
      | tail before up ih => exact ih.tail (step _ _ (reached.trans before.to_reflTransGen) up)
    exact not_ends_of_circle walked (round c circle) ends
  · rintro (endless | ⟨a, reached, stops⟩)
    · refine (ends_iff_no_circle List.mem_cons_self (nameAbove?_closed db stop cls)).mpr ?_
      rintro ⟨c, reached, circle⟩
      exact endless ⟨c, ReflTransGen.mono derives _ _ reached, TransGen.mono derives _ _ circle⟩
    · induction reached using ReflTransGen.head_induction_on with
      | refl => exact ends_of_stop (by rw [nameAbove?, if_pos stops])
      | @head x y up _ ih =>
        by_cases here : stop x = true
        · exact ends_of_stop (by rw [nameAbove?, if_pos here])
        · have step : db.nameAbove? stop x = some y :=
            nameAbove?_eq_some.mpr ⟨Bool.eq_false_iff.mpr here, up⟩
          exact ends_of_next step ih

end Names

section Definitions

variable {stop : ClassDef → Bool}

/-- A walk from definition to definition is one from name to name. -/
theorem rounds_defAbove (found : db.class? cls = some d) (n : Nat) :
    rounds (db.defAbove? stop) n d =
      (rounds (db.nameAbove? fun name => (db.class? name).any stop) n cls).bind db.class? := by
  induction n generalizing cls d with
  | zero => exact found.symm
  | succ n ih =>
    rw [rounds, rounds, defAbove?, nameAbove?, found, Option.any_some, Option.bind_some]
    cases stop d with
    | true => rfl
    | false =>
      rw [if_neg Bool.false_ne_true, if_neg Bool.false_ne_true, above?]
      cases d.parent with
      | none => rfl
      | some p =>
        rw [Option.bind_some, Option.bind_some]
        cases above : db.class? p with
        | some k => exact ih above
        | none =>
          -- a name without definition ends the walk in the next round at the latest
          cases n with
          | zero => exact above.symm
          | succ n =>
            rw [rounds, nameAbove?, above]
            rfl

/-- A walk up ends exactly if the ancestors end or it comes to where it is to stop. -/
theorem ends_defAbove_iff (found : db.class? cls = some d) :
    Ends (db.defAbove? stop) d ↔
      ¬ db.Endless cls ∨
        ∃ a k, ReflTransGen db.Derives cls a ∧ db.class? a = some k ∧ stop k = true := by
  -- definitions are walked like their names, only that the last name ends the walk a round later
  have names : Ends (db.defAbove? stop) d ↔
      Ends (db.nameAbove? fun name => (db.class? name).any stop) cls := by
    constructor
    · rintro ⟨n, stopped⟩
      rw [rounds_defAbove found] at stopped
      cases there : rounds (db.nameAbove? fun name => (db.class? name).any stop) n cls with
      | none => exact ⟨n, there⟩
      | some p =>
        rw [there, Option.bind_some] at stopped
        refine ⟨n + 1, ?_⟩
        rw [rounds_add, there, Option.bind_some, rounds, nameAbove?, stopped]
        rfl
    · rintro ⟨n, stopped⟩
      exact ⟨n, by rw [rounds_defAbove found, stopped, Option.bind_none]⟩
  rw [names, ends_nameAbove_iff]
  refine or_congr_right (exists_congr fun a => ?_)
  rw [Option.any_eq_true]
  exact ⟨fun ⟨reached, k, known, stops⟩ => ⟨k, reached, known, stops⟩,
    fun ⟨k, reached, known, stops⟩ => ⟨reached, k, known, stops⟩⟩

/-- The definitions that a walk can come to. -/
theorem defAbove?_closed (db : ClassDb) (stop : ClassDef → Bool) :
    ∀ a ∈ db.classes.map Prod.snd, ∀ b ∈ db.defAbove? stop a, b ∈ db.classes.map Prod.snd := by
  intro a _ b step
  unfold defAbove? at step
  split at step
  · cases step
  · obtain ⟨p, -, found⟩ := Option.bind_eq_some_iff.mp step
    exact List.mem_map_of_mem (f := Prod.snd) (Keyed.mem_of_get? found)

/-- As many rounds as there are classes tell whether a walk from a definition ends. -/
theorem ends_defAbove_rounds (found : db.class? cls = some d) :
    Ends (db.defAbove? stop) d ↔ rounds (db.defAbove? stop) db.classes.length d = none :=
  ends_iff_rounds (List.mem_map_of_mem (f := Prod.snd) (Keyed.mem_of_get? found))
    (defAbove?_closed db stop) (Nat.le_of_eq (List.length_map _))

end Definitions

/-! ## Looking for an ancestor -/

/-- The walk of `isParentClass` stops at the ancestor that it looks for. -/
def seek (db : ClassDb) (ancestor : String) : String → Option String :=
  db.nameAbove? fun name => name = ancestor

/-- The search is without an answer exactly as long as the walk goes on. -/
theorem search_eq_none {fuel : Nat} :
    db.lineage.search ancestor fuel cls = none ↔ rounds (db.seek ancestor) fuel cls ≠ none := by
  induction fuel generalizing cls with
  | zero => exact iff_of_true rfl (Option.some_ne_none _)
  | succ fuel ih =>
    rw [Lineage.search, lineage_parent?, rounds, seek, nameAbove?]
    by_cases here : cls = ancestor
    · rw [if_pos here, if_pos (decide_eq_true here)]
      exact iff_of_false (Option.some_ne_none _) (fun h => h rfl)
    · rw [if_neg here, if_neg (fun h => here (of_decide_eq_true h))]
      cases (db.class? cls).bind fun d => d.parent with
      | none => exact iff_of_false (Option.some_ne_none _) (fun h => h rfl)
      | some p => exact ih

/-- The search finds exactly what the class derives from. -/
theorem eq_true_of_search {fuel : Nat} {b : Bool}
    (answer : db.lineage.search ancestor fuel cls = some b) :
    b = true ↔ ReflTransGen db.Derives cls ancestor := by
  -- on the fuel: a path of at least one step starts with the step to the parent
  induction fuel generalizing cls with
  | zero => cases answer
  | succ fuel ih =>
    rw [Lineage.search, lineage_parent?] at answer
    split at answer
    next here =>
      cases answer
      exact iff_of_true rfl (here ▸ .refl)
    next other =>
      have up : ∀ p, db.Derives cls p ↔ ((db.class? cls).bind fun d => d.parent) = some p :=
        fun _ => Option.bind_eq_some_iff.symm
      rw [ReflTransGen.cases_head_iff, or_iff_right other]
      cases parent : (db.class? cls).bind fun d => d.parent with
      | none =>
        rw [parent] at answer
        cases answer
        refine iff_of_false Bool.false_ne_true ?_
        rintro ⟨p, step, -⟩
        rw [up, parent] at step
        cases step
      | some p =>
        rw [parent] at answer
        rw [ih answer]
        constructor
        · exact fun path => ⟨p, (up p).mpr parent, path⟩
        · rintro ⟨q, step, path⟩
          rw [up, parent] at step
          cases step
          exact path

/-- The search for an ancestor answers if the walk ends, and else says that it does not. -/
theorem isParentClass_walk (db : ClassDb) (cls ancestor : String) :
    (Ends (db.seek ancestor) cls → ∃ b, db.isParentClass cls ancestor = .ok b ∧
      (b = true ↔ ReflTransGen db.Derives cls ancestor)) ∧
    (¬ Ends (db.seek ancestor) cls →
      db.isParentClass cls ancestor = .error (.endlessHierarchy cls)) := by
  -- a walk meets the class itself and parents of others, for which the fuel is enough
  have room : (cls :: db.classes.filterMap fun c => c.2.parent).length ≤ db.lineage.length + 1 := by
    rw [List.length_cons, lineage, List.length_map]
    exact Nat.succ_le_succ (List.length_filterMap_le _ _)
  have ends_iff : Ends (db.seek ancestor) cls ↔ db.lineage.isA? cls ancestor ≠ none := by
    rw [Lineage.isA?, ne_eq, search_eq_none, not_not]
    exact ends_iff_rounds List.mem_cons_self (nameAbove?_closed db _ cls) room
  unfold isParentClass
  constructor
  · intro ends
    obtain ⟨b, answer⟩ := Option.ne_none_iff_exists'.mp (ends_iff.mp ends)
    rw [answer]
    exact ⟨b, rfl, eq_true_of_search answer⟩
  · intro forever
    rw [not_not.mp fun found => forever (ends_iff.mpr found)]

/-! ## Instances and methods -/

/-- The walk of `instantiate` goes all the way up. -/
def ascend (db : ClassDb) : ClassDef → Option ClassDef := db.defAbove? fun _ => false

/-- The walk of a method call stops at a class that has the method. -/
def lookFor (db : ClassDb) (method : String) : ClassDef → Option ClassDef :=
  db.defAbove? fun d => (Keyed.get? method d.methods).isSome

/-- The line of ancestors is without an end exactly as long as the walk goes on. -/
theorem chain?_eq_none {fuel : Nat} :
    db.chain? fuel (some d) = none ↔ rounds db.ascend fuel d ≠ none := by
  induction fuel generalizing d with
  | zero => exact iff_of_true rfl (Option.some_ne_none _)
  | succ fuel ih =>
    rw [chain?, Option.map_eq_none_iff, rounds, ascend, defAbove?, if_neg Bool.false_ne_true]
    cases db.above? d with
    | none =>
      refine iff_of_false ?_ (fun h => h rfl)
      cases fuel <;> exact Option.some_ne_none _
    | some k => exact ih

/-- The search for a method reports a hierarchy without end exactly as long as the walk goes on. -/
theorem findMethod_endless {method : String} {fuel : Nat} :
    db.findMethod cls method fuel (some d) = .error (.endlessHierarchy cls) ↔
      rounds (db.lookFor method) fuel d ≠ none := by
  induction fuel generalizing d with
  | zero => exact iff_of_true rfl (Option.some_ne_none _)
  | succ fuel ih =>
    rw [findMethod, rounds, lookFor, defAbove?]
    cases Keyed.get? method d.methods with
    | some run => exact iff_of_false (fun answer => by cases answer) (fun h => h rfl)
    | none =>
      rw [Option.isSome_none, if_neg Bool.false_ne_true]
      cases db.above? d with
      | none =>
        refine iff_of_false ?_ (fun h => h rfl)
        cases fuel <;> simp [findMethod]
      | some k => exact ih

/-- A method is found, or it is not, or the walk goes on forever. -/
theorem findMethod_error {method : String} {fuel : Nat} {start : Option ClassDef} {e : HostError}
    (failed : db.findMethod cls method fuel start = .error e) :
    e = .methodNotFound cls method ∨ e = .endlessHierarchy cls := by
  -- on the fuel: an error comes from the class that the search gives up at
  induction fuel generalizing start with
  | zero =>
    cases start with
    | none =>
      cases failed
      exact .inl rfl
    | some d =>
      cases failed
      exact .inr rfl
  | succ fuel ih =>
    cases start with
    | none =>
      cases failed
      exact .inl rfl
    | some d =>
      rw [findMethod] at failed
      split at failed
      · cases failed
      · exact ih failed

/-- An instance is made if the walk ends, and else the database says that it does not. -/
theorem instantiate_walk (found : db.class? cls = some d) (instantiable : d.isInstantiable = true) :
    (Ends db.ascend d → ∃ id, (db.instantiate cls).1 = .ok id) ∧
    (¬ Ends db.ascend d → db.instantiate cls = (.error (.endlessHierarchy cls), db)) := by
  -- the chain is walked with fuel for all classes, so it is missing only if the walk goes on
  have ends_iff : Ends db.ascend d ↔ db.chain? db.classes.length (some d) ≠ none := by
    rw [ne_eq, chain?_eq_none, not_not]
    exact ends_defAbove_rounds found
  unfold instantiate
  rw [found]
  dsimp only
  rw [instantiable, if_neg (by decide)]
  constructor
  · intro ends
    obtain ⟨chain, walked⟩ := Option.ne_none_iff_exists'.mp (ends_iff.mp ends)
    rw [walked]
    exact ⟨_, rfl⟩
  · intro forever
    rw [not_not.mp fun found => forever (ends_iff.mpr found)]

/-- A class that is registered and has instances of its own. -/
def Instantiable (db : ClassDb) (cls : String) : Prop :=
  ∃ d, db.class? cls = some d ∧ d.isInstantiable = true

instance (db : ClassDb) (cls : String) : Decidable (db.Instantiable cls) :=
  decidable_of_iff ((db.class? cls).any fun d => d.isInstantiable) (Option.any_eq_true _ _)

/-- An instance is made of every class that has some, unless the way up from it never ends. -/
theorem Instantiable.instantiate_ok (instantiable : db.Instantiable cls)
    (open_ : ¬ db.Endless cls) : ∃ id db', db.instantiate cls = (.ok id, db') := by
  obtain ⟨d, found, has_instances⟩ := instantiable
  have ends : Ends db.ascend d := (ends_defAbove_iff found).mpr (.inl open_)
  obtain ⟨id, made⟩ := (instantiate_walk found has_instances).1 ends
  exact ⟨id, _, Prod.ext made rfl⟩

/-- No instance is made of any other class, and nothing changes. -/
theorem instantiate_of_not_instantiable (lacking : ¬ db.Instantiable cls) :
    ∃ e, db.instantiate cls = (.error e, db) := by
  unfold instantiate
  split
  · exact ⟨_, rfl⟩
  next d found =>
    split
    · exact ⟨_, rfl⟩
    next has_instances => exact absurd ⟨d, found, by simpa using has_instances⟩ lacking

/-- The lookup of a method answers if the walk ends, and else says that it does not. -/
theorem findMethod_walk (found : db.class? cls = some d) (method : String) :
    (Ends (db.lookFor method) d →
      (∃ run, db.findMethod cls method db.classes.length (some d) = .ok run) ∨
        db.findMethod cls method db.classes.length (some d) =
          .error (.methodNotFound cls method)) ∧
    (¬ Ends (db.lookFor method) d →
      db.findMethod cls method db.classes.length (some d) = .error (.endlessHierarchy cls)) := by
  -- the search gives up exactly where the chain does not end
  have ends_iff : Ends (db.lookFor method) d ↔
      db.findMethod cls method db.classes.length (some d) ≠ .error (.endlessHierarchy cls) := by
    rw [ne_eq, findMethod_endless, not_not]
    exact ends_defAbove_rounds found
  refine ⟨fun ends => ?_, fun forever => not_not.mp fun other => forever (ends_iff.mpr other)⟩
  cases answer : db.findMethod cls method db.classes.length (some d) with
  | ok run => exact .inl ⟨run, rfl⟩
  | error e =>
    rcases findMethod_error answer with rfl | rfl
    · exact .inr rfl
    · exact absurd answer (ends_iff.mp ends)

/-! ## Registering -/

/-- A class that is registered derives from its parent, and the other classes as before. -/
theorem derives_register {a b : String} :
    (db.register d).Derives a b ↔
      a = d.name ∧ d.parent = some b ∨ a ≠ d.name ∧ db.Derives a b := by
  unfold Derives
  -- the definition is what its name stands for from now on, and other names keep theirs
  by_cases same : a = d.name
  · have found : (db.register d).class? a = some d := same ▸ Keyed.get?_put_self ..
    rw [found]
    constructor
    · rintro ⟨k, hk, named⟩
      cases hk
      exact .inl ⟨same, named⟩
    · rintro (⟨-, named⟩ | ⟨other, -⟩)
      · exact ⟨d, rfl, named⟩
      · exact absurd same other
  · have kept : (db.register d).class? a = db.class? a := Keyed.get?_put_ne same ..
    rw [kept]
    exact ⟨fun h => .inr ⟨same, h⟩, fun h => (h.resolve_left fun h => same h.1).2⟩

/-- The ways to the registered class are the old ones. -/
theorem reaches_register {a : String} :
    ReflTransGen (db.register d).Derives a d.name ↔ ReflTransGen db.Derives a d.name := by
  constructor
  all_goals
    intro path
    induction path using ReflTransGen.head_induction_on with
    | refl => exact .refl
    | @head x y up _ ih =>
      by_cases here : x = d.name
      · exact here ▸ .refl
      · first
          | exact ih.head ((derives_register.mp up).resolve_left fun h => here h.1).2
          | exact ih.head (derives_register.mpr (.inr ⟨here, up⟩))

/-- A way up is an old one, or it comes to the registered class. -/
theorem transGen_register {a b : String} (path : TransGen (db.register d).Derives a b) :
    TransGen db.Derives a b ∨
      ReflTransGen (db.register d).Derives a d.name ∧
        TransGen (db.register d).Derives d.name b := by
  induction path with
  | single up =>
    rcases derives_register.mp up with ⟨rfl, -⟩ | ⟨-, old⟩
    · exact .inr ⟨.refl, .single up⟩
    · exact .inl (.single old)
  | tail before up ih =>
    rcases ih with old | ⟨there, onward⟩
    · rcases derives_register.mp up with ⟨rfl, -⟩ | ⟨-, step⟩
      · exact .inr ⟨before.to_reflTransGen, .single up⟩
      · exact .inl (old.tail step)
    · exact .inr ⟨there, onward.tail up⟩

/-- A registration closes a circle exactly if the parent derives from the class. -/
theorem acyclic_register_iff (acyclic : db.Acyclic) :
    (db.register d).Acyclic ↔ ∀ p ∈ d.parent, ¬ ReflTransGen db.Derives p d.name := by
  constructor
  · intro still p named path
    have up : (db.register d).Derives d.name p := derives_register.mpr (.inl ⟨rfl, named⟩)
    exact still d.name (TransGen.head' up (reaches_register.mpr path))
  · intro open_ cls circle
    rcases transGen_register circle with old | ⟨there, onward⟩
    · exact acyclic cls old
    · -- the circle goes through the registered class, and through its parent
      have through : TransGen (db.register d).Derives d.name d.name := onward.trans_left there
      obtain ⟨p, up, path⟩ := TransGen.head'_iff.mp through
      rcases derives_register.mp up with ⟨-, named⟩ | ⟨other, -⟩
      · exact open_ p named (reaches_register.mp path)
      · exact other rfl

/-- Registrations of which none closes a circle. -/
theorem acyclic_foldl_register (acyclic : db.Acyclic) {rs : List ClassDef}
    (open_ : ∀ before d after, rs = before ++ d :: after → ∀ p ∈ d.parent,
      ¬ ReflTransGen (before.foldl register db).Derives p d.name) :
    (rs.foldl register db).Acyclic := by
  induction rs using List.reverseRecOn with
  | nil => exact acyclic
  | append_singleton rs d ih =>
    rw [List.foldl_concat]
    refine (acyclic_register_iff (ih fun before k after split => ?_)).mpr (open_ rs d [] rfl)
    exact open_ before k (after ++ [d]) (by rw [split, List.append_assoc, List.cons_append])

/-- Without classes there is no circle. -/
theorem empty_acyclic : empty.Acyclic := by
  refine acyclic_of_rank (fun _ => 0) fun c hc => ?_
  cases hc

/-! ## All walks -/

/-- Every walk of a database ends, whatever it looks for. -/
structure WalksEnd (db : ClassDb) : Prop where
  seek (cls ancestor : String) : Ends (db.seek ancestor) cls
  ascend {cls : String} {d : ClassDef} (found : db.class? cls = some d) : Ends db.ascend d
  lookFor {cls : String} {d : ClassDef} (found : db.class? cls = some d) (method : String) :
    Ends (db.lookFor method) d

/-- All walks end exactly if there is no circle. -/
theorem walksEnd_iff : db.WalksEnd ↔ db.Acyclic := by
  rw [acyclic_iff]
  constructor
  · rintro ends cls ⟨c, -, circle⟩
    obtain ⟨_, ⟨d, found, -⟩, -⟩ := TransGen.head'_iff.mp circle
    rcases (ends_defAbove_iff found).mp (ends.ascend found) with open_ | ⟨_, _, _, _, stops⟩
    · exact open_ ⟨c, .refl, circle⟩
    · cases stops
  · intro open_
    exact
      { seek := fun cls _ => ends_nameAbove_iff.mpr (.inl (open_ cls))
        ascend := fun found => (ends_defAbove_iff found).mpr (.inl (open_ _))
        lookFor := fun found _ => (ends_defAbove_iff found).mpr (.inl (open_ _)) }

/-- After any registrations, and whatever objects there are, all walks end exactly if no class is
among its own ancestors; and so it is if no registration has made a class one. Without that, the
search for an ancestor goes on forever where it leads to a circle and not to the ancestor, and the
lookup of a method where it leads to a circle and to no class that has the method. The database
answers all requests whose walk ends, and it says of the others that their walk does not. -/
theorem walks_end_iff_acyclic (rs : List ClassDef) (objects : List (ObjectId × EngineObject))
    (created : UInt64) :
    let db : ClassDb := { rs.foldl register empty with objects, created }
    (db.WalksEnd ↔ db.Acyclic) ∧
    ((∀ before d after, rs = before ++ d :: after → ∀ p ∈ d.parent,
      ¬ ReflTransGen (before.foldl register empty).Derives p d.name) → db.WalksEnd) ∧
    (∀ cls ancestor,
      (Ends (db.seek ancestor) cls ↔ ¬ db.Endless cls ∨ ReflTransGen db.Derives cls ancestor) ∧
      (Ends (db.seek ancestor) cls → ∃ b, db.isParentClass cls ancestor = .ok b ∧
        (b = true ↔ ReflTransGen db.Derives cls ancestor)) ∧
      (¬ Ends (db.seek ancestor) cls →
        db.isParentClass cls ancestor = .error (.endlessHierarchy cls))) ∧
    ∀ cls d, db.class? cls = some d →
      (Ends db.ascend d ↔ ¬ db.Endless cls) ∧
      (d.isInstantiable = true → Ends db.ascend d → ∃ id, (db.instantiate cls).1 = .ok id) ∧
      (d.isInstantiable = true → ¬ Ends db.ascend d →
        db.instantiate cls = (.error (.endlessHierarchy cls), db)) ∧
      ∀ method,
        (Ends (db.lookFor method) d ↔ ¬ db.Endless cls ∨ ∃ a k,
          ReflTransGen db.Derives cls a ∧ db.class? a = some k ∧
            (Keyed.get? method k.methods).isSome) ∧
        (Ends (db.lookFor method) d →
          (∃ run, db.findMethod cls method db.classes.length (some d) = .ok run) ∨
            db.findMethod cls method db.classes.length (some d) =
              .error (.methodNotFound cls method)) ∧
        (¬ Ends (db.lookFor method) d →
          db.findMethod cls method db.classes.length (some d) =
            .error (.endlessHierarchy cls)) := by
  intro db
  refine ⟨walksEnd_iff, fun open_ => ?_,
    fun cls ancestor => ⟨?_, isParentClass_walk db cls ancestor⟩,
    fun cls d found => ⟨?_, fun instantiable => (instantiate_walk found instantiable).1,
      fun instantiable => (instantiate_walk found instantiable).2,
      fun method => ⟨ends_defAbove_iff found, findMethod_walk found method⟩⟩⟩
  -- no registration closes a circle, so there is none in the end
  · exact walksEnd_iff.mpr ((acyclic_foldl_register empty_acyclic open_).congr rfl)
  · rw [seek, ends_nameAbove_iff]
    refine or_congr_right ⟨?_, fun path => ⟨ancestor, path, decide_eq_true rfl⟩⟩
    rintro ⟨a, path, same⟩
    exact of_decide_eq_true same ▸ path
  · refine (ends_defAbove_iff found).trans (or_iff_left ?_)
    rintro ⟨_, _, _, _, stops⟩
    cases stops

/-- A class that is registered as its own parent: the search for another ancestor goes on
forever. -/
theorem selfParent_endless :
    let db := empty.register ((ClassDef.new "A").inherits "A")
    ¬ Ends (db.seek "B") "A" ∧ db.isParentClass "A" "B" = .error (.endlessHierarchy "A") := by
  intro db
  have up : db.seek "B" "A" = some "A" := by decide
  have forever : ¬ Ends (db.seek "B") "A" := not_ends_of_circle .refl (.single up)
  exact ⟨forever, (isParentClass_walk db "A" "B").2 forever⟩

end ClassDb

end ScriptBind
