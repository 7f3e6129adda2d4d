import ScriptBind.Proofs.ClassDb.Walks
import ScriptBind.Proofs.ClassDb.Properties

/-!
# What classes inherit

Default values and methods are inherited in two different ways. A new instance gets the defaults of
all its classes, from the root downwards, and later ones replace earlier ones. A method is searched
upwards, from the class that a call names. Both come to the same rule: what counts is the nearest
class on the way up that declares something (`Inherits`), or there is nothing (`Lacks`).

Main results:

* `Inherits.unique`, `Inherits.not_lacks` — a class inherits one thing or lacks it.
* `findSome?_chain` — the first hit in a chain is what a class inherits.
* `initialProperties_eq`, `findMethod_eq` — defaults and methods are first hits.
* `nearest_wins` — what new instances report and which methods calls run.
-/

namespace ScriptBind

open Relation (ReflTransGen)

/-- The default that a class itself declares for a property; of several ones the last. -/
def ClassDef.default? (d : ClassDef) (property : String) : Option Variant :=
  Keyed.last? property d.defaults

/-- The method that a class itself declares under a name. -/
def ClassDef.method? (d : ClassDef) (name : String) : Option ObjectMethod :=
  Keyed.get? name d.methods

namespace ClassDb

variable {α : Type} {db : ClassDb} {cls : String} {d : ClassDef} {f : ClassDef → Option α}

/-! ## From the nearest class -/

/-- `db.Inherits f cls a`: of the class and the registered classes above it, the nearest one that has
something of the kind `f` has `a`. -/
inductive Inherits (db : ClassDb) (f : ClassDef → Option α) : String → α → Prop
  | own {cls : String} {d : ClassDef} {a : α} (known : db.class? cls = some d) (has : f d = some a) :
      Inherits db f cls a
  | above {cls parent : String} {d : ClassDef} {a : α} (known : db.class? cls = some d)
      (has_not : f d = none) (named : d.parent = some parent) (higher : Inherits db f parent a) :
      Inherits db f cls a

/-- Neither the class nor a registered class above it has anything of the kind `f`. -/
def Lacks (db : ClassDb) (f : ClassDef → Option α) (cls : String) : Prop :=
  ∀ a d, ReflTransGen db.Derives cls a → db.class? a = some d → f d = none

theorem lacks_of_unknown (unknown : db.class? cls = none) : db.Lacks f cls := by
  intro a d path known
  rcases ReflTransGen.cases_head_iff.mp path with rfl | ⟨_, ⟨k, found, -⟩, -⟩
  · cases unknown.symm.trans known
  · cases unknown.symm.trans found

theorem lacks_iff_above (known : db.class? cls = some d) :
    db.Lacks f cls ↔ f d = none ∧ ∀ parent ∈ d.parent, db.Lacks f parent := by
  constructor
  · exact fun lacks => ⟨lacks cls d .refl known, fun parent named a k path found =>
      lacks a k (.head ⟨d, known, named⟩ path) found⟩
  · rintro ⟨has_not, above⟩ a k path found
    rcases ReflTransGen.cases_head_iff.mp path with rfl | ⟨parent, ⟨d', known', named⟩, path⟩
    · cases known.symm.trans found
      exact has_not
    · cases known.symm.trans known'
      exact above parent named a k path found

/-- There is no more than one nearest class. -/
theorem Inherits.unique {a b : α} (first : db.Inherits f cls a) (second : db.Inherits f cls b) :
    a = b := by
  -- on the first derivation: where it stops the second has to stop, and where it goes up so has
  -- the second, since the class decides between the two
  induction first with
  | own known has =>
    cases second with
    | own known' has' =>
      cases known.symm.trans known'
      exact Option.some.inj (has.symm.trans has')
    | above known' has_not =>
      cases known.symm.trans known'
      cases has.symm.trans has_not
  | above known has_not named _ ih =>
    cases second with
    | own known' has =>
      cases known.symm.trans known'
      cases has.symm.trans has_not
    | above known' _ named' higher =>
      cases known.symm.trans known'
      cases named.symm.trans named'
      exact ih higher

/-- What is inherited is not lacking. -/
theorem Inherits.not_lacks {a : α} (inherits : db.Inherits f cls a) : ¬ db.Lacks f cls := by
  intro lacks
  induction inherits with
  | own known has => cases has.symm.trans (lacks _ _ .refl known)
  | above known _ named _ ih => exact ih ((lacks_iff_above known).mp lacks |>.2 _ named)

/-- The first class of a chain that has something is the nearest one. -/
theorem findSome?_chain {fuel : Nat} {chain : List ClassDef}
    (walked : db.chain? fuel (db.class? cls) = some chain) :
    match chain.findSome? f with
    | some a => db.Inherits f cls a
    | none => db.Lacks f cls := by
  -- on the fuel: the chain that is left above a class has been walked with one step less
  induction fuel generalizing cls chain with
  | zero =>
    cases known : db.class? cls with
    | none =>
      rw [known] at walked
      cases walked
      exact lacks_of_unknown known
    | some d =>
      rw [known] at walked
      cases walked
  | succ fuel ih =>
    cases known : db.class? cls with
    | none =>
      rw [known] at walked
      cases walked
      exact lacks_of_unknown known
    | some d =>
      rw [known, chain?] at walked
      obtain ⟨rest, above, rfl⟩ := Option.map_eq_some_iff.mp walked
      rw [List.findSome?_cons]
      cases own : f d with
      | some a => exact .own known own
      | none =>
        dsimp only
        -- a class without it passes on what its parent has, or lacks it together with the root
        cases named : d.parent with
        | none =>
          have ended : rest = [] := by
            rw [above?, named, Option.bind_none] at above
            cases fuel <;> exact (Option.some.inj above).symm
          rw [ended]
          exact (lacks_iff_above known).mpr ⟨own, by simp [named]⟩
        | some parent =>
          rw [above?, named, Option.bind_some] at above
          have higher := ih above
          split at higher
          next a first =>
            rw [first]
            exact .above known own named higher
          next none_ =>
            rw [none_]
            refine (lacks_iff_above known).mpr ⟨own, fun p same => ?_⟩
            cases named.symm.trans same
            exact higher

/-! ## Defaults -/

/-- Defaults that are put from the root downwards: the nearest one counts. -/
theorem initialProperties_eq (chain : List ClassDef) (property : String) :
    Keyed.get? property (initialProperties chain) =
      chain.findSome? fun d => d.default? property := by
  unfold initialProperties
  rw [Keyed.get?_foldl_put, Keyed.get?, Option.or_none]
  induction chain with
  | nil => rfl
  | cons d rest ih =>
    rw [List.reverse_cons, List.flatMap_append, Keyed.last?_append, ih, List.findSome?_cons,
      List.flatMap_singleton]
    show (d.default? property).or _ = _
    cases d.default? property <;> rfl

/-- A new object has the nearest default of each property, and nil where there is none. -/
theorem get_new_object {db' : ClassDb} {id : ObjectId} {o : EngineObject}
    (made : db.instantiate cls = (.ok id, db')) (alive : db'.object? id = some o)
    (property : String) :
    db.Inherits (fun d => d.default? property) cls (o.get property) ∨
      db.Lacks (fun d => d.default? property) cls ∧ o.get property = .nil := by
  obtain ⟨d, chain, known, walked, rfl⟩ := new_object made alive
  rw [← known] at walked
  have nearest := findSome?_chain (f := fun d => d.default? property) walked
  rw [EngineObject.get, initialProperties_eq]
  split at nearest
  next v first =>
    rw [first]
    exact .inl nearest
  next none_ =>
    rw [none_]
    exact .inr ⟨nearest, rfl⟩

/-! ## Methods -/

/-- A method that is searched along a chain is the first one there. -/
theorem findMethod_eq (owner method : String) {fuel : Nat} {start : Option ClassDef}
    {chain : List ClassDef} (walked : db.chain? fuel start = some chain) :
    db.findMethod owner method fuel start =
      match chain.findSome? fun d => d.method? method with
      | some run => .ok run
      | none => .error (.methodNotFound owner method) := by
  -- on the fuel, which the search and the walk spend alike
  induction fuel generalizing start chain with
  | zero =>
    cases start with
    | none =>
      cases walked
      rfl
    | some d => cases walked
  | succ fuel ih =>
    cases start with
    | none =>
      cases walked
      rfl
    | some d =>
      rw [chain?] at walked
      obtain ⟨rest, above, rfl⟩ := Option.map_eq_some_iff.mp walked
      rw [findMethod, List.findSome?_cons]
      show (match d.method? method with
        | some run => Except.ok run
        | none => db.findMethod owner method fuel (db.above? d)) = _
      cases d.method? method with
      | some run => rfl
      | none => exact ih above

theorem Acyclic.exists_chain_of (acyclic : db.Acyclic) (cls : String) :
    ∃ chain, db.chain? db.classes.length (db.class? cls) = some chain := by
  cases known : db.class? cls with
  | none => exact ⟨[], by cases db.classes.length <;> rfl⟩
  | some d => exact acyclic.exists_chain known

theorem Acyclic.isParentClass (acyclic : db.Acyclic) (cls ancestor : String) :
    ∃ b, db.isParentClass cls ancestor = .ok b ∧ (b = true ↔ ReflTransGen db.Derives cls ancestor) :=
  (isParentClass_walk db cls ancestor).1 ((walksEnd_iff.mpr acyclic).seek cls ancestor)

/-! ## The nearest class wins -/

/-- What has become of a database in which an instance has been made. -/
structure Instantiated (db : ClassDb) (cls : String) (id : ObjectId) (db' : ClassDb) : Prop where
  /-- The new object is of its class, and has the nearest default of each property. -/
  object : ∃ o, db'.object? id = some o ∧ o.cls = cls ∧ ∀ property,
    db.Inherits (fun d => d.default? property) cls (o.get property) ∨
      db.Lacks (fun d => d.default? property) cls ∧ o.get property = .nil
  others : ∀ j, j ≠ id → db'.object? j = db.object? j

/-- What a call of a method on an object comes to, as seen from a class. -/
structure Called (db : ClassDb) (id : ObjectId) (o : EngineObject) (cls method : String)
    (args : List Variant) : Prop where
  /-- From the object's class or one above it, the nearest method runs, if there is one. -/
  related : ReflTransGen db.Derives o.cls cls →
    (∃ run, db.Inherits (fun d => d.method? method) cls run ∧
      db.call id cls method args =
        ((run db.lineage o args).1,
          { db with objects := Keyed.put id (run db.lineage o args).2 db.objects })) ∨
    db.Lacks (fun d => d.method? method) cls ∧
      db.call id cls method args = (.error (.methodNotFound cls method), db)
  /-- From any other class nothing runs. -/
  unrelated : ¬ ReflTransGen db.Derives o.cls cls →
    ∃ reason, db.call id cls method args = (.error (.callFailed method reason), db)

theorem Acyclic.called (acyclic : db.Acyclic) {id : ObjectId} {o : EngineObject}
    (alive : db.object? id = some o) (cls method : String) (args : List Variant) :
    db.Called id o cls method args := by
  obtain ⟨derives, answer, iff_path⟩ := acyclic.isParentClass o.cls cls
  unfold object? at alive
  constructor
  · intro path
    obtain rfl : derives = true := iff_path.mpr path
    -- the walk up comes to an end, so the search meets what the chain lists and never runs out
    obtain ⟨chain, walked⟩ := acyclic.exists_chain_of cls
    have nearest := findSome?_chain (f := fun d => d.method? method) walked
    have found := findMethod_eq cls method walked
    unfold call
    rw [alive]
    dsimp only
    rw [answer]
    dsimp only
    rw [found]
    split at nearest
    next run first =>
      rw [first]
      exact .inl ⟨run, nearest, rfl⟩
    next none_ =>
      rw [none_]
      exact .inr ⟨nearest, rfl⟩
  · intro apart
    obtain rfl : derives = false := Bool.eq_false_iff.mpr fun yes => apart (iff_path.mp yes)
    unfold call
    rw [alive]
    dsimp only
    rw [answer]
    exact ⟨_, rfl⟩

/-- In a database in which no class is among its own ancestors: a new object has, of each property,
the last default of the nearest of its classes that declares one, nil if none does, and no other
object has changed. A call runs the method that the nearest class declares, from the class on that
the call names, if the object is of this class or one derived from it; otherwise it fails, and so it
does where no class has the method, and nothing has changed. -/
theorem nearest_wins (acyclic : db.Acyclic) :
    (∀ cls id db', db.instantiate cls = (.ok id, db') → db.Instantiated cls id db') ∧
    ∀ id o, db.object? id = some o → ∀ cls method args, db.Called id o cls method args := by
  refine ⟨fun cls id db' made => ?_, fun id o alive => acyclic.called alive⟩
  have report {o} := get_new_object (o := o) made
  obtain ⟨-, o, cls_eq, rfl⟩ := instantiate_ok made
  have alive : ({ db with created := db.created + 1, objects := Keyed.put id o db.objects } :
      ClassDb).object? id = some o := Keyed.get?_put_self ..
  exact ⟨⟨o, alive, cls_eq, report alive⟩, fun j other => Keyed.get?_put_ne other ..⟩

/-- Birds have fewer legs than other animals and another voice; owls are named, and twice. -/
def birds : ClassDb := empty
  |>.register (ClassDef.new "Animal"
    |>.property "legs" (.int 4)
    |>.method "sound" (CoreClasses.reading fun _ => .nil))
  |>.register (ClassDef.new "Bird"
    |>.inherits "Animal"
    |>.property "legs" (.int 2)
    |>.method "sound" (CoreClasses.reading fun _ => .string "tweet"))
  |>.register (ClassDef.new "Owl"
    |>.inherits "Bird"
    |>.property "name" (.string "bird")
    |>.property "name" (.string "owl"))

theorem birds_acyclic : birds.Acyclic := by
  refine acyclic_of_rank ["Animal", "Bird", "Owl"].idxOf fun c hc => ?_
  simp only [birds, register, empty, Keyed.put, ClassDef.new, ClassDef.inherits,
    ClassDef.property, ClassDef.method] at hc
  rcases hc with _ | ⟨_, _ | ⟨_, _ | ⟨_, ⟨⟩⟩⟩⟩ <;> decide

/-- An owl has the legs and the voice of a bird, and the name given last. -/
theorem nearest_wins_owl : ∃ db o,
    birds.Instantiated "Owl" ⟨1⟩ db ∧ db.object? ⟨1⟩ = some o ∧
    db.Called ⟨1⟩ o "Owl" "sound" [] ∧
    o.get "legs" = .int 2 ∧ o.get "name" = .string "owl" ∧ o.get "age" = .nil ∧
    (db.call ⟨1⟩ "Owl" "sound" []).1 = .ok (.string "tweet") ∧
    (db.call ⟨1⟩ "Animal" "sound" []).1 = .ok .nil := by
  have made : birds.instantiate "Owl" = (.ok ⟨1⟩, (birds.instantiate "Owl").2) := rfl
  have alive : (birds.instantiate "Owl").2.object? ⟨1⟩ = some ⟨⟨1⟩, "Owl", _⟩ := rfl
  have still : (birds.instantiate "Owl").2.Acyclic := birds_acyclic.congr rfl
  exact ⟨_, _, (nearest_wins birds_acyclic).1 _ _ _ made, alive,
    (nearest_wins still).2 _ _ alive _ _ _, rfl, rfl, rfl, rfl, rfl⟩

end ClassDb

end ScriptBind
