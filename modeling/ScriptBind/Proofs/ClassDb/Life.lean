import ScriptBind.ClassDb.Basic

/-!
# The life of a class database

Once its classes are registered, a database changes in three ways: an object is created, one is
called, one is freed. `ClassDb.Step` lists them, whether the request succeeds or not.

Main results:

* `Step.classes_eq` — the classes stay.
* `Step.forall_objects` — what new objects have and methods keep, all objects have.
-/

namespace ScriptBind

namespace ClassDb

/-- What happens to a database while a host runs. -/
inductive Step (db : ClassDb) : ClassDb → Prop
  | instantiate (cls : String) : Step db (db.instantiate cls).2
  | call (id : ObjectId) (cls method : String) (args : List Variant) :
      Step db (db.call id cls method args).2
  | free (id : ObjectId) : Step db (db.free id).2

section Congr

variable {db db' : ClassDb} (same : db'.classes = db.classes)
include same

theorem class?_congr (name : String) : db'.class? name = db.class? name := by
  rw [class?, class?, same]

theorem lineage_congr : db'.lineage = db.lineage := by
  rw [lineage, lineage, same]

/-- The way up does not depend on the objects. -/
theorem chain?_congr (fuel : Nat) (start : Option ClassDef) :
    db'.chain? fuel start = db.chain? fuel start := by
  induction fuel generalizing start with
  | zero => cases start <;> rfl
  | succ fuel ih =>
    cases start with
    | none => rfl
    | some d =>
      have above : db'.above? d = db.above? d := by
        rw [above?, above?]
        exact congrArg d.parent.bind (funext (class?_congr same))
      rw [chain?, chain?, above, ih]

end Congr

/-- An object that has a class is alive. -/
theorem exists_object {db : ClassDb} {id : ObjectId} {cls : String}
    (known : db.classOf id = .ok cls) : ∃ o, db.object? id = some o ∧ o.cls = cls := by
  unfold classOf at known
  split at known
  next o alive =>
    cases known
    exact ⟨o, alive, rfl⟩
  next => cases known

/-- A method that is found is one of a registered class, under its name. -/
theorem listed_of_findMethod {db : ClassDb} {cls method : String} {fuel : Nat}
    {start : Option ClassDef} {run : ObjectMethod} (known : ∀ d ∈ start, ∃ c ∈ db.classes, c.2 = d)
    (found : db.findMethod cls method fuel start = .ok run) :
    ∃ c ∈ db.classes, (method, run) ∈ c.2.methods := by
  -- on the fuel: a parent is looked up in the database, so it is registered as well
  induction fuel generalizing start with
  | zero => cases start <;> cases found
  | succ fuel ih =>
    cases start with
    | none => cases found
    | some d =>
      rw [findMethod] at found
      cases own : Keyed.get? method d.methods with
      | some run' =>
        rw [own] at found
        cases found
        obtain ⟨c, hc, rfl⟩ := known d rfl
        exact ⟨c, hc, Keyed.mem_of_get? own⟩
      | none =>
        rw [own] at found
        refine ih (fun p hp => ?_) found
        obtain ⟨name, -, hname⟩ := Option.bind_eq_some_iff.mp hp
        exact ⟨_, Keyed.mem_of_get? hname, rfl⟩

/-- A method that is found from a class is one of a registered class. -/
theorem method_of_found {db : ClassDb} {cls method : String} {fuel : Nat} {run : ObjectMethod}
    (found : db.findMethod cls method fuel (db.class? cls) = .ok run) :
    ∃ c ∈ db.classes, (method, run) ∈ c.2.methods :=
  listed_of_findMethod (fun _ hd => ⟨_, Keyed.mem_of_get? hd, rfl⟩) found

namespace Step

variable {db db' : ClassDb}

/-- No request registers a class. -/
theorem classes_eq (step : Step db db') : db'.classes = db.classes := by
  cases step with
  | instantiate cls =>
    unfold ClassDb.instantiate
    split
    · rfl
    · split
      · rfl
      · split <;> rfl
  | call id cls method args =>
    unfold ClassDb.call
    split
    · rfl
    · split
      · rfl
      · rfl
      · split <;> rfl
  | free id => rfl

/-- What every new object has, and every registered method keeps, all objects have. -/
theorem forall_objects {P : EngineObject → Prop} (step : Step db db')
    (fresh : ∀ cls d chain id, db.class? cls = some d → d.isInstantiable = true →
      db.chain? db.classes.length (some d) = some chain → P ⟨id, cls, initialProperties chain⟩)
    (kept : ∀ c ∈ db.classes, ∀ m ∈ c.2.methods, ∀ lineage o args, P o → P (m.2 lineage o args).2)
    (all : ∀ p ∈ db.objects, P p.2) : ∀ p ∈ db'.objects, P p.2 := by
  cases step with
  | instantiate cls =>
    -- only an instance that is made changes the objects, by the new one
    unfold ClassDb.instantiate
    split
    · exact all
    next d found =>
      split
      · exact all
      next instantiable =>
        split
        · exact all
        next chain walked =>
          intro p hp
          rcases Keyed.value_of_mem_put hp with old | new
          · exact all p old
          · rw [new]
            exact fresh cls d chain _ found (by simpa using instantiable) walked
  | call id cls method args =>
    -- only a method that is found changes the objects, by what it makes of its own
    unfold ClassDb.call
    split
    · exact all
    next o alive =>
      split
      · exact all
      · exact all
      · split
        · exact all
        next run found =>
          obtain ⟨c, hc, mem⟩ := method_of_found found
          intro p hp
          rcases Keyed.value_of_mem_put hp with old | new
          · exact all p old
          · rw [new]
            exact kept c hc _ mem _ o args (all _ (Keyed.mem_of_get? alive))
  | free id => exact fun p hp => all p (Keyed.mem_of_mem_erase hp)

end Step

end ClassDb

end ScriptBind
