import ScriptBind.Proofs.ClassDb.Core
import ScriptBind.Proofs.ClassDb.Fresh

/-!
# Calls stay within their object

A call looks at the classes and at one object, answers, and puts that object back: what it answers
and what it puts back is `ClassDb.response`, which does not know the other objects. The methods of
the core classes look at all of their arguments before they change anything (`Atomic`), so a call of
one of them that fails leaves the whole database as it was.

Main results:

* `call_live` — a call is the response of its object.
* `atomic_core` — every method of every core class is atomic.
* `call_comm` — calls on two objects do not meet.
* `calls_local` — what a call may do, and what it may depend on.
-/

namespace ScriptBind

/-! ## Lists with keys -/

namespace Keyed

variable {κ α : Type} [BEq κ] [LawfulBEq κ]

/-- A value put where it is already changes nothing. -/
theorem put_present {k : κ} {a : α} {l : List (κ × α)} (present : get? k l = some a) :
    put k a l = l := by
  induction l with
  | nil => cases present
  | cons p rest ih =>
    obtain ⟨j, b⟩ := p
    by_cases h : j = k
    · have same : b = a := by simpa [get?, h] using present
      simp [put, h, same]
    · have present : get? k rest = some a := by simpa [get?, h] using present
      simp [put, h, ih present]

/-- Values under two keys can be put in either order, when one of the keys is listed: then at most
one key is entered, and it comes last both times. -/
theorem put_comm {j k : κ} (ne : j ≠ k) {l : List (κ × α)} (listed : (get? k l).isSome) (a b : α) :
    put j a (put k b l) = put k b (put j a l) := by
  induction l with
  | nil => simp [get?] at listed
  | cons p rest ih =>
    obtain ⟨i, c⟩ := p
    by_cases hk : i = k
    · have hj : i ≠ j := fun same => ne (same.symm.trans hk)
      simp [put, hk, hk ▸ hj]
    · by_cases hj : i = j
      · simp [put, hj, ne]
      · have listed : (get? k rest).isSome := by simpa [get?, hk] using listed
        simp [put, hk, hj, ih listed]

end Keyed

/-! ## The response of one object -/

namespace ClassDb

/-- What an object answers to a call as seen from the class `cls`, and what it is afterwards. -/
def response (db : ClassDb) (o : EngineObject) (cls method : String) (args : List Variant) :
    Except HostError Variant × EngineObject :=
  match db.isParentClass o.cls cls with
  | .error e => (.error e, o)
  | .ok false =>
    (.error (.callFailed method ("object of class " ++ o.cls ++ " is not a " ++ cls)), o)
  | .ok true =>
    match db.findMethod cls method db.classes.length (db.class? cls) with
    | .error e => (.error e, o)
    | .ok run => run db.lineage o args

/-- A call is the response of its object, which is put back in its place. -/
theorem call_live {db : ClassDb} {id : ObjectId} {o : EngineObject}
    (alive : db.object? id = some o) (cls method : String) (args : List Variant) :
    db.call id cls method args =
      ((db.response o cls method args).1,
        { db with objects := Keyed.put id (db.response o cls method args).2 db.objects }) := by
  unfold object? at alive
  have back : { db with objects := Keyed.put id o db.objects } = db := by
    rw [Keyed.put_present alive]
  unfold call response
  rw [alive]
  dsimp only
  -- a call that finds no method leaves the object, which puts it back as it was
  cases db.isParentClass o.cls cls with
  | error e => exact congrArg _ back.symm
  | ok derives =>
    cases derives with
    | false => exact congrArg _ back.symm
    | true =>
      dsimp only
      cases db.findMethod cls method db.classes.length (db.class? cls) with
      | error e => exact congrArg _ back.symm
      | ok run => rfl

/-- A live object answers as its class does. -/
theorem answer_live {db : ClassDb} {id : ObjectId} {o : EngineObject}
    (alive : db.object? id = some o) (cls method : String) (args : List Variant) :
    (db.call id cls method args).1 = (db.response o cls method args).1 := by
  rw [call_live alive]

section Congr

variable {db db' : ClassDb} (same : db'.classes = db.classes)
include same

/-- Which method is found does not depend on the objects. -/
theorem findMethod_congr (cls method : String) (fuel : Nat) (start : Option ClassDef) :
    db'.findMethod cls method fuel start = db.findMethod cls method fuel start := by
  induction fuel generalizing start with
  | zero => cases start <;> rfl
  | succ fuel ih =>
    cases start with
    | none => rfl
    | some d =>
      have above : db'.above? d = db.above? d := by
        rw [above?, above?]
        exact congrArg d.parent.bind (funext (class?_congr same))
      rw [findMethod, findMethod, above, ih]

/-- The ancestors of a class depend on the classes alone. -/
theorem isParentClass_congr (cls ancestor : String) :
    db'.isParentClass cls ancestor = db.isParentClass cls ancestor := by
  rw [isParentClass, isParentClass, lineage_congr same]

/-- The response of an object depends on the classes alone. -/
theorem response_congr (o : EngineObject) (cls method : String) (args : List Variant) :
    db'.response o cls method args = db.response o cls method args := by
  rw [response, response, isParentClass_congr same, findMethod_congr same, class?_congr same,
    lineage_congr same, same]

end Congr

/-! ## Other objects -/

section Calls

variable (db : ClassDb) (id : ObjectId) (cls method : String) (args : List Variant)

/-- A call leaves the other objects alone. -/
theorem object?_call_ne {j : ObjectId} (other : j ≠ id) :
    (db.call id cls method args).2.object? j = db.object? j := by
  cases alive : db.object? id with
  | none => rw [call_dead alive]
  | some o =>
    rw [call_live alive]
    exact Keyed.get?_put_ne other ..

/-- The object that was called is what its response left. -/
theorem object?_call_self {o : EngineObject} (alive : db.object? id = some o) :
    (db.call id cls method args).2.object? id = some (db.response o cls method args).2 := by
  rw [call_live alive]
  exact Keyed.get?_put_self ..

/-- A call leaves the classes as they are. -/
theorem classes_call : (db.call id cls method args).2.classes = db.classes :=
  (Step.call id cls method args).classes_eq

variable {id} in
/-- A call is answered alike before and after a call on another object. -/
theorem answer_after {id' : ObjectId} (other : id' ≠ id) (cls' method' : String)
    (args' : List Variant) :
    ((db.call id cls method args).2.call id' cls' method' args').1 =
      (db.call id' cls' method' args').1 := by
  have same := object?_call_ne db id cls method args other
  cases alive : db.object? id' with
  | none => rw [call_dead alive, call_dead (same.trans alive)]
  | some o =>
    rw [answer_live alive, answer_live (same.trans alive),
      response_congr (classes_call db id cls method args)]

variable {id} in
/-- Calls on two objects leave the same database in either order. -/
theorem call_comm {id' : ObjectId} (other : id' ≠ id) (cls' method' : String)
    (args' : List Variant) :
    ((db.call id cls method args).2.call id' cls' method' args').2 =
      ((db.call id' cls' method' args').2.call id cls method args).2 := by
  have kept := object?_call_ne db id cls method args other
  have kept' := object?_call_ne db id' cls' method' args' other.symm
  have classes := classes_call db id cls method args
  have classes' := classes_call db id' cls' method' args'
  cases alive : db.object? id with
  | none => rw [call_dead alive, call_dead (kept'.trans alive)]
  | some o =>
    cases alive' : db.object? id' with
    | none => rw [call_dead alive', call_dead (kept.trans alive')]
    | some o' =>
      rw [call_live (kept.trans alive'), call_live (kept'.trans alive), response_congr classes,
        response_congr classes', call_live alive, call_live alive']
      -- both objects are listed, so neither order enters one
      have listed : (Keyed.get? id db.objects).isSome := Option.isSome_of_eq_some alive
      dsimp only
      rw [Keyed.put_comm other listed]

end Calls

end ClassDb

/-! ## Methods that check before they change -/

namespace CoreClasses

open ClassDb (core)

/-- A method that fails leaves the object as it was. -/
def Atomic (run : ObjectMethod) : Prop :=
  ∀ lineage o args e, (run lineage o args).1 = .error e → (run lineage o args).2 = o

/-- A method that reads leaves the object as it is. -/
theorem atomic_reading (f : EngineObject → Variant) : Atomic (reading f) :=
  fun _ _ _ _ _ => rfl

/-- The value is worked out first, and only a value is stored. -/
theorem atomic_setting (property : String)
    (value : EngineObject → List Variant → Except HostError Variant) :
    Atomic (setting property value) := by
  intro lineage o args e failed
  unfold setting at failed ⊢
  cases given : value o args with
  | ok v =>
    rw [given] at failed
    cases failed
  | error e' => rfl

/-- To ask for the class leaves the object as it is. -/
theorem atomic_isClass : Atomic isClass := by
  intro lineage o args e _
  unfold isClass
  split
  · rfl
  · split <;> rfl

/-- A meta value is stored entirely, or not at all. -/
theorem atomic_setMeta : Atomic setMeta := by
  intro lineage o args e failed
  unfold setMeta at failed ⊢
  split at failed
  · rfl
  · cases failed

/-- To read a meta value leaves the object as it is. -/
theorem atomic_getMeta : Atomic getMeta := by
  intro lineage o args e _
  unfold getMeta
  split <;> rfl

/-- A notification is counted, or refused without a trace. -/
theorem atomic_notify : Atomic notify := by
  intro lineage o args e failed
  unfold notify at failed ⊢
  split at failed
  · rfl
  · cases failed

/-! ### Every class -/

/-- All methods of `Object`. -/
theorem objectClass_methods :
    objectClass.methods =
      [("get_class", reading fun o => .string o.cls), ("is_class", isClass),
        ("get_instance_id", reading fun o => .int o.id.number.toInt64), ("set_meta", setMeta),
        ("get_meta", getMeta), ("notify", notify)] := rfl

/-- The one method of `RefCounted`. -/
theorem refCountedClass_methods :
    refCountedClass.methods = [("get_reference_count", reading fun _ => .int 1)] := rfl

/-- All methods of `Node`. -/
theorem nodeClass_methods :
    nodeClass.methods =
      [("set_name", setting "name" fun _ args => .stringName <$> textArg "set_name" args 0),
        ("get_name", getting "name"), ("add_child", setting "child_count" addChild),
        ("get_child_count", getting "child_count"),
        ("set_process_mode", setting "process_mode" processMode),
        ("get_process_mode", getting "process_mode")] := rfl

/-- All methods of `CanvasItem`. -/
theorem canvasItemClass_methods :
    canvasItemClass.methods =
      [("show", setting "visible" fun _ _ => .ok (.bool true)),
        ("hide", setting "visible" fun _ _ => .ok (.bool false)),
        ("is_visible", getting "visible")] := rfl

/-- All methods of `Node2D`. -/
theorem node2DClass_methods :
    node2DClass.methods =
      [("set_position", setting "position" position), ("get_position", getting "position"),
        ("rotate", setting "rotation" rotate), ("get_rotation", getting "rotation")] := rfl

/-- No method of a core class changes its object and fails. -/
theorem atomic_core {c : String × ClassDef} (hc : c ∈ core.classes) :
    ∀ m ∈ c.2.methods, Atomic m.2 := by
  refine core_classes (motive := fun _ k => ∀ m ∈ k.methods, Atomic m.2) ?_ ?_ ?_ ?_ ?_ hc
  · simp only [objectClass_methods, List.forall_mem_cons]
    exact ⟨atomic_reading _, atomic_isClass, atomic_reading _, atomic_setMeta, atomic_getMeta,
      atomic_notify, List.forall_mem_nil _⟩
  · simp only [refCountedClass_methods, List.forall_mem_cons]
    exact ⟨atomic_reading _, List.forall_mem_nil _⟩
  · simp only [nodeClass_methods, List.forall_mem_cons]
    exact ⟨atomic_setting _ _, atomic_reading _, atomic_setting _ _, atomic_reading _,
      atomic_setting _ _, atomic_reading _, List.forall_mem_nil _⟩
  · simp only [canvasItemClass_methods, List.forall_mem_cons]
    exact ⟨atomic_setting _ _, atomic_setting _ _, atomic_reading _, List.forall_mem_nil _⟩
  · simp only [node2DClass_methods, List.forall_mem_cons]
    exact ⟨atomic_setting _ _, atomic_reading _, atomic_setting _ _, atomic_reading _,
      List.forall_mem_nil _⟩

end CoreClasses

/-! ## Calls of core methods -/

namespace ClassDb

/-- The core classes are registered as they are; there may be others. -/
def HasCore (db : ClassDb) : Prop := ∀ c ∈ core.classes, db.class? c.1 = some c.2

/-- If a call from the class finds the method, then it finds that of a core class. -/
def FindsCore (db : ClassDb) (cls method : String) : Prop :=
  ∀ run, db.findMethod cls method db.classes.length (db.class? cls) = .ok run →
    ∃ c ∈ core.classes, ∃ m ∈ c.2.methods, m.2 = run

/-- A core class has no parent, or a core class. -/
theorem parent_core {c : String × ClassDef} (hc : c ∈ core.classes) :
    ∀ parent ∈ c.2.parent, ∃ p ∈ core.classes, p.1 = parent := by
  refine CoreClasses.core_classes
    (motive := fun _ k => ∀ parent ∈ k.parent, ∃ p ∈ core.classes, p.1 = parent) ?_ ?_ ?_ ?_ ?_ hc
  all_goals decide

/-- The way up from a core class goes through core classes. -/
theorem HasCore.findMethod {db : ClassDb} (has : db.HasCore) {cls method : String}
    {run : ObjectMethod} {fuel : Nat} {c : String × ClassDef} (hc : c ∈ core.classes)
    (found : db.findMethod cls method fuel (some c.2) = .ok run) :
    ∃ c ∈ core.classes, ∃ m ∈ c.2.methods, m.2 = run := by
  -- on the fuel: the parent of a core class is one, and the database has it as it is
  induction fuel generalizing c with
  | zero => cases found
  | succ fuel ih =>
    rw [ClassDb.findMethod] at found
    cases own : Keyed.get? method c.2.methods with
    | some run' =>
      rw [own] at found
      cases found
      exact ⟨c, hc, _, Keyed.mem_of_get? own, rfl⟩
    | none =>
      rw [own] at found
      cases named : c.2.parent with
      | none =>
        rw [above?, named] at found
        cases fuel <;> cases found
      | some parent =>
        obtain ⟨p, hp, rfl⟩ := parent_core hc parent named
        rw [above?, named, Option.bind_some, has p hp] at found
        exact ih hp found

/-- A call from a core class finds methods of core classes, whatever other classes there are. -/
theorem HasCore.findsCore {db : ClassDb} (has : db.HasCore) {cls : String}
    (known : cls ∈ core.classes.map Prod.fst) (method : String) : db.FindsCore cls method := by
  intro run found
  obtain ⟨c, hc, rfl⟩ := List.mem_map.mp known
  rw [has c hc] at found
  exact has.findMethod hc found

/-- Where there are no other classes, so does a call from any class. -/
theorem findsCore_of_classes {db : ClassDb} (classes : db.classes = core.classes)
    (cls method : String) : db.FindsCore cls method := by
  intro run found
  obtain ⟨c, hc, mem⟩ := method_of_found found
  exact ⟨c, classes ▸ hc, _, mem, rfl⟩

/-- An object that fails to answer with a core method stays what it was. -/
theorem FindsCore.response {db : ClassDb} {cls method : String} (finds : db.FindsCore cls method)
    {o : EngineObject} {args : List Variant} {e : HostError}
    (failed : (db.response o cls method args).1 = .error e) :
    (db.response o cls method args).2 = o := by
  unfold ClassDb.response at failed ⊢
  split at failed
  · rfl
  · rfl
  · split at failed
    · rfl
    next run found =>
      obtain ⟨c, hc, m, hm, rfl⟩ := finds run found
      exact CoreClasses.atomic_core hc m hm _ o args e failed

/-- What a call may do to a database, and what it may depend on. -/
structure Local (db : ClassDb) (id : ObjectId) (cls method : String) (args : List Variant) :
    Prop where
  /-- A call of a core method that fails changes nothing. -/
  refused : db.FindsCore cls method →
    ∀ e db', db.call id cls method args = (.error e, db') → db' = db
  /-- All methods are core methods when the core classes are the only ones. -/
  only_core : db.classes = core.classes → db.FindsCore cls method
  /-- With others registered, those of a core class and of the classes above it are. -/
  from_core : db.HasCore → cls ∈ core.classes.map Prod.fst → db.FindsCore cls method
  classes : (db.call id cls method args).2.classes = db.classes
  created : (db.call id cls method args).2.created = db.created
  listed : (db.call id cls method args).2.objects.map Prod.fst = db.objects.map Prod.fst
  /-- No other object changes. -/
  others : ∀ j, j ≠ id → (db.call id cls method args).2.object? j = db.object? j
  /-- The same object in another database with the same classes answers alike and becomes the same
  object. -/
  determined : ∀ (db' : ClassDb) (id' : ObjectId) (o : EngineObject), db'.classes = db.classes →
    db.object? id = some o → db'.object? id' = some o →
      (db'.call id' cls method args).1 = (db.call id cls method args).1 ∧
        (db'.call id' cls method args).2.object? id' = (db.call id cls method args).2.object? id
  /-- A call on another object can come before or after: the answers are the same, and so is the
  database that is left. -/
  commutes : ∀ (id' : ObjectId) (cls' method' : String) (args' : List Variant), id' ≠ id →
    ((db.call id' cls' method' args').2.call id cls method args).1 =
        (db.call id cls method args).1 ∧
      ((db.call id cls method args).2.call id' cls' method' args').1 =
        (db.call id' cls' method' args').1 ∧
      ((db.call id cls method args).2.call id' cls' method' args').2 =
        ((db.call id' cls' method' args').2.call id cls method args).2

/-- Calls stay within their object, whatever the database holds, from whatever class and with
whatever arguments; and where core methods fail, they have done nothing. -/
theorem calls_local (db : ClassDb) (id : ObjectId) (cls method : String) (args : List Variant) :
    Local db id cls method args := by
  refine
    { refused := fun finds e db' failed => ?_
      only_core := fun classes => findsCore_of_classes classes cls method
      from_core := fun has known => has.findsCore known method
      classes := classes_call db id cls method args
      created := (call_keys db id cls method args).1
      listed := (call_keys db id cls method args).2
      others := fun j other => object?_call_ne db id cls method args other
      determined := fun db' id' o same alive alive' => ⟨?_, ?_⟩
      commutes := fun id' cls' method' args' other => ⟨?_, ?_, ?_⟩ }
  -- a method that fails has left its object as it was, so putting it back changes nothing
  · cases alive : db.object? id with
    | none =>
      rw [call_dead alive] at failed
      cases failed
      rfl
    | some o =>
      rw [call_live alive] at failed
      obtain ⟨answer, rfl⟩ := Prod.mk.inj failed
      rw [finds.response answer, Keyed.put_present alive]
  · rw [answer_live alive, answer_live alive', response_congr same]
  · rw [object?_call_self db' id' cls method args alive', response_congr same,
      object?_call_self db id cls method args alive]
  · exact answer_after db cls' method' args' other.symm cls method args
  · exact answer_after db cls method args other cls' method' args'
  · exact call_comm db cls method args other cls' method' args'

end ClassDb

end ScriptBind
