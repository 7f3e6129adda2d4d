import ScriptBind.Proofs.Session.Requests

/-!
# What a script value is taken for

Arguments are taken by declared types, and a script value may count as values of several: numerals
are numbers, numbers are text, and a whole number is an integer. `World.Conveys` lists what a value
counts as, declared type by declared type, without the order in which the code tries things; the
check of an argument accepts exactly what is listed, and answers with exactly that value.

An object is looked up in the host only where the declared type names a class. Where any value is
accepted, an object is the number that the userdata carries, whether or not there still is such an
object.

Main results:

* `World.objectAt?_eq_some`, `World.builtinAt?_eq_some` — what userdata are read as.
* `ScriptM.checkArg_eq_ok` — an argument is accepted exactly as what it counts as.
* `ScriptM.conversion_exact` — what is accepted is of the declared type.
-/

namespace ScriptBind

/-- The class that the objects of a declared type are of, or derive from. -/
def ArgType.class? : ArgType → Option String
  | object cls => some cls
  | builtin .object => some Tag.object.name
  | _ => none

/-- Objects are declared by a class. -/
theorem ArgType.isSome_class?_iff {type : ArgType} :
    type.class?.isSome ↔ type.tag? = some .object := by
  cases type with
  | builtin t => cases t <;> decide
  | any => decide
  | object cls => exact ⟨fun _ => rfl, fun _ => rfl⟩
  | enumeration name => exact ⟨nofun, nofun⟩

theorem ClassDb.classOf_of_object? {db : ClassDb} {id : ObjectId} {o : EngineObject}
    (alive : db.object? id = some o) : db.classOf id = .ok o.cls := by
  unfold object? at alive
  rw [classOf, alive]

namespace World

/-! ## Userdata -/

/-- A userdata with an object metatable that carries an object. -/
structure CarriesObject (w : World) (u : UserdataId) (id : ObjectId) : Prop where
  payload : (w.userdatum u).payload = .object id
  marked : ∃ mt, (w.userdatum u).metatable = some mt ∧ w.isObjectMetatable mt = true

/-- A userdata with the metatable of a builtin type that carries a value of this type. -/
structure CarriesValue (w : World) (u : UserdataId) (v : Variant) : Prop where
  payload : (w.userdatum u).payload = .variant v
  registered : ∃ mt, w.metatableNamed v.tag.name = some mt ∧ (w.userdatum u).metatable = some mt

section Reading

variable {w : World} {index : Int}

theorem objectAt?_eq_some {id : ObjectId} :
    w.objectAt? index = some id ↔
      ∃ u, w.state.value? index = some (.userdata u) ∧ w.CarriesObject u id := by
  unfold objectAt?
  constructor
  · intro found
    obtain ⟨u, held, found⟩ := Option.bind_eq_some_iff.mp found
    obtain ⟨mt, tagged, found⟩ := Option.bind_eq_some_iff.mp found
    split at found
    next payload =>
      obtain ⟨marked, found⟩ := Option.ite_none_right_eq_some.mp found
      cases found
      exact ⟨u, State.toUserdata?_eq_some.mp held, payload, mt, tagged, marked⟩
    next => cases found
  · rintro ⟨u, held, payload, mt, tagged, marked⟩
    simp [State.toUserdata?_eq_some.mpr held, payload, tagged, marked]

theorem builtinAt?_eq_some {t : Tag} {v : Variant} :
    w.builtinAt? index t = some v ↔
      ∃ u, w.state.value? index = some (.userdata u) ∧ w.CarriesValue u v ∧ v.tag = t := by
  constructor
  · intro found
    have tag := ScriptM.tag_of_builtinAt? found
    subst tag
    obtain ⟨u, tested, found⟩ := Option.bind_eq_some_iff.mp found
    obtain ⟨held, registered⟩ := testUserdata?_eq_some.mp tested
    split at found
    next payload =>
      obtain ⟨-, found⟩ := Option.ite_none_right_eq_some.mp found
      cases found
      exact ⟨u, held, ⟨payload, registered⟩, rfl⟩
    next => cases found
  · rintro ⟨u, held, ⟨payload, registered⟩, rfl⟩
    have tested := testUserdata?_eq_some.mpr ⟨held, registered⟩
    simp [builtinAt?, tested, payload]

end Reading

/-! ## What a value counts as -/

/-- What a value counts as where any value is declared. Tables and functions count as nothing. -/
inductive Means (w : World) : Value → Variant → Prop
  | nil : Means w .nil .nil
  | bool (b : Bool) : Means w (.boolean b) (.bool b)
  | float (x : Float) : Means w (.number x) (.float x)
  | string (s : String) : Means w (.string s) (.string s)
  | object {u : UserdataId} {id : ObjectId} (carried : w.CarriesObject u id) :
      Means w (.userdata u) (.object id)
  | value {u : UserdataId} {v : Variant} (carried : w.CarriesValue u v) : Means w (.userdata u) v

/-- An object that exists in the host and whose class is, in the registry, the named one or derived
from it. -/
def HasInstance (w : World) (c : Context) (cls : String) (id : ObjectId) : Prop :=
  ∃ o, (w.host c.host).classes.object? id = some o ∧
    (w.registry c.registry).isSubclass o.cls cls = true

/-- What a value counts as where a class is declared: nil as no object. -/
inductive ConveysObject (w : World) (c : Context) (cls : String) : Value → Variant → Prop
  | none : ConveysObject w c cls .nil .nil
  | object {u : UserdataId} {id : ObjectId} (carried : w.CarriesObject u id)
      (known : w.HasInstance c cls id) : ConveysObject w c cls (.userdata u) (.object id)

/-- What a value counts as where a type is declared. -/
inductive Conveys (w : World) (c : Context) : ArgType → Value → Variant → Prop
  | any {x : Value} {v : Variant} (means : w.Means x v) : Conveys w c .any x v
  | nil : Conveys w c (.builtin .nil) .nil .nil
  | bool (b : Bool) : Conveys w c (.builtin .bool) (.boolean b) (.bool b)
  /-- A finite number without fraction, for integers and enums. -/
  | int {type : ArgType} (int : type.tag? = some .int) {x : Value} {n : Float} {b : Number.Binary}
      (number : x.asNumber = some n) (finite : Number.read64 n = .finite b)
      (whole : b.isIntegral = true) : Conveys w c type x (.int (Number.truncate64 n))
  | float {x : Value} {n : Float} (number : x.asNumber = some n) :
      Conveys w c (.builtin .float) x (.float n)
  | string {x : Value} {s : String} (text : x.asText = some s) :
      Conveys w c (.builtin .string) x (.string s)
  | stringName {x : Value} {s : String} (text : x.asText = some s) :
      Conveys w c (.builtin .stringName) x (.stringName s)
  | math (type : MathType) {u : UserdataId} {v : Variant} (carried : w.CarriesValue u v)
      (tag : v.tag = type.tag) : Conveys w c (.builtin type.tag) (.userdata u) v
  | object {type : ArgType} {cls : String} (declared : type.class? = some cls) {x : Value}
      {v : Variant} (conveys : w.ConveysObject c cls x v) : Conveys w c type x v

/-- Where a class is declared, only its objects count. -/
theorem conveys_class_iff {w : World} {c : Context} {type : ArgType} {cls : String}
    (declared : type.class? = some cls) {x : Value} {v : Variant} :
    w.Conveys c type x v ↔ w.ConveysObject c cls x v := by
  refine ⟨fun conveys => ?_, .object declared⟩
  have object := ArgType.isSome_class?_iff.mp (Option.isSome_of_eq_some declared)
  cases conveys with
  | object declared' conveys =>
    cases declared.symm.trans declared'
    exact conveys
  | int int => cases int.symm.trans object
  | math type => cases type <;> cases object
  | _ => cases object

namespace Conveys

variable {w : World} {c : Context} {type : ArgType} {x : Value} {v : Variant}

/-- A value counts as one of the declared type, or as no object. -/
theorem typed (conveys : w.Conveys c type x v) :
    (∀ tag, type.tag? = some tag → v.tag = tag) ∨ v = .nil ∧ x = .nil ∧ type.class?.isSome := by
  cases conveys with
  | any _ => exact .inl nofun
  | int int => exact .inl fun _ tag => Option.some.inj (int.symm.trans tag)
  | math type _ tag => exact .inl fun _ declared => tag.trans (Option.some.inj declared)
  | object declared conveys =>
    have class_ := Option.isSome_of_eq_some declared
    cases conveys with
    | none => exact .inr ⟨rfl, rfl, class_⟩
    | object _ _ =>
      have object := ArgType.isSome_class?_iff.mp class_
      exact .inl fun _ tag => Option.some.inj (object.symm.trans tag)
  | _ => exact .inl fun _ tag => Option.some.inj tag

/-- What counts as an object is carried by a userdata. -/
theorem carried {id : ObjectId} (conveys : w.Conveys c type x (.object id)) :
    ∃ u, x = .userdata u ∧ (w.CarriesObject u id ∨ w.CarriesValue u (.object id)) := by
  cases conveys with
  | any means =>
    cases means with
    | object carried => exact ⟨_, rfl, .inl carried⟩
    | value carried => exact ⟨_, rfl, .inr carried⟩
  | math type _ tag => cases type <;> cases tag
  | object _ conveys =>
    cases conveys with
    | object carried _ => exact ⟨_, rfl, .inl carried⟩

/-- Where a class is declared, what counts as an object is an instance of it. -/
theorem hasInstance {id : ObjectId} {cls : String} (declared : type.class? = some cls)
    (conveys : w.Conveys c type x (.object id)) : w.HasInstance c cls id := by
  cases (conveys_class_iff declared).mp conveys with
  | object _ known => exact known

end Conveys

end World

namespace ScriptM

variable {w : World} {c : Context} {index : Int} {x : Value}

/-! ## The check -/

theorem answer_demand {α : Type} {expected : String} {found : Option α} {a : α} :
    (demand index expected found w).1 = .ok a ↔ found = some a := by
  rw [run_demand]
  cases found with
  | some b => exact ⟨fun h => (by cases h; rfl), fun h => (by cases h; rfl)⟩
  | none => exact ⟨nofun, nofun⟩

/-- What the check of an object answers. -/
theorem answer_checkObject (cls : String) :
    (checkObject c index cls w).1 =
      if w.state.value? index = some .nil then .ok .nil
      else
        match w.objectAt? index with
        | none => .error (w.state.argError index cls)
        | some id =>
          match (w.host c.host).classes.classOf id with
          | .error e => .error (.host e)
          | .ok actual =>
            if (w.registry c.registry).isSubclass actual cls then .ok (.object id)
            else .error (w.state.argError index cls) := by
  unfold checkObject
  rw [run_bind, run_state]
  dsimp only
  split
  next => rfl
  next =>
    rw [run_bind, run_get]
    dsimp only
    rw [run_bind, run_demand]
    cases w.objectAt? index with
    | none => rfl
    | some id =>
      dsimp only
      rw [run_bind, run_askClassName]
      dsimp only
      cases (w.host c.host).classes.classOf id with
      | error e => rfl
      | ok actual =>
        -- the registry is the one from before the host was asked
        dsimp only [granted]
        rw [pure_bind, run_bind, run_registry]
        dsimp only
        have same : (w.asking [(c.host, .className id)]).registry c.registry =
          w.registry c.registry := rfl
        rw [same]
        cases (w.registry c.registry).isSubclass actual cls <;> rfl

section Slot

variable (slot : w.state.value? index = some x)
include slot

/-- Where a class is declared, nil is accepted, and an instance of the class. -/
theorem checkObject_eq_ok {cls : String} {v : Variant} :
    (checkObject c index cls w).1 = .ok v ↔ w.ConveysObject c cls x v := by
  rw [answer_checkObject]
  constructor
  · intro accepted
    -- nil is accepted first; what is not nil has to be a live object of the class
    split at accepted
    next held =>
      cases accepted
      cases slot.symm.trans held
      exact .none
    next =>
      split at accepted
      next => cases accepted
      next id found =>
        obtain ⟨u, held, carried⟩ := World.objectAt?_eq_some.mp found
        cases slot.symm.trans held
        split at accepted
        next => cases accepted
        next actual known =>
          obtain ⟨o, alive, rfl⟩ := ClassDb.exists_object known
          split at accepted
          next derives =>
            cases accepted
            exact .object carried ⟨o, alive, derives⟩
          next => cases accepted
  · intro conveys
    cases conveys with
    | none => rw [if_pos slot]
    | object carried known =>
      obtain ⟨o, alive, derives⟩ := known
      have other : ¬ w.state.value? index = some .nil := by
        rw [slot]
        nofun
      rw [if_neg other, World.objectAt?_eq_some.mpr ⟨_, slot, carried⟩]
      dsimp only
      rw [ClassDb.classOf_of_object? alive]
      exact if_pos derives

/-- Where any value is declared, everything counts but tables and functions. -/
theorem variantAt?_eq_some {v : Variant} : w.variantAt? index = some v ↔ w.Means x v := by
  unfold World.variantAt?
  rw [slot]
  cases x with
  | nil => exact ⟨fun h => (by cases h; exact .nil), fun h => (by cases h; rfl)⟩
  | boolean b => exact ⟨fun h => (by cases h; exact .bool b), fun h => (by cases h; rfl)⟩
  | number n => exact ⟨fun h => (by cases h; exact .float n), fun h => (by cases h; rfl)⟩
  | string s => exact ⟨fun h => (by cases h; exact .string s), fun h => (by cases h; rfl)⟩
  | table t => exact ⟨nofun, nofun⟩
  | function f => exact ⟨nofun, nofun⟩
  | userdata u =>
    -- an object is looked for first, and a value only if there is none
    cases object : w.objectAt? index with
    | some id =>
      obtain ⟨_, held, carried⟩ := World.objectAt?_eq_some.mp object
      cases slot.symm.trans held
      refine ⟨fun h => ?_, fun means => ?_⟩
      · cases h
        exact .object carried
      · -- the payload is an object, so it is no other value and no other object
        cases means with
        | object carried' => cases carried.payload.symm.trans carried'.payload; rfl
        | value carried' => cases carried.payload.symm.trans carried'.payload
    | none =>
      refine World.anyBuiltinAt?_eq_some.trans ⟨?_, fun means => ?_⟩
      · rintro ⟨_, tested, payload⟩
        obtain ⟨held, registered⟩ := World.testUserdata?_eq_some.mp tested
        cases slot.symm.trans held
        exact .value ⟨payload, registered⟩
      · cases means with
        | object carried => cases object.symm.trans (World.objectAt?_eq_some.mpr ⟨u, slot, carried⟩)
        | value carried =>
          exact ⟨u, World.testUserdata?_eq_some.mpr ⟨slot, carried.registered⟩, carried.payload⟩

theorem toNumber?_slot : w.state.toNumber? index = x.asNumber := by
  rw [State.toNumber?, slot, Option.bind_some]

theorem toText?_slot : w.state.toText? index = x.asText := by
  rw [State.toText?, slot, Option.bind_some]

theorem integerAt?_eq_some {k : Int64} :
    w.integerAt? index = some k ↔
      ∃ n b, x.asNumber = some n ∧ Number.read64 n = .finite b ∧ b.isIntegral = true ∧
        Number.truncate64 n = k := by
  unfold World.integerAt?
  rw [toNumber?_slot slot]
  -- whether there is an integer is asked of the number that is there, and then it is truncated
  have whole : ∀ n, (Number.integer64? n).isSome ↔
      ∃ b, Number.read64 n = .finite b ∧ b.isIntegral = true := by
    intro n
    unfold Number.integer64?
    cases Number.read64 n with
    | finite b => cases integral : b.isIntegral <;> simp [integral]
    | notANumber => simp
    | infinite negative => simp
  constructor
  · intro found
    obtain ⟨n, number, found⟩ := Option.bind_eq_some_iff.mp found
    obtain ⟨isWhole, found⟩ := Option.ite_none_right_eq_some.mp found
    obtain ⟨b, finite, integral⟩ := (whole n).mp isWhole
    exact ⟨n, b, number, finite, integral, Option.some.inj found⟩
  · rintro ⟨n, b, number, finite, integral, rfl⟩
    rw [number]
    exact if_pos ((whole n).mpr ⟨b, finite, integral⟩)

/-- Where a builtin type other than objects is declared, only its values count. -/
theorem builtinArg?_eq_some {t : Tag} (other : t ≠ .object) {v : Variant} :
    w.builtinArg? index t = some v ↔ w.Conveys c (.builtin t) x v := by
  constructor
  · intro found
    unfold World.builtinArg? at found
    -- one case for each type with values of its own in scripts, the last one for userdata
    split at found
    case h_1 =>
      obtain ⟨isNil, found⟩ := Option.ite_none_right_eq_some.mp found
      cases found
      rw [State.isNoneOrNil, State.valueOrNil, slot] at isNil
      cases x with
      | nil => exact .nil
      | _ => cases isNil
    case h_2 =>
      obtain ⟨b, isBool, rfl⟩ := Option.map_eq_some_iff.mp found
      rw [World.booleanAt?, slot] at isBool
      cases x with
      | boolean b' =>
        cases isBool
        exact .bool b
      | _ => cases isBool
    case h_3 =>
      obtain ⟨k, isInt, rfl⟩ := Option.map_eq_some_iff.mp found
      obtain ⟨n, b, number, finite, whole, rfl⟩ := (integerAt?_eq_some slot).mp isInt
      exact .int rfl number finite whole
    case h_4 =>
      obtain ⟨n, number, rfl⟩ := Option.map_eq_some_iff.mp found
      exact .float (toNumber?_slot slot ▸ number)
    case h_5 =>
      obtain ⟨s, text, rfl⟩ := Option.map_eq_some_iff.mp found
      exact .string (toText?_slot slot ▸ text)
    case h_6 =>
      obtain ⟨s, text, rfl⟩ := Option.map_eq_some_iff.mp found
      exact .stringName (toText?_slot slot ▸ text)
    case h_7 =>
      obtain ⟨u, held, carried, rfl⟩ := World.builtinAt?_eq_some.mp found
      cases slot.symm.trans held
      cases v with
      | vector2 _ => exact .math .vector2 carried rfl
      | vector2i _ => exact .math .vector2i carried rfl
      | vector3 _ => exact .math .vector3 carried rfl
      | vector3i _ => exact .math .vector3i carried rfl
      | color _ => exact .math .color carried rfl
      | object _ => exact absurd rfl other
      | _ => contradiction
  · intro conveys
    cases conveys with
    | nil => rw [World.builtinArg?, State.isNoneOrNil, State.valueOrNil, slot]; rfl
    | bool b => rw [World.builtinArg?, World.booleanAt?, slot]; rfl
    | int int number finite whole =>
      cases int
      rw [World.builtinArg?, (integerAt?_eq_some slot).mpr ⟨_, _, number, finite, whole, rfl⟩]
      rfl
    | float number => rw [World.builtinArg?, toNumber?_slot slot, number]; rfl
    | string text => rw [World.builtinArg?, toText?_slot slot, text]; rfl
    | stringName text => rw [World.builtinArg?, toText?_slot slot, text]; rfl
    | math type carried tag =>
      have read := World.builtinAt?_eq_some.mpr ⟨_, slot, carried, tag⟩
      cases type <;> exact read
    | object declared _ =>
      have object := ArgType.isSome_class?_iff.mp (Option.isSome_of_eq_some declared)
      exact absurd (Option.some.inj object) other

/-- An argument is accepted exactly as what it counts as. -/
theorem checkArg_eq_ok {type : ArgType} {v : Variant} :
    (checkArg c index type w).1 = .ok v ↔ w.Conveys c type x v := by
  unfold checkArg
  rw [run_bind, run_get]
  dsimp only
  -- what is declared decides how the value is read
  split
  case h_1 =>
    rw [answer_demand, variantAt?_eq_some slot]
    refine ⟨.any, fun conveys => ?_⟩
    cases conveys with
    | any means => exact means
    | int int => cases int
    | object declared => cases declared
  case h_2 name =>
    rw [answer_demand, Option.map_eq_some_iff]
    constructor
    · rintro ⟨k, isInt, rfl⟩
      obtain ⟨n, b, number, finite, whole, rfl⟩ := (integerAt?_eq_some slot).mp isInt
      exact .int rfl number finite whole
    · intro conveys
      cases conveys with
      | int _ number finite whole =>
        exact ⟨_, (integerAt?_eq_some slot).mpr ⟨_, _, number, finite, whole, rfl⟩, rfl⟩
      | object declared => cases declared
  case h_3 cls => rw [checkObject_eq_ok slot, World.conveys_class_iff rfl]
  case h_4 => rw [checkObject_eq_ok slot, World.conveys_class_iff rfl]
  case h_5 t other =>
    rw [answer_demand]
    exact builtinArg?_eq_some slot other

/-- An argument is accepted exactly as what its value counts as. That is a value of the declared
type, or nil where a class is declared and nothing is given. Where a class is declared, an object is
one that exists and is an instance of it; where anything goes, it is the one that the userdata
carries, whether it exists or not. -/
theorem conversion_exact (type : ArgType) (v : Variant) :
    ((checkArg c index type w).1 = .ok v ↔ w.Conveys c type x v) ∧
    ((checkArg c index type w).1 = .ok v →
      ((∀ tag, type.tag? = some tag → v.tag = tag) ∨
        v = .nil ∧ x = .nil ∧ type.class?.isSome) ∧
      ∀ id, v = .object id →
        (∀ cls, type.class? = some cls → w.HasInstance c cls id) ∧
        ∃ u, x = .userdata u ∧ (w.CarriesObject u id ∨ w.CarriesValue u (.object id))) := by
  refine ⟨checkArg_eq_ok slot, fun accepted => ?_⟩
  have conveys := (checkArg_eq_ok slot).mp accepted
  refine ⟨conveys.typed, ?_⟩
  rintro id rfl
  exact ⟨fun cls declared => conveys.hasInstance declared, conveys.carried⟩

end Slot

/-- A run that puts an object on the stack, in a state whose registry has one class. -/
def nodePushed : List Session.Event := [
  .command (.run (.install
    (.document "\x7b\"header\":\x7b\x7d,\"classes\":[\x7b\"name\":\"Node\"\x7d]\x7d")
    (.fresh .plain))),
  .command (.run (.hostNew 0 "Node")),
  .command (.run (.pushObject ⟨1⟩))]

theorem conversion_exact_node :
    let w := (Session.after nodePushed).world
    w.state.value? 1 = some (.userdata ⟨0⟩) ∧
      (checkArg ⟨0, 0⟩ 1 (.object "Node") w).1 = .ok (.object ⟨1⟩) ∧
      w.Conveys ⟨0, 0⟩ (.object "Node") (.userdata ⟨0⟩) (.object ⟨1⟩) ∧
      w.HasInstance ⟨0, 0⟩ "Node" ⟨1⟩ := by
  intro w
  obtain ⟨slot, accepted⟩ : w.state.value? 1 = some (.userdata ⟨0⟩) ∧
      (checkArg ⟨0, 0⟩ 1 (.object "Node") w).1 = .ok (.object ⟨1⟩) := by
    decide +kernel
  obtain ⟨exact_, sound⟩ := conversion_exact slot (.object "Node") (.object ⟨1⟩)
  exact ⟨slot, accepted, exact_.mp accepted, ((sound accepted).2 ⟨1⟩ rfl).1 "Node" rfl⟩

/-- When the object is freed, its userdata stays on the stack. It is refused where a class is
declared, and accepted where anything goes, although there is no such object. -/
theorem checkArg_freed :
    let w := (Session.after (nodePushed ++ [.command (.run (.hostFree 0 ⟨1⟩))])).world
    w.state.context = some ⟨0, 0⟩ ∧ w.state.value? 1 = some (.userdata ⟨0⟩) ∧
      (checkArg ⟨0, 0⟩ 1 (.object "Node") w).1 = .error (.host (.invalidObject 1)) ∧
      (checkArg ⟨0, 0⟩ 1 .any w).1 = .ok (.object ⟨1⟩) ∧
      ((w.host 0).classes.object? ⟨1⟩).isNone := by
  decide +kernel

end ScriptM

end ScriptBind
