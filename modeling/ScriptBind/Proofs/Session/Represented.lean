import ScriptBind.Proofs.Session.ObjectCalls
import ScriptBind.Proofs.Session.RoundTrips

/-!
# Values that represent engine values

Where any value is declared, a script value stands for an engine value. Not all engine values come
back as what they are: integers come back as floats, and string names as strings. The others have
script values that represent them. These are what scripts can hand over to be kept, for what is
pushed later represents the same engine value, though a math value or an object is then carried by
another userdata.

Main results:

* `World.Represents.readBack`, `World.Represents.same` — what is represented, and by which values.
* `ScriptM.pushVariant_represents` — the push of a value that is no object.
-/

namespace ScriptBind

open ScriptM

namespace World

/-- A script value that represents an engine value. -/
inductive Represents (w : World) : Value → Variant → Prop
  | nil : Represents w .nil .nil
  | bool (b : Bool) : Represents w (.boolean b) (.bool b)
  | number (x : Float) : Represents w (.number x) (.float x)
  | string (s : String) : Represents w (.string s) (.string s)
  | math (T : MathType) {u : UserdataId} {v : Variant} (carried : w.CarriesValue u v)
      (tag : v.tag = T.tag) : Represents w (.userdata u) v
  | object {u : UserdataId} {id : ObjectId} (carried : w.CarriesObject u id) :
      Represents w (.userdata u) (.object id)

namespace Represents

variable {w z : World} {x y : Value} {v : Variant}

theorem means (represents : w.Represents x v) : w.Means x v := by
  cases represents with
  | nil => exact .nil
  | bool b => exact .bool b
  | number x => exact .float x
  | string s => exact .string s
  | math _ carried _ => exact .value carried
  | object carried => exact .object carried

/-- What is represented is read back as it is. -/
theorem readBack (represents : w.Represents x v) : v.readBack = v := by
  cases represents with
  | math T _ tag =>
    cases v with
    | int _ => cases T <;> cases tag
    | stringName _ => cases T <;> cases tag
    | _ => rfl
  | _ => rfl

/-- An engine value is represented by one value, or by userdata. -/
theorem same (first : w.Represents x v) (second : z.Represents y v) :
    y = x ∨ ∃ a b, x = .userdata a ∧ y = .userdata b := by
  -- what is represented by userdata is either a math value or an object, and never both
  cases first with
  | math T _ tag =>
    cases second with
    | math => exact .inr ⟨_, _, rfl, rfl⟩
    | object => exact .inr ⟨_, _, rfl, rfl⟩
    | _ => cases T <;> cases tag
  | object _ =>
    cases second with
    | math => exact .inr ⟨_, _, rfl, rfl⟩
    | object => exact .inr ⟨_, _, rfl, rfl⟩
  | _ =>
    cases second with
    | math T _ tag => cases T <;> cases tag
    | _ => exact .inl rfl

/-- It depends on the userdata, the metatables and their names alone. -/
theorem congr (represents : w.Represents x v) (userdata : z.userdata = w.userdata)
    (tables : z.tables = w.tables) (metatables : z.state.metatables = w.state.metatables) :
    z.Represents x v := by
  have held (u : UserdataId) : z.userdatum u = w.userdatum u := by
    rw [userdatum, userdatum, userdata]
  cases represents with
  | nil => exact .nil
  | bool b => exact .bool b
  | number x => exact .number x
  | string s => exact .string s
  | math T carried tag =>
    obtain ⟨payload, mt, named, tagged⟩ := carried
    have named : z.metatableNamed v.tag.name = some mt := by
      rw [metatableNamed, metatables]
      exact named
    exact .math T ⟨held _ ▸ payload, mt, named, held _ ▸ tagged⟩ tag
  | object carried =>
    obtain ⟨payload, mt, tagged, marked⟩ := carried
    have marked : z.isObjectMetatable mt = true := by
      rw [isObjectMetatable, table, tables]
      exact marked
    exact .object ⟨held _ ▸ payload, mt, held _ ▸ tagged, marked⟩

end Represents

end World

namespace ScriptM

variable {w : World}

/-! ## Pushing -/

/-- A value other than userdata has been pushed. -/
theorem gains_push (w : World) (x : Value) : w.Gains { w with state := w.state.push x } [x] :=
  ⟨rfl, rfl, rfl, rfl, fun _ _ known => known⟩

theorem gains_pushTagged (p : Payload) (mt : TableId) (w : World) :
    w.Gains (pushTagged p mt w).2 [.userdata ⟨w.userdata.size⟩] := by
  rw [run_pushTagged]
  exact ⟨rfl, rfl, rfl, rfl, fun _ _ known => getElem?_push_kept known _⟩

/-- A math value is pushed as a userdata that carries it. -/
theorem pushBuiltin_represents (framed : w.state.Framed) (T : MathType) {v : Variant}
    (tag : v.tag = T.tag) :
    ∃ y x, pushBuiltin v w = (.ok (), x) ∧ w.Gains x [y] ∧ x.Represents y v := by
  obtain ⟨mt, x, pushed, -, entry, registered, -⟩ := pushBuiltin_ok framed v
  refine ⟨.userdata ⟨w.userdata.size⟩, x, pushed, ?_, .math T (.of_entry entry registered) tag⟩
  unfold pushBuiltin at pushed
  rw [run_bind, run_instanceMetatable _ framed] at pushed
  -- the metatable is the registered one, or is registered before the push
  cases known : w.metatableNamed v.tag.name with
  | some old =>
    rw [known] at pushed
    have gains := gains_pushTagged (.variant v) old w
    rwa [show pushTagged (.variant v) old w = _ from pushed] at gains
  | none =>
    rw [known] at pushed
    have gains := gains_pushTagged (.variant v) ⟨w.tables.size⟩ (w.registering v.tag.name)
    rw [show pushTagged _ _ (w.registering v.tag.name) = _ from pushed] at gains
    exact ⟨gains.stack, gains.frames, gains.context, gains.hosts, gains.userdata⟩

/-- A value that is no object is pushed as a value that represents what is read back. -/
theorem pushVariant_represents (framed : w.state.Framed) {v : Variant}
    (plain : ∀ id, v ≠ .object id) :
    ∃ y x, pushVariant v w = (.ok (), x) ∧ w.Gains x [y] ∧ x.Represents y v.readBack := by
  cases v with
  | nil => exact ⟨_, _, rfl, gains_push w _, .nil⟩
  | bool b => exact ⟨_, _, rfl, gains_push w _, .bool b⟩
  | int n => exact ⟨_, _, rfl, gains_push w _, .number _⟩
  | float x => exact ⟨_, _, rfl, gains_push w _, .number x⟩
  | string s => exact ⟨_, _, rfl, gains_push w _, .string s⟩
  | stringName s => exact ⟨_, _, rfl, gains_push w _, .string s⟩
  | vector2 _ => exact pushBuiltin_represents framed .vector2 rfl
  | vector2i _ => exact pushBuiltin_represents framed .vector2i rfl
  | vector3 _ => exact pushBuiltin_represents framed .vector3 rfl
  | vector3i _ => exact pushBuiltin_represents framed .vector3i rfl
  | color _ => exact pushBuiltin_represents framed .color rfl
  | object id => exact absurd rfl (plain id)

end ScriptM

end ScriptBind
