import ScriptBind.Proofs.Host.Answers
import Mathlib.Data.Int.Order.Lemmas

/-!
# Fixed widths in the engine's math

The reference engine converts between integers and floats of several widths. A conversion cuts what
does not fit to the end of the range, and widening loses nothing, so neither of them fails. What can
fail is the magnitude of an integer, for the least one of 32 bits has none. A plane vector keeps such
a component as it is; a space vector with such a component has no magnitude.

Main results:

* `Math.definite_construct`, `definite_callStatic`, `definite_member`, `definite_answer` — requests
  about builtin values are answered or refused.
* `Math.magnitudes_within_width` — all of them but one, and what magnitudes are.
-/

namespace ScriptBind

/-- The engine says why it gives no answer. -/
def HostError.Refusal : HostError → Prop
  | overflow _ | endlessHierarchy _ => False
  | _ => True

/-- An answer or a refusal. -/
def Definite {α : Type} : Except HostError α → Prop
  | .ok _ => True
  | .error e => e.Refusal

section Definite

variable {α β : Type}

theorem Definite.ok (a : α) : Definite (.ok a) := True.intro

theorem Definite.bind {x : Except HostError α} {f : α → Except HostError β} (hx : Definite x)
    (hf : ∀ a, Definite (f a)) : Definite (x >>= f) := by
  cases x with
  | ok a => exact hf a
  | error e => exact hx

end Definite

/-- A magnitude is what it should be, unless it does not fit. -/
theorem toInt_abs_int32 (c : Int32) :
    c.abs.toInt = if c = Int32.minValue then c.toInt else c.toInt.natAbs := by
  rw [← Int32.toInt_toBitVec, ← Int32.toInt_toBitVec, Int32.toBitVec_abs]
  split
  next least =>
    subst least
    decide
  next other =>
    exact BitVec.toInt_abs_eq_natAbs_of_ne_intMin fun least => other (Int32.toBitVec_inj.mp least)

/-- The vector has a component without a magnitude. -/
def Vector3i.HasLeast (v : Vector3i) : Prop :=
  v.x = Int32.minValue ∨ v.y = Int32.minValue ∨ v.z = Int32.minValue

instance (v : Vector3i) : Decidable v.HasLeast := inferInstanceAs (Decidable (_ ∨ _ ∨ _))

namespace Math

/-! ## Answers and refusals -/

theorem definite_argument {α : Type} (expected : String) (view : Variant → Option α)
    (method : String) (args : List Variant) (index : Nat) :
    Definite (argument expected view method args index) := by
  unfold argument
  split
  · trivial
  · split
    · exact .ok _
    · trivial

/-- An answer that needs an argument. -/
theorem definite_of_argument {α : Type} {expected : String} {view : Variant → Option α}
    {method : String} {args : List Variant} {index : Nat} {f : α → Except HostError Variant}
    (hf : ∀ a, Definite (f a)) : Definite (argument expected view method args index >>= f) :=
  .bind (definite_argument expected view method args index) hf

theorem definite_construct (type : Tag) (index : UInt32) (args : List Variant) :
    Definite (construct type index args) := by
  unfold construct
  split
  case h_4 | h_8 => exact definite_of_argument fun _ => definite_of_argument fun _ => .ok _
  case h_12 | h_14 | h_17 =>
    exact definite_of_argument fun _ => definite_of_argument fun _ => definite_of_argument fun _ =>
      .ok _
  case h_18 =>
    exact definite_of_argument fun _ => definite_of_argument fun _ => definite_of_argument fun _ =>
      definite_of_argument fun _ => .ok _
  all_goals trivial

theorem definite_callStatic (type : Tag) (method : String) (args : List Variant) :
    Definite (callStatic type method args) := by
  unfold callStatic
  split
  · exact definite_of_argument fun _ => .ok _
  · refine definite_of_argument fun _ => definite_of_argument fun _ => definite_of_argument fun _ => ?_
    split
    · exact .ok _
    · exact definite_of_argument fun _ => .ok _
  · trivial

theorem definite_member (target : Variant) (name : String) : Definite (member target name) := by
  unfold member
  split <;> trivial

theorem answer_abs_vector3i (v : Vector3i) (args : List Variant) :
    answer (.vector3i v) "abs" args =
      if v.HasLeast then .error (.overflow "abs")
      else .ok (.vector3i ⟨v.x.abs, v.y.abs, v.z.abs⟩) := by
  have magnitude : v.abs? = if v.HasLeast then none else some ⟨v.x.abs, v.y.abs, v.z.abs⟩ := rfl
  by_cases least : v.HasLeast
  · rw [if_pos least] at magnitude ⊢
    simp only [answer, magnitude]
  · rw [if_neg least] at magnitude ⊢
    simp only [answer, magnitude]

/-- A method answers or refuses, but for the magnitude of a vector that has none. -/
theorem definite_answer (target : Variant) (method : String) (args : List Variant) :
    Definite (answer target method args) ∨
      ∃ v, target = .vector3i v ∧ method = "abs" ∧ v.HasLeast := by
  by_cases magnitude : ∃ v, target = .vector3i v ∧ method = "abs"
  · obtain ⟨v, rfl, rfl⟩ := magnitude
    rw [answer_abs_vector3i]
    split
    next least => exact .inr ⟨v, rfl, rfl, least⟩
    next => exact .inl (.ok _)
  · refine .inl ?_
    unfold answer
    split
    -- the magnitude of a space vector, and then the methods with one argument, with two, and a
    -- method with an optional one
    case h_8 v => exact absurd ⟨v, rfl, rfl⟩ magnitude
    case h_5 | h_11 | h_12 => exact definite_of_argument fun _ => .ok _
    case h_6 | h_14 => exact definite_of_argument fun _ => definite_of_argument fun _ => .ok _
    case h_15 =>
      split
      · exact .ok _
      · exact definite_of_argument fun _ => .ok _
    all_goals trivial

/-! ## Conversions -/

/-- What is cut to a range that has zero in it lies within the range. -/
theorem truncateWithin_bounds {low high : Int} (hlow : low ≤ 0) (hhigh : 0 ≤ high)
    (r : Number.Reading) : low ≤ r.truncateWithin low high ∧ r.truncateWithin low high ≤ high := by
  cases r with
  | notANumber => exact ⟨hlow, hhigh⟩
  | infinite negative => cases negative <;> simp [Number.Reading.truncateWithin] <;> omega
  | finite b =>
    simp only [Number.Reading.truncateWithin, Number.clamp]
    omega

/-- A float becomes the integer that it is cut to, which fits. -/
theorem toInt_truncate32 (x : Float32) :
    (Number.truncate32 x).toInt =
      (Number.read32 x).truncateWithin Int32.minValue.toInt Int32.maxValue.toInt := by
  obtain ⟨low, high⟩ :=
    @truncateWithin_bounds Int32.minValue.toInt Int32.maxValue.toInt (by decide) (by decide)
      (Number.read32 x)
  exact Int32.toInt_ofInt_of_le low (Int.lt_of_le_of_lt high (by decide))

/-- A channel of a colour fits in a byte. -/
theorem channelByte_le (x : Float32) : channelByte x ≤ 255 := by
  unfold channelByte channelByte.clampByte
  have bounds := fun y : Float32 =>
    (@truncateWithin_bounds 0 255 (by decide) (by decide) (Number.read32 y)).2
  exact Int.toNat_le.mpr (bounds _)

/-! ## All requests -/

/-- Requests about builtin values are answered or refused, all but the magnitude of a space vector
with the least integer among its components, which is the only computation that does not fit its
width. Otherwise both kinds of integer vectors have the same magnitudes, component by component; a
plane vector keeps the least integer. Conversions of floats cut what does not fit. -/
theorem magnitudes_within_width (target : Variant) (type : Tag) (index : UInt32) (name : String)
    (args : List Variant) :
    Definite (Engine.reference.construct type index args) ∧
    Definite (Engine.reference.callStatic type name args) ∧
    Definite (Engine.reference.member target name) ∧
    (Definite (Engine.reference.call target name args).1 ↔
      ¬ ∃ v, target = .vector3i v ∧ name = "abs" ∧ v.HasLeast) ∧
    (∀ v, (Engine.reference.call (.vector2i v) "abs" args).1 =
      .ok (.vector2i ⟨v.x.abs, v.y.abs⟩)) ∧
    (∀ v, (Engine.reference.call (.vector3i v) "abs" args).1 =
      if v.HasLeast then .error (.overflow "abs")
      else .ok (.vector3i ⟨v.x.abs, v.y.abs, v.z.abs⟩)) ∧
    (∀ c : Int32, c.abs.toInt = if c = Int32.minValue then c.toInt else c.toInt.natAbs) ∧
    (∀ x, (Number.truncate32 x).toInt =
      (Number.read32 x).truncateWithin Int32.minValue.toInt Int32.maxValue.toInt) ∧
    ∀ x, channelByte x ≤ 255 := by
  refine ⟨definite_construct type index args, definite_callStatic type name args,
    definite_member target name, ?_, fun _ => rfl, fun v => answer_abs_vector3i v args,
    toInt_abs_int32, toInt_truncate32, channelByte_le⟩
  -- the magnitude of a least integer is the only answer that overflows
  constructor
  · rintro definite ⟨v, rfl, rfl, least⟩
    have overflows := answer_abs_vector3i v args
    rw [if_pos least] at overflows
    rw [show (Engine.reference.call (.vector3i v) "abs" args).1 = _ from overflows] at definite
    exact definite
  · intro fits
    exact (definite_answer target name args).resolve_right fits

/-- The least integer is kept in a plane vector and refused by no cause that the engine knows in a
space vector. -/
theorem magnitude_beyond_width :
    let least := Int32.minValue
    (Engine.reference.call (.vector2i ⟨least, 0⟩) "abs" []).1 = .ok (.vector2i ⟨least, 0⟩) ∧
    (Engine.reference.call (.vector3i ⟨least, 0, 0⟩) "abs" []).1 = .error (.overflow "abs") ∧
    ¬ Definite (Engine.reference.call (.vector3i ⟨least, 0, 0⟩) "abs" []).1 := by
  have overflows := answer_abs_vector3i ⟨Int32.minValue, 0, 0⟩ []
  rw [if_pos (.inl rfl)] at overflows
  have called : (Engine.reference.call (.vector3i ⟨Int32.minValue, 0, 0⟩) "abs" []).1 = _ :=
    overflows
  refine ⟨by decide, called, ?_⟩
  rw [called]
  exact id

end Math

end ScriptBind
