import Mathlib.Algebra.Order.Field.Power
import Mathlib.Algebra.Order.Floor.Semifield
import Mathlib.Data.Rat.Floor
import ScriptBind.Number.Binary

/-!
# The value of a floating-point word

A finite word stands for a rational number, `Binary.value`. The rules about integral numbers and
integer parts, which are decided on the significand and the exponent, are rules about this number.

Main results:

* `Binary.isIntegral_iff`, `Binary.truncate_eq` — integral numbers and integer parts.
* `integer64?_isSome_iff`, `truncate64_eq` — the same for floats.
-/

namespace ScriptBind.Number

/-- The absolute value. -/
def Binary.magnitude (b : Binary) : ℚ := b.significand * 2 ^ b.exponent

/-- The number that is meant. -/
def Binary.value (b : Binary) : ℚ := if b.negative then -b.magnitude else b.magnitude

/-- The integer part of a number: rounding toward zero. -/
def towardZero (q : ℚ) : ℤ := if 0 ≤ q then ⌊q⌋ else ⌈q⌉

/-- An integer cut to the range of 64-bit integers. -/
def cut64 (n : ℤ) : ℤ := clamp Int64.minValue.toInt Int64.maxValue.toInt n

theorem towardZero_intCast (n : ℤ) : towardZero n = n := by
  unfold towardZero
  split
  · exact Int.floor_intCast n
  · exact Int.ceil_intCast n

/-! ## Numbers -/

namespace Binary

variable {b : Binary}

theorem magnitude_nonneg : 0 ≤ b.magnitude := by
  unfold magnitude
  positivity

/-- A number whose exponent is not negative is a natural number. -/
theorem magnitude_of_nonneg (nonneg : 0 ≤ b.exponent) :
    b.magnitude = ((b.significand * Nat.pow 2 b.exponent.toNat : ℕ) : ℚ) := by
  obtain ⟨k, exponent⟩ := Int.eq_ofNat_of_zero_le nonneg
  rw [magnitude, exponent, zpow_natCast, Int.toNat_natCast, Nat.pow_eq]
  push_cast
  rfl

/-- Any other one is a fraction. -/
theorem magnitude_of_neg (negative : b.exponent < 0) :
    b.magnitude = (b.significand : ℚ) / (Nat.pow 2 (-b.exponent).toNat : ℕ) := by
  obtain ⟨k, exponent⟩ := Int.eq_ofNat_of_zero_le (Int.neg_nonneg.mpr negative.le)
  have exponent : b.exponent = -k := by omega
  rw [magnitude, exponent, zpow_neg, zpow_natCast, neg_neg, Int.toNat_natCast, div_eq_mul_inv,
    Nat.pow_eq]
  push_cast
  rfl

theorem wholePart_eq : (b.wholePart : ℤ) = ⌊b.magnitude⌋ := by
  unfold wholePart
  split
  next nonneg => rw [magnitude_of_nonneg nonneg, Int.floor_natCast]
  next negative =>
    rw [magnitude_of_neg (not_le.mp negative), Rat.floor_natCast_div_natCast]
    exact Int.natCast_ediv ..

theorem truncate_eq : b.truncate = towardZero b.value := by
  have nonneg := b.magnitude_nonneg
  unfold truncate value towardZero
  cases b.negative with
  | false => simp [wholePart_eq, nonneg]
  | true =>
    rcases nonneg.eq_or_lt with zero | positive
    · simp [wholePart_eq, ← zero]
    · simp [wholePart_eq, positive, Int.ceil_neg]

/-- Whether the sign is set makes no difference. -/
theorem value_integral_iff : (∃ n : ℤ, b.value = n) ↔ ∃ n : ℕ, b.magnitude = n := by
  -- a magnitude is not negative, so it is an integer only as a natural number
  have natural : (∃ n : ℕ, b.magnitude = n) ↔ ∃ n : ℤ, b.magnitude = n := by
    constructor
    · rintro ⟨n, is⟩
      exact ⟨n, by rw [is, Int.cast_natCast]⟩
    · rintro ⟨n, is⟩
      have nonneg : 0 ≤ n := Int.cast_nonneg_iff.mp (is ▸ b.magnitude_nonneg)
      obtain ⟨k, rfl⟩ := Int.eq_ofNat_of_zero_le nonneg
      exact ⟨k, by rw [is, Int.cast_natCast]⟩
  rw [natural, value]
  cases b.negative with
  | false => rfl
  | true =>
    constructor
    all_goals
      rintro ⟨n, is⟩
      refine ⟨-n, ?_⟩
      rw [Int.cast_neg, ← is]
      simp

theorem isIntegral_iff : b.isIntegral = true ↔ ∃ n : ℤ, b.value = n := by
  rw [value_integral_iff, isIntegral, Bool.or_eq_true, decide_eq_true_eq, beq_iff_eq]
  by_cases nonneg : 0 ≤ b.exponent
  · exact ⟨fun _ => ⟨_, magnitude_of_nonneg nonneg⟩, fun _ => .inl nonneg⟩
  · have positive : ((Nat.pow 2 (-b.exponent).toNat : ℕ) : ℚ) ≠ 0 :=
      Nat.cast_ne_zero.mpr (Nat.two_pow_pos _).ne'
    rw [magnitude_of_neg (not_le.mp nonneg), or_iff_right nonneg, ← Nat.dvd_iff_mod_eq_zero]
    constructor
    · rintro ⟨n, is⟩
      exact ⟨n, by rw [is, Nat.cast_mul, mul_div_cancel_left₀ _ positive]⟩
    · rintro ⟨n, is⟩
      rw [div_eq_iff positive, ← Nat.cast_mul, Nat.cast_inj] at is
      exact ⟨n, is.trans (mul_comm _ _)⟩

/-- The integer part of an integral number is this number. -/
theorem truncate_of_value {n : ℤ} (is : b.value = n) : b.truncate = n := by
  rw [truncate_eq, is, towardZero_intCast]

end Binary

/-! ## Floats -/

/-- A float is a finite number. -/
def Is (x : Float) (q : ℚ) : Prop := ∃ b, read64 x = .finite b ∧ b.value = q

variable {x : Float} {q : ℚ}

theorem Is.unique {r : ℚ} (first : Is x q) (second : Is x r) : q = r := by
  obtain ⟨b, read, rfl⟩ := first
  obtain ⟨b', read', rfl⟩ := second
  cases read.symm.trans read'
  rfl

theorem isFinite64_iff : isFinite64 x = true ↔ ∃ q, Is x q := by
  unfold isFinite64 Is
  cases read64 x with
  | finite b => exact ⟨fun _ => ⟨_, b, rfl, rfl⟩, fun _ => rfl⟩
  | notANumber => exact ⟨nofun, fun ⟨_, _, other, _⟩ => nomatch other⟩
  | infinite negative => exact ⟨nofun, fun ⟨_, _, other, _⟩ => nomatch other⟩

/-- A float counts as an integer exactly if it is one. -/
theorem integer64?_eq_some {n : ℤ} : integer64? x = some n ↔ Is x n := by
  unfold integer64? Is
  cases read64 x with
  | finite b =>
    dsimp only
    constructor
    · intro found
      obtain ⟨integral, found⟩ := Option.ite_none_right_eq_some.mp found
      cases found
      obtain ⟨n, is⟩ := Binary.isIntegral_iff.mp integral
      exact ⟨b, rfl, by rw [Binary.truncate_of_value is, is]⟩
    · rintro ⟨_, ⟨⟩, is⟩
      -- an integer is what is left when it is truncated
      rw [if_pos (Binary.isIntegral_iff.mpr ⟨n, is⟩), Binary.truncate_of_value is]
  | notANumber => exact ⟨nofun, fun ⟨_, other, _⟩ => nomatch other⟩
  | infinite negative => exact ⟨nofun, fun ⟨_, other, _⟩ => nomatch other⟩

theorem isSome_integer64?_iff : (integer64? x).isSome = true ↔ ∃ n : ℤ, Is x n := by
  simp only [Option.isSome_iff_exists, integer64?_eq_some]

theorem cut64_bounds (n : ℤ) : -2 ^ 63 ≤ cut64 n ∧ cut64 n < 2 ^ 63 := by
  have low : Int64.minValue.toInt = -2 ^ 63 := rfl
  have high : Int64.maxValue.toInt = 2 ^ 63 - 1 := rfl
  unfold cut64 clamp
  omega

/-- Within the range nothing is cut off. -/
theorem cut64_eq_self_iff {n : ℤ} : cut64 n = n ↔ -2 ^ 63 ≤ n ∧ n < 2 ^ 63 := by
  have low : Int64.minValue.toInt = -2 ^ 63 := rfl
  have high : Int64.maxValue.toInt = 2 ^ 63 - 1 := rfl
  unfold cut64 clamp
  omega

/-- The integer part of a float is cut to 64 bits. -/
theorem truncate64_eq (is : Is x q) : (truncate64 x).toInt = cut64 (towardZero q) := by
  obtain ⟨b, read, rfl⟩ := is
  have cut : truncate64 x = .ofInt (cut64 b.truncate) := by
    rw [truncate64, read]
    rfl
  obtain ⟨low, high⟩ := cut64_bounds b.truncate
  rw [cut, Int64.toInt_ofInt_of_le low high, Binary.truncate_eq]

end ScriptBind.Number
