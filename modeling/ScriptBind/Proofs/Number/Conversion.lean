import ScriptBind.Proofs.Number.Words
import Mathlib.Tactic.Ring

/-!
# Integers as floats

An integer has a float of the same value exactly if its binary digits, without the zeros at the end,
are at most 53. A 64-bit integer of this kind is then converted to this float.

Main results:

* `is_ofInt` — a representable integer is converted to itself.
* `representable_of_is` — a float that is an integer is a representable one.
-/

namespace ScriptBind.Number

open Float.Model (UnpackedFloat Format)
open Float.Model.UnpackedFloat

/-- The digits of an integer fit into a significand, apart from zeros at the end. -/
def Representable (n : ℤ) : Prop := ∃ m t : ℕ, m < 2 ^ 53 ∧ n.natAbs = m * 2 ^ t

/-! ## From integers to floats -/

/-- A representable number, written with a significand of full length. -/
theorem exists_normal {n m t : ℕ} (pos : 0 < n) (small : n ≤ 2 ^ 63) (fits : m < 2 ^ 53)
    (digits : n = m * 2 ^ t) : ∃ q k : ℕ, Normal q (k - 53) ∧ n * 2 ^ 53 = q * 2 ^ k := by
  have m_pos : 0 < m := Nat.pos_of_mul_pos_right (digits ▸ pos)
  have log : m.log2 ≤ 52 := Nat.lt_succ_iff.mp ((Nat.log2_lt m_pos.ne').mpr fits)
  obtain ⟨j, rest⟩ := Nat.exists_eq_add_of_le log
  have low : 2 ^ 52 ≤ m * 2 ^ j := by
    rw [rest, Nat.pow_add]
    exact Nat.mul_le_mul_right _ (Nat.log2_self_le m_pos.ne')
  have high : m * 2 ^ j < 2 ^ 53 := by
    rw [show 53 = m.log2 + 1 + j by omega, Nat.pow_add]
    exact Nat.mul_lt_mul_of_pos_right Nat.lt_log2_self (Nat.two_pow_pos j)
  have same : n * 2 ^ 53 = m * 2 ^ j * 2 ^ (53 + t - j) := by
    rw [digits, Nat.mul_assoc, Nat.mul_assoc, ← Nat.pow_add, ← Nat.pow_add]
    congr 2
    omega
  refine ⟨m * 2 ^ j, 53 + t - j, ⟨low, high, by omega, ?_⟩, same⟩
  -- the number is not so large that its exponent would be out of range
  have bound : 2 ^ (52 + (53 + t - j)) ≤ 2 ^ 116 := by
    calc 2 ^ (52 + (53 + t - j)) = 2 ^ 52 * 2 ^ (53 + t - j) := Nat.pow_add ..
      _ ≤ m * 2 ^ j * 2 ^ (53 + t - j) := Nat.mul_le_mul_right _ low
      _ = n * 2 ^ 53 := same.symm
      _ ≤ 2 ^ 63 * 2 ^ 53 := Nat.mul_le_mul_right _ small
  have := (Nat.pow_le_pow_iff_right (by decide)).mp bound
  omega

section OfNat

/-- A number that may have too many digits for a significand is rounded as a multiple of a small
power of two. -/
theorem ofScientific_eq {n : ℕ} (pos : n ≠ 0) :
    ofScientific .binary64 n 0 =
      roundWithAccuracy .binary64 .positive (n * 2 ^ Format.binary64.mantissaBits)
        (-Format.binary64.mantissaBits) .exact := by
  have huge : ¬(0 : ℤ) > 2 ^ Format.binary64.exponentBits := by decide
  have tiny : ¬(0 : ℤ) < -((2 ^ Format.binary64.exponentBits : ℤ) + n.log2) := by
    have : (2 : ℤ) ^ Format.binary64.exponentBits = 2048 := rfl
    omega
  have shifted : n <<< Format.binary64.mantissaBits * 10 ^ (0 : ℤ).toNat =
      n * 2 ^ Format.binary64.mantissaBits := by
    rw [Nat.shiftLeft_eq, Int.toNat_zero, Nat.pow_zero, Nat.mul_one]
  unfold ofScientific mul
  rw [dif_neg pos, if_neg huge, if_neg tiny, if_pos (Int.le_refl 0)]
  dsimp only
  rw [shifted, Int.add_zero]
  rfl

variable {n q k : ℕ} (normal : Normal q (k - 53)) (digits : n * 2 ^ 53 = q * 2 ^ k)
include normal digits

theorem unpack_ofNat_large (large : 2 ^ 53 ≤ n) :
    (Float.ofNat n).toModel.unpack = .finite .positive q (k - 53) normal.pos := by
  have slow : ¬(n < 2 ^ 53 ∧ 0 ≤ 22) := fun fast => absurd fast.1 (Nat.not_lt.mpr large)
  have rounded : ofScientific .binary64 n 0 = .finite .positive q (k - 53) normal.pos := by
    have bits : Format.binary64.mantissaBits = 53 := rfl
    have exponent : -((53 : ℕ) : ℤ) = k - 53 - k := by omega
    rw [ofScientific_eq (by omega), bits, digits, exponent]
    exact normal.round .positive k
  have word : Float.ofNat n = .ofModel (.pack (ofScientific .binary64 n 0)) := dif_neg slow
  rw [word, rounded]
  exact normal.unpack_pack .positive

theorem pos_of_digits : 0 < n :=
  Nat.pos_of_mul_pos_right (digits ▸ Nat.mul_pos normal.pos (Nat.two_pow_pos k))

theorem log2_of_digits : n.log2 + 1 = k := by
  have scaled : 0 < 2 ^ 53 := Nat.two_pow_pos 53
  have low := normal.low
  have high := normal.high
  have k_pos : k ≠ 0 := fun zero => by
    subst zero
    omega
  obtain ⟨j, rfl⟩ := Nat.exists_eq_succ_of_ne_zero k_pos
  -- the significand lies between two powers of two, and so does the number it was scaled from
  have n_low : 2 ^ j ≤ n := Nat.le_of_mul_le_mul_right
    (calc 2 ^ j * 2 ^ 53 = 2 ^ 52 * 2 ^ (j + 1) := by ring
      _ ≤ q * 2 ^ (j + 1) := Nat.mul_le_mul_right _ low
      _ = n * 2 ^ 53 := digits.symm) scaled
  have n_high : n < 2 ^ (j + 1) := Nat.lt_of_mul_lt_mul_right
    (calc n * 2 ^ 53 = q * 2 ^ (j + 1) := digits
      _ < 2 ^ 53 * 2 ^ (j + 1) := Nat.mul_lt_mul_of_pos_right high (Nat.two_pow_pos _)
      _ = 2 ^ (j + 1) * 2 ^ 53 := Nat.mul_comm ..)
  exact congrArg (· + 1)
    ((Nat.log2_eq_iff (pos_of_digits normal digits).ne').mpr ⟨n_low, n_high⟩)

/-- The exponent of a number that is less than a significand is lowered until it is one. -/
theorem round_small (small : n < 2 ^ 53) :
    UnpackedFloat.round .binary64 .positive n 0 = .finite .positive q (k - 53) normal.pos := by
  have log := log2_of_digits normal digits
  have low := normal.least
  have k_small : k ≤ 53 := log ▸ (Nat.log2_lt (pos_of_digits normal digits).ne').mpr small
  obtain ⟨j, gap⟩ := Nat.exists_eq_add_of_le k_small
  have padded : n * 2 ^ j = q := Nat.eq_of_mul_eq_mul_right (Nat.two_pow_pos k)
    (by rw [Nat.mul_assoc, ← Nat.pow_add, Nat.add_comm j k, ← gap, digits])
  -- the exponent that the format asks for is the one of the significand
  have target : Format.binary64.targetExponent (Float.Model.totalExponent n 0) = k - 53 := by
    have least : Format.binary64.minExponent = -1074 := rfl
    have bits : Format.binary64.mantissaBits = 53 := rfl
    rw [Float.Model.totalExponent, Format.targetExponent, least, bits]
    omega
  have steps : (0 - ((k : ℤ) - 53)).toNat = j := by omega
  have exponent : (0 : ℤ) - j = k - 53 - (0 : ℕ) := by omega
  unfold UnpackedFloat.round decreaseExponent
  dsimp only
  rw [target, steps, Nat.shiftLeft_eq, padded, exponent]
  simpa using normal.round .positive 0

theorem unpack_toFloat (small : n < 2 ^ 53) :
    n.toUInt64.toFloat.toModel.unpack = .finite .positive q (k - 53) normal.pos := by
  have word : n.toUInt64.toFloat.toModel =
    .pack (UnpackedFloat.ofUInt64 .binary64 n.toUInt64) := rfl
  have whole : n.toUInt64.toNat = n := by
    rw [Nat.toUInt64, UInt64.toNat_ofNat', Nat.mod_eq_of_lt (by omega)]
  have above : compare (n : ℤ) 0 = .gt :=
    Int.compare_eq_gt.mpr (Int.natCast_pos.mpr (pos_of_digits normal digits))
  rw [word, UnpackedFloat.ofUInt64, UnpackedFloat.ofNat, UnpackedFloat.ofInt, whole,
    UnpackedFloat.normalize, above]
  dsimp only
  rw [Int.toNat_natCast, round_small normal digits small]
  exact normal.unpack_pack .positive

/-- A number that is less than a significand is converted and then multiplied by one. -/
theorem unpack_ofNat_small (small : n < 2 ^ 53) :
    (Float.ofNat n).toModel.unpack = .finite .positive q (k - 53) normal.pos := by
  have fast : n < 2 ^ 53 ∧ 0 ≤ 22 := ⟨small, Nat.zero_le _⟩
  have word : Float.ofNat n = n.toUInt64.toFloat * Float.exactlyRepresentablePowersOfTen[0] :=
    dif_pos fast
  have one : (Float.exactlyRepresentablePowersOfTen[0] : Float).toModel.unpack =
    .finite .positive (2 ^ 52) (-52) (by decide) := rfl
  have product : (Float.ofNat n).toModel = .pack (UnpackedFloat.mul .binary64
      n.toUInt64.toFloat.toModel.unpack
      (Float.exactlyRepresentablePowersOfTen[0] : Float).toModel.unpack) := by
    rw [word]
    rfl
  -- the product is as exact as its first factor, since the second one is a power of two
  have exponent : (k : ℤ) - 53 + -52 = k - 53 - (52 : ℕ) := by omega
  have rounded : UnpackedFloat.mul .binary64 (.finite .positive q (k - 53) normal.pos)
      (.finite .positive (2 ^ 52) (-52) (by decide)) = .finite .positive q (k - 53) normal.pos := by
    unfold mul
    dsimp only
    rw [exponent]
    exact normal.round .positive 52
  rw [product, unpack_toFloat normal digits small, one, rounded]
  exact normal.unpack_pack .positive

theorem unpack_ofNat : (Float.ofNat n).toModel.unpack = .finite .positive q (k - 53) normal.pos :=
  (Nat.lt_or_ge n (2 ^ 53)).elim (unpack_ofNat_small normal digits)
    (unpack_ofNat_large normal digits)

theorem unpack_neg_ofNat :
    (Float.ofNat n).neg.toModel.unpack = .finite .negative q (k - 53) normal.pos := by
  have word : (Float.ofNat n).neg.toModel = .pack (Float.ofNat n).toModel.unpack.neg := rfl
  rw [word, unpack_ofNat normal digits]
  exact normal.unpack_pack .negative

omit normal in
theorem magnitude_of_digits {negative : Bool} : Binary.magnitude ⟨negative, q, k - 53⟩ = n := by
  have digits : (n * 2 ^ 53 : ℚ) = q * 2 ^ k := mod_cast digits
  rw [Binary.magnitude, zpow_sub₀ two_ne_zero, zpow_natCast, ← mul_div_assoc, ← digits]
  exact mul_div_cancel_right₀ _ (by positivity)

end OfNat

/-- A representable integer is converted to itself. -/
theorem is_ofInt {n : ℤ} (small : n.natAbs ≤ 2 ^ 63) (representable : Representable n) :
    Is (.ofInt n) n := by
  obtain ⟨m, t, fits, digits⟩ := representable
  -- zero has no leading digit, and a negative number is converted by its opposite
  match n with
  | .ofNat 0 => exact ⟨⟨false, 0, -1074⟩, rfl, by simp [Binary.value, Binary.magnitude]⟩
  | .ofNat (n + 1) =>
    obtain ⟨q, k, normal, same⟩ := exists_normal n.succ_pos small fits digits
    have unpacked := unpack_ofNat normal same
    refine ⟨⟨false, q, k - 53⟩, ?_, magnitude_of_digits same⟩
    rw [read64_eq]
    exact congrArg Reading.ofUnpacked unpacked
  | .negSucc n =>
    obtain ⟨q, k, normal, same⟩ := exists_normal n.succ_pos small fits digits
    have unpacked := unpack_neg_ofNat normal same
    refine ⟨⟨true, q, k - 53⟩, ?_, ?_⟩
    · rw [read64_eq]
      exact congrArg Reading.ofUnpacked unpacked
    · show -Binary.magnitude _ = _
      rw [magnitude_of_digits same, Int.cast_negSucc]

/-! ## From floats to integers -/

/-- A significand is a leading one and the digits of the fraction at most. -/
theorem Layout.significand_lt {l : Layout} {word : ℕ} {b : Binary}
    (read : l.read word = .finite b) : b.significand < 2 * Nat.pow 2 l.fractionBits := by
  have fraction : word % Nat.pow 2 l.fractionBits < Nat.pow 2 l.fractionBits :=
    Nat.mod_lt _ (Nat.two_pow_pos l.fractionBits)
  unfold Layout.read at read
  dsimp only at read
  split at read
  · split at read <;> cases read
  · split at read
    all_goals
      cases read
      dsimp only
      omega

/-- A float that is an integer is a representable one. -/
theorem representable_of_is {x : Float} {n : ℤ} (is : Is x n) : Representable n := by
  obtain ⟨b, read, value⟩ := is
  have fits : b.significand < 2 ^ 53 := Layout.significand_lt read
  have whole : n.natAbs = b.wholePart := by
    rw [← Binary.truncate_of_value value, Binary.truncate]
    split <;> simp
  rw [Binary.wholePart] at whole
  split at whole
  next => exact ⟨_, _, fits, whole⟩
  next =>
    have less : n.natAbs < 2 ^ 53 := whole ▸ Nat.lt_of_le_of_lt (Nat.div_le_self ..) fits
    exact ⟨n.natAbs, 0, less, (Nat.mul_one _).symm⟩

end ScriptBind.Number
