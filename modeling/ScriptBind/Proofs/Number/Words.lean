import Mathlib
import ScriptBind.Proofs.Number.Value

/-!
# Floats that are packed and unpacked

Arithmetic on floats is defined on unpacked numbers, of a sign, a significand and an exponent, which
are rounded and packed into a word afterwards. A reading is what such a number looks like in its word
(`read64_eq`), and a number with a significand of full length is neither changed when it is rounded
nor when it is packed.

Main results:

* `read64_eq` — the reading of a float is that of the unpacked number.
* `Normal.round` — rounding leaves a number that fits as it is.
* `Normal.unpack_pack` — packing loses nothing of it.
-/

namespace ScriptBind.Number

open Float.Model (UnpackedFloat Format)
open Float.Model.UnpackedFloat

/-- Whether the sign is set. -/
def isNegative : Sign → Bool
  | .negative => true
  | .positive => false

/-- The reading of an unpacked number. -/
def Reading.ofUnpacked : UnpackedFloat → Reading
  | .notANumber => .notANumber
  | .infinity s => .infinite (isNegative s)
  | .zero s => .finite ⟨isNegative s, 0, binary64.leastExponent⟩
  | .finite s m e _ => .finite ⟨isNegative s, m, e⟩

/-! ## The fields of a word -/

section Fields

variable (b : BitVec Format.binary64.numBits)

theorem toNat_unpackMantissa :
    (@unpackMantissa .binary64 b).toNat = b.toNat % Nat.pow 2 52 := by
  simp [unpackMantissa]

theorem toNat_unpackExponent :
    (@unpackExponent .binary64 b).toNat = b.toNat / Nat.pow 2 52 % Nat.pow 2 11 := by
  simp [unpackExponent, Nat.shiftRight_eq_div_pow]

theorem toNat_unpackSign :
    (@unpackSign .binary64 b).toNat = b.toNat / Nat.pow 2 63 % 2 := by
  simp [unpackSign, Nat.shiftRight_eq_div_pow]

/-- The leading one of a normal number is not written down. -/
theorem toNat_implicit {n : Nat} (m : BitVec n) : (1#1 ++ m).toNat = Nat.pow 2 n + m.toNat := by
  rw [BitVec.toNat_append, ← Nat.shiftLeft_add_eq_or_of_lt m.isLt]
  simp [Nat.shiftLeft_eq]

/-- All bits of the exponent are set: the word is no number, or an infinite one. -/
theorem exponent_full_iff : @unpackExponent .binary64 b = -1#_ ↔
    b.toNat / Nat.pow 2 52 % Nat.pow 2 11 = Nat.pow 2 11 - 1 := by
  rw [← toNat_unpackExponent, ← BitVec.toNat_inj]
  rfl

/-- None of them is: the number is zero or subnormal. -/
theorem exponent_zero_iff : @unpackExponent .binary64 b = 0#_ ↔
    b.toNat / Nat.pow 2 52 % Nat.pow 2 11 = 0 := by
  rw [← toNat_unpackExponent, ← BitVec.toNat_inj]
  rfl

theorem mantissa_zero_iff :
    @unpackMantissa .binary64 b = 0#_ ↔ b.toNat % Nat.pow 2 52 = 0 := by
  rw [← toNat_unpackMantissa, ← BitVec.toNat_inj]
  rfl

end Fields

theorem isNegative_ofBitVec (v : BitVec 1) : isNegative (Sign.ofBitVec v) = (v.toNat == 1) := by
  revert v
  decide

/-- A word is read as it is unpacked. -/
theorem read_word (b : BitVec Format.binary64.numBits) :
    binary64.read b.toNat = .ofUnpacked (unpack .binary64 b) := by
  have negative : isNegative (Sign.ofBitVec (@unpackSign .binary64 b)) =
      (b.toNat / Nat.pow 2 63 % 2 == 1) := by
    rw [isNegative_ofBitVec, toNat_unpackSign]
  have full := exponent_full_iff b
  have none_ := exponent_zero_iff b
  have fraction := mantissa_zero_iff b
  have fields : binary64.read b.toNat =
      if b.toNat / Nat.pow 2 52 % Nat.pow 2 11 = Nat.pow 2 11 - 1 then
        if b.toNat % Nat.pow 2 52 = 0 then .infinite (b.toNat / Nat.pow 2 63 % 2 == 1)
        else .notANumber
      else if b.toNat / Nat.pow 2 52 % Nat.pow 2 11 = 0 then
        .finite ⟨b.toNat / Nat.pow 2 63 % 2 == 1, b.toNat % Nat.pow 2 52, binary64.leastExponent⟩
      else
        .finite ⟨b.toNat / Nat.pow 2 63 % 2 == 1, Nat.pow 2 52 + b.toNat % Nat.pow 2 52,
          binary64.leastExponent + ((b.toNat / Nat.pow 2 52 % Nat.pow 2 11 - 1 : ℕ) : ℤ)⟩ := rfl
  rw [fields]
  unfold unpack
  dsimp only
  -- both sides look at the exponent first, and at the fraction where it is full or zero
  by_cases top : b.toNat / Nat.pow 2 52 % Nat.pow 2 11 = Nat.pow 2 11 - 1
  · rw [if_pos top, if_pos (full.mpr top)]
    by_cases zero : b.toNat % Nat.pow 2 52 = 0
    · rw [if_pos zero, if_pos (fraction.mpr zero), Reading.ofUnpacked, negative]
    · rw [if_neg zero, if_neg fun h => zero (fraction.mp h)]
      rfl
  rw [if_neg top, if_neg fun h => top (full.mp h)]
  by_cases least : b.toNat / Nat.pow 2 52 % Nat.pow 2 11 = 0
  · rw [if_pos least, if_pos (none_.mpr least)]
    by_cases zero : b.toNat % Nat.pow 2 52 = 0
    · rw [dif_pos (fraction.mpr zero), Reading.ofUnpacked, negative, zero]
    · rw [dif_neg fun h => zero (fraction.mp h), Reading.ofUnpacked, negative,
        toNat_unpackMantissa, toNat_unpackExponent, least]
      rfl
  · rw [if_neg least, if_neg fun h => least (none_.mp h), Reading.ofUnpacked, negative,
      toNat_implicit, toNat_unpackMantissa, toNat_unpackExponent]
    have exponent : binary64.leastExponent +
        ((b.toNat / Nat.pow 2 52 % Nat.pow 2 11 - 1 : ℕ) : ℤ) =
          ((b.toNat / Nat.pow 2 52 % Nat.pow 2 11 : ℕ) : ℤ) -
            (Format.binary64.exponentBias + (52 : ℕ)) := by
      have bias : Format.binary64.exponentBias = 1023 := rfl
      have start : binary64.leastExponent = -1074 := rfl
      omega
    exact congrArg (fun e => Reading.finite ⟨_, _, e⟩) exponent

theorem read64_eq (x : Float) : read64 x = .ofUnpacked x.toModel.unpack :=
  read_word x.toBits.toBitVec

/-! ## Numbers with a significand of full length -/

/-- The significand has all its 53 binary digits, and the exponent is one that words have. -/
structure Normal (q : ℕ) (e : ℤ) : Prop where
  low : 2 ^ 52 ≤ q
  high : q < 2 ^ 53
  least : -1074 ≤ e
  most : e ≤ 971

namespace Normal

variable {q : ℕ} {e : ℤ} (normal : Normal q e)
include normal

theorem pos : 0 < q := Nat.lt_of_lt_of_le (Nat.two_pow_pos 52) normal.low

theorem log2_eq : q.log2 = 52 :=
  (Nat.log2_eq_iff normal.pos.ne').mpr ⟨normal.low, normal.high⟩

theorem log2_shifted (k : ℕ) : (q * 2 ^ k).log2 = 52 + k := by
  have positive : 0 < 2 ^ k := Nat.two_pow_pos k
  refine (Nat.log2_eq_iff (Nat.mul_pos normal.pos positive).ne').mpr ⟨?_, ?_⟩
  · rw [Nat.pow_add]
    exact Nat.mul_le_mul_right _ normal.low
  · rw [Nat.add_right_comm, Nat.pow_add]
    exact Nat.mul_lt_mul_of_pos_right normal.high positive

/-- However many zeros follow the digits, they are rounded to the exponent of the number. -/
theorem target (k : ℕ) :
    Format.binary64.targetExponent (Float.Model.totalExponent (q * 2 ^ k) (e - k)) = e := by
  have low := normal.least
  have least : Format.binary64.minExponent = -1074 := rfl
  have bits : Format.binary64.mantissaBits = 53 := rfl
  rw [Float.Model.totalExponent, normal.log2_shifted, Format.targetExponent, least, bits]
  omega

omit normal in
theorem shiftRight_zeros (m k : ℕ) :
    (⟨m * 2 ^ k, false, false⟩ : ExtendedMantissa) >>> k = ⟨m, false, false⟩ := by
  induction k generalizing m with
  | zero => exact congrArg (fun m => ExtendedMantissa.mk m false false) (Nat.mul_one m)
  | succ k ih =>
    have further : (⟨m * 2 ^ (k + 1), false, false⟩ : ExtendedMantissa) >>> (k + 1) =
        ((⟨m * 2 * 2 ^ k, false, false⟩ : ExtendedMantissa) >>> k).shiftRightOne := by
      rw [Nat.mul_assoc, ← Nat.pow_succ']
      rfl
    rw [further, ih]
    simp [ExtendedMantissa.shiftRightOne]

theorem shift (k : ℕ) :
    shiftToTargetExponent .binary64 (q * 2 ^ k) (e - k) .exact = (⟨q, false, false⟩, e) := by
  have steps : (e - (e - k)).toNat = k := by omega
  rw [shiftToTargetExponent, normal.target k, shiftToExponent, steps]
  refine Prod.ext (shiftRight_zeros q k) ?_
  show e - k + k = e
  omega

/-- A number that fits is rounded to itself. -/
theorem round (s : Sign) (k : ℕ) :
    roundWithAccuracy .binary64 s (q * 2 ^ k) (e - k) .exact = .finite s q e normal.pos := by
  have again : shiftToTargetExponent .binary64 q e .exact = (⟨q, false, false⟩, e) := by
    simpa using normal.shift 0
  unfold roundWithAccuracy
  rw [normal.shift k]
  dsimp only
  rw [show (⟨q, false, false⟩ : ExtendedMantissa).roundedMantissa = q from rfl, again]
  exact dif_neg normal.pos.ne'

/-- A number that fits is packed with its exponent and its digits after the leading one. -/
theorem pack_eq (s : Sign) :
    pack .binary64 (.finite s q e normal.pos) =
      packComponents .binary64 s (BitVec.ofNat 11 (e + 1075).toNat) (BitVec.ofNat 52 q) := by
  have low := normal.least
  have high := normal.most
  have bias : Format.binary64.exponentBias = 1023 := rfl
  have biased : (e + Format.binary64.exponentBias + (52 : ℕ)).toNat = (e + 1075).toNat := by
    rw [bias]
    omega
  unfold pack
  dsimp only
  rw [biased, normal.log2_eq, if_neg (by omega)]
  exact if_pos rfl

omit normal in
/-- A word whose exponent field is neither full nor zero stands for a number with a leading one. -/
theorem unpack_packComponents (s : Sign) {x : BitVec 11} {m : BitVec 52} (not_full : x ≠ -1#11)
    (not_zero : x ≠ 0#11) (pos : 0 < (1#1 ++ m).toNat) :
    unpack .binary64 (packComponents .binary64 s x m) =
      .finite s (1#1 ++ m).toNat (x.toNat - 1075) pos := by
  unfold unpack
  dsimp only
  simp only [unpackMantissa_packComponents, unpackExponent_packComponents,
    unpackSign_packComponents, Sign.ofBitVec_toBitVec]
  rw [if_neg not_full, if_neg not_zero]
  rfl

/-- A number that fits is the same after it has been packed. -/
theorem unpack_pack (s : Sign) :
    (Float.Model.pack (.finite s q e normal.pos)).unpack = .finite s q e normal.pos := by
  have low := normal.least
  have high := normal.most
  have first := normal.low
  have last := normal.high
  have field : (BitVec.ofNat 11 (e + 1075).toNat).toNat = (e + 1075).toNat := by
    rw [BitVec.toNat_ofNat, Nat.mod_eq_of_lt (by omega)]
  -- a normal exponent is neither of the two that mark other numbers
  have not_full : BitVec.ofNat 11 (e + 1075).toNat ≠ -1#11 := fun same => by
    have full : (e + 1075).toNat = 2047 := field.symm.trans (congrArg BitVec.toNat same)
    omega
  have not_zero : BitVec.ofNat 11 (e + 1075).toNat ≠ 0#11 := fun same => by
    have zero : (e + 1075).toNat = 0 := field.symm.trans (congrArg BitVec.toNat same)
    omega
  have digits : (1#1 ++ BitVec.ofNat 52 q).toNat = q := by
    rw [toNat_implicit, BitVec.toNat_ofNat, Nat.pow_eq]
    omega
  have unpacked := unpack_packComponents s not_full not_zero (digits.symm ▸ normal.pos)
  rw [← normal.pack_eq s, field] at unpacked
  refine unpacked.trans ?_
  congr 1
  omega

end Normal

end ScriptBind.Number
