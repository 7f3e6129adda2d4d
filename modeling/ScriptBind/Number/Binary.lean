/-!
# Binary floating-point words

Reads the bit pattern of a `Float` or a `Float32` as an exact number, so that rules about
numbers (integral or not, the part before the point, the decimal text) are decided in `Nat`
and `Int` arithmetic.

* `Layout.read` — a word is a NaN, an infinity, or `±significand · 2 ^ exponent`.
* `Binary.truncate` — the integer part, rounding toward zero.
* `Binary.isIntegral` — no fractional part.
* `truncate64`, `truncate32` — the integer part of a float cut to a range of integers: values
  outside it give the nearer end, and a NaN gives zero.
-/

namespace ScriptBind.Number

/-! ## Words -/

/-- The widths of the two fields below the sign bit. -/
structure Layout where
  fractionBits : Nat
  exponentBits : Nat
deriving DecidableEq

/-- The 64-bit format. -/
def binary64 : Layout := ⟨52, 11⟩

/-- The 32-bit format. -/
def binary32 : Layout := ⟨23, 8⟩

/-- The finite number `significand · 2 ^ exponent`, negated when `negative` is set. -/
structure Binary where
  negative : Bool
  significand : Nat
  exponent : Int
deriving DecidableEq

/-- What a word stands for. -/
inductive Reading where
  | notANumber
  | infinite (negative : Bool)
  | finite (value : Binary)
deriving DecidableEq

/-- The exponent of the smallest positive number of a layout. -/
def Layout.leastExponent (l : Layout) : Int :=
  2 - (Nat.pow 2 (l.exponentBits - 1) : Nat) - l.fractionBits

/-- Reads a word: an exponent field of all ones marks infinities and NaNs, one of all zeros the
numbers without a leading one. -/
def Layout.read (l : Layout) (word : Nat) : Reading :=
  let fraction := word % Nat.pow 2 l.fractionBits
  let field := word / Nat.pow 2 l.fractionBits % Nat.pow 2 l.exponentBits
  let negative := word / Nat.pow 2 (l.fractionBits + l.exponentBits) % 2 == 1
  if field = Nat.pow 2 l.exponentBits - 1 then
    if fraction = 0 then .infinite negative else .notANumber
  else if field = 0 then
    .finite ⟨negative, fraction, l.leastExponent⟩
  else
    .finite ⟨negative, Nat.pow 2 l.fractionBits + fraction, l.leastExponent + (field - 1 : Nat)⟩

/-- The reading of a 64-bit float. -/
def read64 (x : Float) : Reading := binary64.read x.toBits.toNat

/-- The reading of a 32-bit float. -/
def read32 (x : Float32) : Reading := binary32.read x.toBits.toNat

/-! ## Integer part -/

/-- The magnitude of the integer part. -/
def Binary.wholePart (b : Binary) : Nat :=
  if 0 ≤ b.exponent then b.significand * Nat.pow 2 b.exponent.toNat
  else b.significand / Nat.pow 2 (-b.exponent).toNat

/-- The integer part: rounding toward zero. -/
def Binary.truncate (b : Binary) : Int :=
  if b.negative then -(b.wholePart : Int) else b.wholePart

/-- Whether the number has no fractional part. -/
def Binary.isIntegral (b : Binary) : Bool :=
  0 ≤ b.exponent || b.significand % Nat.pow 2 (-b.exponent).toNat == 0

/-- `n` cut to the range from `low` to `high`. -/
def clamp (low high n : Int) : Int := max low (min high n)

/-- The integer part of a reading cut to a range; a NaN counts as zero. -/
def Reading.truncateWithin (low high : Int) : Reading → Int
  | .notANumber => 0
  | .infinite negative => if negative then low else high
  | .finite b => clamp low high b.truncate

/-- The integer a finite float without fractional part is equal to. -/
def integer64? (x : Float) : Option Int :=
  match read64 x with
  | .finite b => if b.isIntegral then some b.truncate else none
  | _ => none

/-- Whether a float is neither an infinity nor a NaN. -/
def isFinite64 (x : Float) : Bool :=
  match read64 x with
  | .finite _ => true
  | _ => false

/-- The integer part of a float as a 64-bit integer, the ends of the range standing for what lies
beyond them. -/
def truncate64 (x : Float) : Int64 :=
  .ofInt ((read64 x).truncateWithin Int64.minValue.toInt Int64.maxValue.toInt)

/-- The integer part of a 32-bit float as a 32-bit integer, the ends of the range standing for
what lies beyond them. -/
def truncate32 (x : Float32) : Int32 :=
  .ofInt ((read32 x).truncateWithin Int32.minValue.toInt Int32.maxValue.toInt)

/-- A 64-bit integer as the nearest float. -/
def ofInt64 (n : Int64) : Float := .ofInt n.toInt

/-- A 32-bit integer as the nearest 32-bit float. -/
def ofInt32 (n : Int32) : Float32 := .ofInt n.toInt

end ScriptBind.Number
