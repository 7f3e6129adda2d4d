import ScriptBind.Number.Shortest
import ScriptBind.Number.Integer
import ScriptBind.Text.Blank

/-!
# Number text

How numbers are written and read.

* `show64`, `show32` — the shortest decimal that reads back, always in positional notation and
  without a fraction when there is none; `NaN`, `inf` and `-inf` for the rest, and a minus sign
  before negative zero.
* `display` — the text scripts print: numbers without a fractional part below `10 ^ 15` as plain
  integers, so negative zero is `0`.
* `parse?` — the number a text spells: blanks at both ends, an optional sign, and digits with an
  optional point and decimal exponent, or a name of an infinity or NaN in any case.
-/

namespace ScriptBind.Number

/-! ## Writing -/

/-- A decimal in positional notation. -/
def Decimal.positional (d : Decimal) : String :=
  let digits := Nat.toDigits 10 d.digits
  if 0 ≤ d.exponent then String.ofList (digits ++ List.replicate d.exponent.toNat '0')
  else
    let places := (-d.exponent).toNat
    let padded := List.replicate (places + 1 - digits.length) '0' ++ digits
    let split := padded.length - places
    String.ofList (padded.take split ++ '.' :: padded.drop split)

/-- Removes the zeros at the end of the digits, moving them into the exponent; `fuel` bounds the
number of zeros. -/
def Decimal.stripZeros : Nat → Decimal → Decimal
  | 0, d => d
  | fuel + 1, d =>
    if d.digits ≠ 0 ∧ d.digits % 10 = 0 then
      Decimal.stripZeros fuel ⟨d.digits / 10, d.exponent + 1⟩
    else d

/-- The text of a word's reading in the given layout. -/
def Reading.text (l : Layout) : Reading → String
  | .notANumber => "NaN"
  | .infinite negative => if negative then "-inf" else "inf"
  | .finite b =>
    (if b.negative then "-" else "") ++ ((l.shortest b).stripZeros l.maxDigits).positional

/-- The shortest text of a 64-bit float. -/
def show64 (x : Float) : String := (read64 x).text binary64

/-- The shortest text of a 32-bit float. -/
def show32 (x : Float32) : String := (read32 x).text binary32

/-- The text scripts print for a number. -/
def display (x : Float) : String :=
  match integer64? x with
  | some n => if n.natAbs < Nat.pow 10 15 then intText n else show64 x
  | none => show64 x

/-! ## Reading -/

/-- A leading sign, and the rest: `true` for a minus. -/
def takeSign : List Char → Bool × List Char
  | '-' :: rest => (true, rest)
  | '+' :: rest => (false, rest)
  | cs => (false, cs)

/-- An exponent part: nothing, or `e` with an optional sign and at least one digit. -/
def exponentPart? : List Char → Option Int
  | [] => some 0
  | c :: rest =>
    if c = 'e' ∨ c = 'E' then
      let (negative, digits) := takeSign rest
      if digits.isEmpty || !digits.all Char.isDigit then none
      else some (if negative then -(digitsValue digits : Int) else digitsValue digits)
    else none

/-- Digits with an optional point among or around them and an optional exponent, as an integer
and a power of ten. -/
def decimal? (cs : List Char) : Option (Nat × Int) :=
  let whole := cs.takeWhile Char.isDigit
  let rest := cs.dropWhile Char.isDigit
  let (fraction, rest) :=
    match rest with
    | '.' :: rest => (rest.takeWhile Char.isDigit, rest.dropWhile Char.isDigit)
    | rest => ([], rest)
  if whole.isEmpty && fraction.isEmpty then none
  else (exponentPart? rest).map fun e => (digitsValue (whole ++ fraction), e - fraction.length)

/-- The float nearest to `m · 10 ^ e`. What is far beyond the largest float is infinite and what
is far below the smallest one is zero, whatever the size of the exponent. -/
def nearest (m : Nat) (e : Int) : Float :=
  let leading := decimalLength m + e
  if m = 0 ∨ leading < -400 then 0
  else if 400 < leading then .ofBits 0x7FF0000000000000
  else .ofScientific m (e < 0) e.natAbs

/-- An unsigned number. -/
def unsigned? (cs : List Char) : Option Float :=
  let lower := cs.map Char.toLower
  if lower = "inf".toList ∨ lower = "infinity".toList then some (.ofBits 0x7FF0000000000000)
  else if lower = "nan".toList then some (.ofBits 0x7FF8000000000000)
  else (decimal? cs).map fun d => nearest d.1 d.2

/-- The number that a text spells. -/
def parse? (s : String) : Option Float :=
  let (negative, cs) := takeSign (Text.trim s.toList)
  (unsigned? cs).map fun x => if negative then -x else x

end ScriptBind.Number
