import ScriptBind.Number.Binary

/-!
# Shortest decimals

The decimal with the fewest digits that reads back as a given float, and of those the one nearest
to it.

A float stands for every real that rounds to it: an interval around the number that reaches half
way to its neighbours, with both ends included exactly when the significand is even. A decimal
grid of `n` digits has a point in that interval iff one of the two grid points next to the number
lies in it, so the search compares two candidates per grid, from one digit upwards.

* `Decimal` — a number `digits · 10 ^ exponent`.
* `Interval` — the reals that round to a float, on a common binary scale.
* `shortest` — the decimal described above; a number half way between two equally short
  candidates takes the larger.
-/

namespace ScriptBind.Number

/-- The number `digits · 10 ^ exponent`. -/
structure Decimal where
  digits : Nat
  exponent : Int
deriving DecidableEq

/-! ## Rounding interval -/

/-- A positive number together with the reals that round to it. All three bounds are counted in
units of `2 ^ exponent`. -/
structure Interval where
  low : Nat
  value : Nat
  high : Nat
  exponent : Int
  closed : Bool

/-- The interval of a finite word. Below a power of two the neighbours lie twice as dense, so the
interval reaches only half as far down. -/
def Layout.interval (l : Layout) (b : Binary) : Interval :=
  let m := b.significand
  let boundary := m == Nat.pow 2 l.fractionBits
  { low := 4 * m - (if boundary then 1 else 2)
    value := 4 * m
    high := 4 * m + 2
    exponent := b.exponent - 2
    closed := m % 2 == 0 }

/-! ## Grids -/

/-- The number of decimal digits of `n`, which is zero for `n = 0`. -/
def decimalLength (n : Nat) : Nat :=
  if n = 0 then 0 else (Nat.toDigits 10 n).length

/-- The exponent of the leading decimal digit of the positive number `num / den`. -/
def leadingExponent (num den : Nat) : Int :=
  if den ≤ num then (decimalLength (num / den) : Int) - 1
  else -(decimalLength ((den + num - 1) / num - 1) : Int)

/-- A fraction `num / den` of natural numbers. -/
structure Ratio where
  num : Nat
  den : Nat

/-- `count · 2 ^ two / 10 ^ ten`. -/
def Ratio.scaled (count : Nat) (two ten : Int) : Ratio :=
  { num := count * Nat.pow 2 two.toNat * Nat.pow 10 (-ten).toNat
    den := Nat.pow 2 (-two).toNat * Nat.pow 10 ten.toNat }

/-- Whether the grid point `k · 10 ^ ten` lies in the interval. -/
def Interval.contains (i : Interval) (k : Nat) (ten : Int) : Bool :=
  let low := Ratio.scaled i.low i.exponent ten
  let high := Ratio.scaled i.high i.exponent ten
  if i.closed then low.num ≤ k * low.den && k * high.den ≤ high.num
  else low.num < k * low.den && k * high.den < high.num

/-- The point of the grid of multiples of `10 ^ ten` that stands for the interval's number: the
neighbour that lies in the interval, the nearer one if both do, and the upper one at equal
distance. -/
def Interval.gridPoint? (i : Interval) (ten : Int) : Option Nat :=
  let v := Ratio.scaled i.value i.exponent ten
  let below := v.num / v.den
  let above := if v.num % v.den = 0 then below else below + 1
  match i.contains below ten, i.contains above ten with
  | true, true => if 2 * (v.num % v.den) < v.den then some below else some above
  | true, false => some below
  | false, true => some above
  | false, false => none

/-- Searches the grids with `digits`, `digits + 1`, … digits, at most `fuel` of them. -/
def Interval.search (i : Interval) (leading : Int) : Nat → Nat → Decimal
  | 0, digits => ⟨i.value, leading - digits⟩
  | fuel + 1, digits =>
    let ten := leading - digits + 1
    match i.gridPoint? ten with
    | some k => ⟨k, ten⟩
    | none => i.search leading fuel (digits + 1)

/-! ## The shortest decimal -/

/-- Enough digits to tell any two floats of the layout apart. -/
def Layout.maxDigits (l : Layout) : Nat := (l.fractionBits + 1) * 3 / 10 + 2

/-- The shortest decimal that reads back as the magnitude of `b`. -/
def Layout.shortest (l : Layout) (b : Binary) : Decimal :=
  if b.significand = 0 then ⟨0, 0⟩
  else
    let i := l.interval b
    let v := Ratio.scaled i.value i.exponent 0
    i.search (leadingExponent v.num v.den) l.maxDigits 1

end ScriptBind.Number
