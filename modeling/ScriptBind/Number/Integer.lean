/-!
# Integer text

* `natText`, `intText` — decimal digits without leading zeros, with a minus sign where needed.
* `digitsValue` — the number that decimal digits write.
* `hexText` — lowercase hexadecimal digits, padded with zeros to a least width.
-/

namespace ScriptBind.Number

/-- The decimal digits of a natural number. -/
def natText (n : Nat) : String := String.ofList (Nat.toDigits 10 n)

/-- The decimal text of an integer. -/
def intText : Int → String
  | .ofNat n => natText n
  | .negSucc n => "-" ++ natText (n + 1)

/-- The number written by a list of decimal digits. -/
def digitsValue (cs : List Char) : Nat :=
  cs.foldl (fun n c => 10 * n + (c.toNat - '0'.toNat)) 0

/-- The hexadecimal digits of `n`, with zeros in front up to `width` digits. -/
def hexText (width n : Nat) : String :=
  let digits := Nat.toDigits 16 n
  String.ofList (List.replicate (width - digits.length) '0' ++ digits)

/-- Padding never shortens the text. -/
theorem le_length_hexText (width n : Nat) : width ≤ (hexText width n).length := by
  simp [hexText]
  omega

end ScriptBind.Number
