import ScriptBind.Json.Token
import ScriptBind.Number.Integer

/-!
# Spellings of strings and integers

What the spelling of a JSON string or number stands for, and the spelling that is written.

* `encode`, `decode?` — the spelling of a string. Writing escapes quotes, backslashes and control
  characters only; reading knows every escape and refuses surrogates without a partner.
* `integer?` — the integer a number spells: a sign and digits only. The spelling `-0`, a fraction
  or an exponent makes it a number of another kind.
-/

namespace ScriptBind.Json

/-! ## Writing strings -/

/-- The spelling of one character. -/
def encodeChar (c : Char) : List Char :=
  if c = '"' then ['\\', '"']
  else if c = '\\' then ['\\', '\\']
  else if c = '\x08' then ['\\', 'b']
  else if c = '\t' then ['\\', 't']
  else if c = '\n' then ['\\', 'n']
  else if c = '\x0c' then ['\\', 'f']
  else if c = '\r' then ['\\', 'r']
  else if c < ' ' then '\\' :: 'u' :: (Number.hexText 4 c.toNat).toList
  else [c]

/-- The spelling of a string. -/
def encode (s : String) : List Char := s.toList.flatMap encodeChar

/-! ## Reading strings -/

/-- The value of a hexadecimal digit. -/
def hexDigitValue (c : Char) : Nat :=
  if c.isDigit then c.toNat - '0'.toNat
  else if 'a' ≤ c then c.toNat - 'a'.toNat + 10
  else c.toNat - 'A'.toNat + 10

/-- The number that four hexadecimal digits spell. -/
def codeUnit (a b c d : Char) : Nat :=
  ((hexDigitValue a * 16 + hexDigitValue b) * 16 + hexDigitValue c) * 16 + hexDigitValue d

/-- Whether a code unit is the first half of a surrogate pair. -/
def isHighSurrogate (n : Nat) : Bool := 0xD800 ≤ n && n ≤ 0xDBFF

/-- Whether a code unit is the second half of a surrogate pair. -/
def isLowSurrogate (n : Nat) : Bool := 0xDC00 ≤ n && n ≤ 0xDFFF

/-- The character that a surrogate pair stands for. -/
def pairChar (high low : Nat) : Char :=
  Char.ofNat (0x10000 + (high - 0xD800) * 0x400 + (low - 0xDC00))

/-- The character of a short escape. -/
def simpleEscape (c : Char) : Char :=
  if c = 'b' then '\x08'
  else if c = 'f' then '\x0c'
  else if c = 'n' then '\n'
  else if c = 'r' then '\r'
  else if c = 't' then '\t'
  else c

/-- The characters of a spelling. -/
def decodeChars? : List Char → Option (List Char)
  | [] => some []
  | '\\' :: 'u' :: a :: b :: c :: d :: '\\' :: 'u' :: e :: f :: g :: h :: rest =>
    let first := codeUnit a b c d
    let second := codeUnit e f g h
    if isHighSurrogate first then
      if isLowSurrogate second then (decodeChars? rest).map (pairChar first second :: ·) else none
    else if isLowSurrogate first then none
    else (decodeChars? ('\\' :: 'u' :: e :: f :: g :: h :: rest)).map (Char.ofNat first :: ·)
  | '\\' :: 'u' :: a :: b :: c :: d :: rest =>
    let unit := codeUnit a b c d
    if isHighSurrogate unit || isLowSurrogate unit then none
    else (decodeChars? rest).map (Char.ofNat unit :: ·)
  | '\\' :: c :: rest => (decodeChars? rest).map (simpleEscape c :: ·)
  | c :: rest => (decodeChars? rest).map (c :: ·)

/-- The string of a spelling. -/
def decode? (spelling : List Char) : Option String :=
  (decodeChars? spelling).map String.ofList

/-! ## Integers -/

/-- The integer of a spelling. -/
def integer? : List Char → Option Int
  | '-' :: digits =>
    if digits.all Char.isDigit && digits != ['0'] then some (-(Number.digitsValue digits : Int)) else none
  | digits => if digits.all Char.isDigit then some (Number.digitsValue digits) else none

/-- The spelling of an integer. -/
def integerSpelling (n : Int) : List Char := (Number.intText n).toList

end ScriptBind.Json
