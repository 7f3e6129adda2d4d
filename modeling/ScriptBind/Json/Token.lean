/-!
# JSON tokens

Cuts a text into the tokens of strict JSON: no comments, no trailing commas, and blanks are the
space, tab, line feed and carriage return only.

A string or number keeps its spelling: what lies between the quotes, or the digits as written.
Whether a spelling means anything (a lone surrogate has no character, a number may exceed every
range) is left to the reader of the value, so a value that nobody reads is checked for syntax
only.

* `Token` — the tokens, and `Token.spell` their characters.
* `tokens?` — the tokens of a text.
-/

namespace ScriptBind.Json

/-- The parts of a JSON text. -/
inductive Token where
  | openBrace
  | closeBrace
  | openBracket
  | closeBracket
  | colon
  | comma
  | null
  | bool (value : Bool)
  | number (spelling : List Char)
  | string (spelling : List Char)
deriving DecidableEq

/-- The characters of a token. -/
def Token.spell : Token → List Char
  | openBrace => ['\x7b']
  | closeBrace => ['\x7d']
  | openBracket => ['[']
  | closeBracket => [']']
  | colon => [':']
  | comma => [',']
  | null => ['n', 'u', 'l', 'l']
  | bool true => ['t', 'r', 'u', 'e']
  | bool false => ['f', 'a', 'l', 's', 'e']
  | number spelling => spelling
  | string spelling => '"' :: spelling ++ ['"']

/-! ## Strings -/

/-- Whether a character is a hexadecimal digit of either case. -/
def isHexDigit (c : Char) : Bool :=
  c.isDigit || ('a' ≤ c && c ≤ 'f') || ('A' ≤ c && c ≤ 'F')

/-- The characters that may follow a backslash alone. -/
def isSimpleEscape (c : Char) : Bool :=
  ['"', '\\', '/', 'b', 'f', 'n', 'r', 't'].contains c

/-- The spelling of a string up to its closing quote, and what follows the quote. A backslash
starts one of eight short escapes or `u` and four hexadecimal digits; control characters do not
stand in a string. -/
def stringSpelling? : List Char → Option (List Char × List Char)
  | [] => none
  | '"' :: rest => some ([], rest)
  | '\\' :: 'u' :: a :: b :: c :: d :: rest =>
    if isHexDigit a && isHexDigit b && isHexDigit c && isHexDigit d then
      (stringSpelling? rest).map fun (s, r) => ('\\' :: 'u' :: a :: b :: c :: d :: s, r)
    else none
  | '\\' :: c :: rest =>
    if isSimpleEscape c then (stringSpelling? rest).map fun (s, r) => ('\\' :: c :: s, r)
    else none
  | c :: rest =>
    if c = '\\' || c < ' ' then none
    else (stringSpelling? rest).map fun (s, r) => (c :: s, r)

/-! ## Numbers -/

/-- One or more digits, and what follows them. -/
def digits? (cs : List Char) : Option (List Char × List Char) :=
  match cs.takeWhile Char.isDigit with
  | [] => none
  | ds => some (ds, cs.dropWhile Char.isDigit)

/-- The digits before the point: a single zero, or digits that start with another one. -/
def wholePart? : List Char → Option (List Char × List Char)
  | '0' :: rest => some (['0'], rest)
  | cs => digits? cs

/-- A point and digits, if there is a point. -/
def fractionPart? : List Char → Option (List Char × List Char)
  | '.' :: rest => (digits? rest).map fun (ds, r) => ('.' :: ds, r)
  | cs => some ([], cs)

/-- An exponent, if there is one: `e` or `E`, an optional sign, digits. -/
def exponentPart? : List Char → Option (List Char × List Char)
  | [] => some ([], [])
  | e :: rest =>
    if e = 'e' || e = 'E' then
      match rest with
      | s :: more =>
        if s = '+' || s = '-' then (digits? more).map fun (ds, r) => (e :: s :: ds, r)
        else (digits? rest).map fun (ds, r) => (e :: ds, r)
      | [] => none
    else some ([], e :: rest)

/-- A number without its sign. -/
def unsigned? (cs : List Char) : Option (List Char × List Char) := do
  let (whole, rest) ← wholePart? cs
  let (fraction, rest) ← fractionPart? rest
  let (exponent, rest) ← exponentPart? rest
  return (whole ++ fraction ++ exponent, rest)

/-- The spelling of a number, and what follows it. -/
def numberSpelling? : List Char → Option (List Char × List Char)
  | '-' :: rest => (unsigned? rest).map fun (s, r) => ('-' :: s, r)
  | cs => unsigned? cs

/-! ## Texts -/

/-- The blanks between tokens. -/
def isBlank (c : Char) : Bool := c = ' ' || c = '\t' || c = '\n' || c = '\r'

/-- The first token of a text that does not start with a blank, and what follows it. -/
def token? : List Char → Option (Token × List Char)
  | '\x7b' :: rest => some (.openBrace, rest)
  | '\x7d' :: rest => some (.closeBrace, rest)
  | '[' :: rest => some (.openBracket, rest)
  | ']' :: rest => some (.closeBracket, rest)
  | ':' :: rest => some (.colon, rest)
  | ',' :: rest => some (.comma, rest)
  | 'n' :: 'u' :: 'l' :: 'l' :: rest => some (.null, rest)
  | 't' :: 'r' :: 'u' :: 'e' :: rest => some (.bool true, rest)
  | 'f' :: 'a' :: 'l' :: 's' :: 'e' :: rest => some (.bool false, rest)
  | '"' :: rest => (stringSpelling? rest).map fun (s, r) => (.string s, r)
  | cs => (numberSpelling? cs).map fun (s, r) => (.number s, r)

/-- Collects tokens, the last one first. Every step consumes a character, so the length of the
text is enough `fuel`. -/
def collect : Nat → List Token → List Char → Option (List Token)
  | _, found, [] => some found
  | 0, _, _ :: _ => none
  | fuel + 1, found, c :: rest =>
    if isBlank c then collect fuel found rest
    else
      match token? (c :: rest) with
      | some (t, after) => collect fuel (t :: found) after
      | none => none

/-- The tokens of a text. -/
def tokens? (cs : List Char) : Option (List Token) :=
  (collect cs.length [] cs).map List.reverse

end ScriptBind.Json
