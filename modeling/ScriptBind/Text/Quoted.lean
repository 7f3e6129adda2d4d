import ScriptBind.Number.Integer
import ScriptBind.Text.Unprintable
import ScriptBind.Text.Extender

/-!
# Quoted text

A string between double quotes for diagnostics. Quotes, backslashes and the common controls are
escaped with a backslash; every other character that cannot be seen, or that would join its
neighbour, is written as its code point. All others stand for themselves.

* `escape` — the spelling of one character.
* `quoted` — the spelling of a string.
-/

namespace ScriptBind.Text

/-- A character as its code point in braces. -/
def codePoint (c : Char) : List Char :=
  ['\\', 'u', '\x7b'] ++ Nat.toDigits 16 c.toNat ++ ['\x7d']

/-- The spelling of one character between quotes. -/
def escape (c : Char) : List Char :=
  if c = '\x00' then ['\\', '0']
  else if c = '\t' then ['\\', 't']
  else if c = '\r' then ['\\', 'r']
  else if c = '\n' then ['\\', 'n']
  else if c = '\\' then ['\\', '\\']
  else if c = '"' then ['\\', '"']
  else if isExtender c || isUnprintable c then codePoint c
  else [c]

/-- A string between double quotes. -/
def quoted (s : String) : String :=
  String.ofList ('"' :: s.toList.flatMap escape ++ ['"'])


end ScriptBind.Text
