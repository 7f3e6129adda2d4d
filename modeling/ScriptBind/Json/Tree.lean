import ScriptBind.Json.Token

/-!
# JSON values

The tree that a token list describes, and back. Strings, keys and numbers keep their spelling.

* `Tree` — a JSON value; members of an object stay in the order written, repeated keys included.
* `Tree.tokens` — the tokens of a value, and `Tree.text` its characters without any blanks.
* `Tree.ofTokens?` — the value that a token list spells. Containers that are still open are kept
  in a list, so nesting costs no recursion.
* `Tree.parse?` — the value of a text.
-/

namespace ScriptBind.Json

/-- A JSON value. -/
inductive Tree where
  | null
  | bool (value : Bool)
  | number (spelling : List Char)
  | string (spelling : List Char)
  | array (items : List Tree)
  | object (members : List (List Char × Tree))

namespace Tree

/-! ## Writing -/

mutual

/-- The tokens of a value. -/
def tokens : Tree → List Token
  | null => [.null]
  | bool b => [.bool b]
  | number s => [.number s]
  | string s => [.string s]
  | array items => .openBracket :: itemTokens items
  | object members => .openBrace :: memberTokens members

/-- The tokens of array elements up to the closing bracket. -/
def itemTokens : List Tree → List Token
  | [] => [.closeBracket]
  | [t] => t.tokens ++ [.closeBracket]
  | t :: u :: rest => t.tokens ++ .comma :: itemTokens (u :: rest)

/-- The tokens of object members up to the closing brace. -/
def memberTokens : List (List Char × Tree) → List Token
  | [] => [.closeBrace]
  | [(k, t)] => .string k :: .colon :: t.tokens ++ [.closeBrace]
  | (k, t) :: m :: rest => .string k :: .colon :: t.tokens ++ .comma :: memberTokens (m :: rest)

end

/-- The text of a value without blanks. -/
def text (t : Tree) : String := String.ofList (t.tokens.flatMap Token.spell)

/-! ## Reading -/

/-- Where a value belongs that is still being read: after these elements of an array, or under a
key after these members of an object, the latest first. -/
inductive Place where
  | element (before : List Tree)
  | member (before : List (List Char × Tree)) (key : List Char)

/-- What may come next. -/
inductive Mode where
  /-- Any value. -/
  | value
  /-- The first element of an array, or its end. -/
  | firstElement
  /-- The first key of an object, or its end. -/
  | firstKey
  /-- A key after a comma. -/
  | key (before : List (List Char × Tree))
  /-- The colon after a key. -/
  | colon (before : List (List Char × Tree)) (key : List Char)
  /-- A comma or the end of an array. -/
  | afterElement (before : List Tree)
  /-- A comma or the end of an object. -/
  | afterMember (before : List (List Char × Tree))
  /-- Nothing: the value is complete. -/
  | done (result : Tree)

/-- A value under construction: the open containers, innermost first, and what may follow. -/
structure Draft where
  places : List Place
  mode : Mode

/-- Puts a complete value where it belongs. -/
def Draft.complete (places : List Place) (t : Tree) : Draft :=
  match places with
  | [] => ⟨[], .done t⟩
  | .element before :: outer => ⟨outer, .afterElement (t :: before)⟩
  | .member before key :: outer => ⟨outer, .afterMember ((key, t) :: before)⟩

/-- A token where a value may start. -/
def Draft.startValue (places : List Place) : Token → Option Draft
  | .null => some (complete places .null)
  | .bool b => some (complete places (.bool b))
  | .number s => some (complete places (.number s))
  | .string s => some (complete places (.string s))
  | .openBracket => some ⟨places, .firstElement⟩
  | .openBrace => some ⟨places, .firstKey⟩
  | _ => none

/-- One token more. -/
def Draft.step (p : Draft) (t : Token) : Option Draft :=
  match p.mode, t with
  | .value, t => startValue p.places t
  | .firstElement, .closeBracket => some (complete p.places (.array []))
  | .firstElement, t => startValue (.element [] :: p.places) t
  | .firstKey, .closeBrace => some (complete p.places (.object []))
  | .firstKey, .string s => some ⟨p.places, .colon [] s⟩
  | .key before, .string s => some ⟨p.places, .colon before s⟩
  | .colon before key, .colon => some ⟨.member before key :: p.places, .value⟩
  | .afterElement before, .comma => some ⟨.element before :: p.places, .value⟩
  | .afterElement before, .closeBracket => some (complete p.places (.array before.reverse))
  | .afterMember before, .comma => some ⟨p.places, .key before⟩
  | .afterMember before, .closeBrace => some (complete p.places (.object before.reverse))
  | _, _ => none

/-- A whole token list. -/
def Draft.run (p : Draft) : List Token → Option Draft
  | [] => some p
  | t :: rest =>
    match p.step t with
    | some q => q.run rest
    | none => none

/-- The value that a token list spells. -/
def ofTokens? (ts : List Token) : Option Tree :=
  match Draft.run ⟨[], .value⟩ ts with
  | some ⟨[], .done t⟩ => some t
  | _ => none

/-- The value of a text. -/
def parse? (s : String) : Option Tree := (tokens? s.toList).bind ofTokens?

end Tree

end ScriptBind.Json
