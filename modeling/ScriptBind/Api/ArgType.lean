import ScriptBind.Variant.Tag

/-!
# Declared types

The type of an argument, result or member as a description spells it.

* `ArgType.parse` — the type of a spelling. Every spelling has one: a name that is no builtin
  type names a class.
* `ArgType.tag?` — the builtin type that values of the declared type travel as.
-/

namespace ScriptBind

/-- A declared type. -/
inductive ArgType where
  /-- Any value. -/
  | any
  /-- A builtin type. -/
  | builtin (type : Tag)
  /-- An object of a class or of one derived from it. -/
  | object (cls : String)
  /-- An enum or bit field, passed as an integer. -/
  | enumeration (name : String)
deriving DecidableEq, Inhabited

namespace ArgType

/-- What follows a given beginning of a text. -/
def after? (start s : String) : Option String :=
  if start.toList.isPrefixOf s.toList then
    some (String.ofList (s.toList.drop start.length))
  else none

/-- The type of a spelling. -/
def parse (spelling : String) : ArgType :=
  if spelling == "Variant" then any
  else
    match after? "enum::" spelling with
    | some name => enumeration name
    | none =>
      match after? "bitfield::" spelling with
      | some name => enumeration name
      | none =>
        if (after? "typedarray::" spelling).isSome then builtin .array
        else
          match Tag.ofName? spelling with
          | some t => builtin t
          | none => object spelling

/-- The builtin type that values travel as; none when they may be of any type. -/
def tag? : ArgType → Option Tag
  | any => none
  | builtin t => some t
  | object _ => some .object
  | enumeration _ => some .int

end ArgType

end ScriptBind
