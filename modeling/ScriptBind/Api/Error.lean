import ScriptBind.Variant.Tag

/-!
# Errors of an API description

Why a description cannot be read or bound.

* `ApiError` — the causes.
* `ApiError.message` — the wording.
-/

namespace ScriptBind

/-- Why an API description is refused. -/
inductive ApiError where
  /-- The text is not JSON of the expected shape. -/
  | json
  /-- A builtin class has the name of no builtin type. -/
  | unknownType (name : String)
  /-- A class inherits from a class that is not declared. -/
  | unknownParent (cls parent : String)
  /-- A name is declared twice. -/
  | duplicate (name : String)
  /-- A class is among its own ancestors. -/
  | inheritanceCycle (name : String)
  /-- A signature uses a builtin type that has no value model. -/
  | unsupportedType (item : String) (type : Tag)
deriving DecidableEq, Inhabited

/-- The wording of an error. -/
def ApiError.message : ApiError → String
  | json => "invalid extension API document"
  | unknownType name => "unknown builtin type '" ++ name ++ "'"
  | unknownParent cls parent => "class '" ++ cls ++ "' inherits unknown class '" ++ parent ++ "'"
  | duplicate name => "duplicate declaration of '" ++ name ++ "'"
  | inheritanceCycle name => "inheritance cycle involving class '" ++ name ++ "'"
  | unsupportedType item type => "'" ++ item ++ "' uses unsupported type " ++ type.name

end ScriptBind
