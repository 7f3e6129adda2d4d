import ScriptBind.Variant.Tag
import ScriptBind.Variant.Vector

/-!
# Engine values

A `Variant` is a value that crosses between the engine and the scripts.

* `Variant.tag` — the builtin type of a value; it always has a value model.
* `Variant.asBool`, `asInt`, `asFloat`, `asText`, `asObject` — views; integers widen to floats.
* `Variant.same` — equality with floats compared as numbers.
* `Variant.text` — the plain text of a value.
-/

namespace ScriptBind

/-- A value of a builtin type. -/
inductive Variant where
  | nil
  | bool (value : Bool)
  | int (value : Int64)
  | float (value : Float)
  | string (value : String)
  | stringName (value : String)
  | vector2 (value : Vector2)
  | vector2i (value : Vector2i)
  | vector3 (value : Vector3)
  | vector3i (value : Vector3i)
  | color (value : Color)
  | object (id : ObjectId)
deriving DecidableEq, Inhabited

namespace Variant

/-- The builtin type of a value. -/
def tag : Variant → Tag
  | nil => .nil
  | bool _ => .bool
  | int _ => .int
  | float _ => .float
  | string _ => .string
  | stringName _ => .stringName
  | vector2 _ => .vector2
  | vector2i _ => .vector2i
  | vector3 _ => .vector3
  | vector3i _ => .vector3i
  | color _ => .color
  | object _ => .object

/-! ## Views -/

def isNil : Variant → Bool
  | nil => true
  | _ => false

def asBool : Variant → Option Bool
  | bool b => some b
  | _ => none

def asInt : Variant → Option Int64
  | int n => some n
  | _ => none

/-- The number of a float or, widened, of an integer. -/
def asFloat : Variant → Option Float
  | float x => some x
  | int n => some (Number.ofInt64 n)
  | _ => none

/-- The characters of a string or string name. -/
def asText : Variant → Option String
  | string s => some s
  | stringName s => some s
  | _ => none

def asObject : Variant → Option ObjectId
  | object id => some id
  | _ => none

/-- Equality with floats compared as numbers; values of different types differ. -/
def same : Variant → Variant → Bool
  | nil, nil => true
  | bool a, bool b => a == b
  | int a, int b => a == b
  | float a, float b => a == b
  | string a, string b => a == b
  | stringName a, stringName b => a == b
  | vector2 a, vector2 b => a.same b
  | vector2i a, vector2i b => a == b
  | vector3 a, vector3 b => a.same b
  | vector3i a, vector3i b => a == b
  | color a, color b => a.same b
  | object a, object b => a == b
  | _, _ => false

/-- The plain text of a value. -/
def text : Variant → String
  | nil => "null"
  | bool b => if b then "true" else "false"
  | int n => Number.intText n.toInt
  | float x => Number.show64 x
  | string s => s
  | stringName s => s
  | vector2 v => v.text
  | vector2i v => v.text
  | vector3 v => v.text
  | vector3i v => v.text
  | color c => c.text
  | object id => id.text

/-! ## Tags of values -/

/-- Every value's type has a value model. -/
theorem hasValueModel_tag (v : Variant) : v.tag.hasValueModel = true := by
  cases v <;> rfl

/-- Values that are equal have one type. -/
theorem tag_eq_of_same {v w : Variant} (h : v.same w = true) : v.tag = w.tag := by
  cases v <;> cases w <;> first | rfl | simp [same] at h

end Variant

end ScriptBind
