import ScriptBind.Variant.Basic

/-!
# Native types

The host-side types that values on a script stack are read as and made from.

* `NativeType` — the types; `NativeType.name` is how argument errors call them.
* `NativeValue` — a value of one of them.
* `NativeType.ofVariant?` — the value that an engine value is in a native type.
-/

namespace ScriptBind

/-- The math types. -/
inductive MathType where
  | vector2 | vector2i | vector3 | vector3i | color
deriving DecidableEq

/-- The builtin type of a math type. -/
def MathType.tag : MathType → Tag
  | vector2 => .vector2
  | vector2i => .vector2i
  | vector3 => .vector3
  | vector3i => .vector3i
  | color => .color

/-- A host-side type. -/
inductive NativeType where
  | boolean | int64 | int32 | float64 | float32 | string
  | math (type : MathType)
  | object
  | variant
deriving DecidableEq

/-- The name of a type in argument errors. -/
def NativeType.name : NativeType → String
  | boolean => "boolean"
  | int64 => "integer"
  | int32 => "integer"
  | float64 => "number"
  | float32 => "number"
  | string => "string"
  | math t => t.tag.name
  | object => "Object"
  | variant => "Variant"

/-- A host-side value. A math value carries the engine value of its type. -/
inductive NativeValue where
  | boolean (value : Bool)
  | int64 (value : Int64)
  | int32 (value : Int32)
  | float64 (value : Float)
  | float32 (value : Float32)
  | string (value : String)
  | math (value : Variant)
  | object (id : ObjectId)
  | variant (value : Variant)
deriving DecidableEq

/-- A 64-bit integer that fits 32 bits. -/
def narrow? (n : Int64) : Option Int32 :=
  if Int32.minValue.toInt ≤ n.toInt ∧ n.toInt ≤ Int32.maxValue.toInt then some (.ofInt n.toInt)
  else none

/-- An engine value as a value of a native type. -/
def NativeType.ofVariant? (v : Variant) : NativeType → Option NativeValue
  | boolean => v.asBool.map .boolean
  | int64 => v.asInt.map .int64
  | int32 => (v.asInt.bind narrow?).map .int32
  | float64 => v.asFloat.map .float64
  | float32 => v.asFloat.map fun x => .float32 x.toFloat32
  | string => v.asText.map .string
  | math t => if v.tag = t.tag then some (.math v) else none
  | object => v.asObject.map .object
  | variant => some (.variant v)

end ScriptBind
