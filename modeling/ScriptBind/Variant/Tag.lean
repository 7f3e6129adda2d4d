/-!
# Builtin type tags

The engine's builtin types: their fixed order, their names, and which of them scripts and the
binding layer can carry.

* `Tag` — one tag per builtin type, listed by ordinal in `Tag.all`.
* `Tag.name` — the engine's spelling; `Tag.ofName?` reads it back.
* `Tag.isScriptNative` — types that scripts see as plain values.
* `Tag.hasValueModel` — types whose values can cross between engine and scripts.
-/

namespace ScriptBind

/-- A builtin type of the engine. -/
inductive Tag where
  | nil | bool | int | float | string
  | vector2 | vector2i | rect2 | rect2i | vector3 | vector3i
  | transform2D | vector4 | vector4i | plane | quaternion | aabb | basis | transform3D | projection
  | color | stringName | nodePath | rid | object | callable | signal
  | dictionary | array
  | packedByteArray | packedInt32Array | packedInt64Array
  | packedFloat32Array | packedFloat64Array | packedStringArray
  | packedVector2Array | packedVector3Array | packedColorArray
deriving DecidableEq, Inhabited

namespace Tag

/-- All tags by ordinal. -/
def all : List Tag :=
  [nil, bool, int, float, string, vector2, vector2i, rect2, rect2i, vector3, vector3i, transform2D,
    vector4, vector4i, plane, quaternion, aabb, basis, transform3D, projection, color, stringName,
    nodePath, rid, object, callable, signal, dictionary, array, packedByteArray, packedInt32Array,
    packedInt64Array, packedFloat32Array, packedFloat64Array, packedStringArray,
    packedVector2Array, packedVector3Array, packedColorArray]

/-- The position of a tag in the engine's order. -/
def ordinal (t : Tag) : Nat := all.idxOf t

/-- The tag at a position. -/
def ofOrdinal? (n : Nat) : Option Tag := all[n]?

/-- The engine's spelling of the type. -/
def name : Tag → String
  | nil => "Nil"
  | bool => "bool"
  | int => "int"
  | float => "float"
  | string => "String"
  | vector2 => "Vector2"
  | vector2i => "Vector2i"
  | rect2 => "Rect2"
  | rect2i => "Rect2i"
  | vector3 => "Vector3"
  | vector3i => "Vector3i"
  | transform2D => "Transform2D"
  | vector4 => "Vector4"
  | vector4i => "Vector4i"
  | plane => "Plane"
  | quaternion => "Quaternion"
  | aabb => "AABB"
  | basis => "Basis"
  | transform3D => "Transform3D"
  | projection => "Projection"
  | color => "Color"
  | stringName => "StringName"
  | nodePath => "NodePath"
  | rid => "RID"
  | object => "Object"
  | callable => "Callable"
  | signal => "Signal"
  | dictionary => "Dictionary"
  | array => "Array"
  | packedByteArray => "PackedByteArray"
  | packedInt32Array => "PackedInt32Array"
  | packedInt64Array => "PackedInt64Array"
  | packedFloat32Array => "PackedFloat32Array"
  | packedFloat64Array => "PackedFloat64Array"
  | packedStringArray => "PackedStringArray"
  | packedVector2Array => "PackedVector2Array"
  | packedVector3Array => "PackedVector3Array"
  | packedColorArray => "PackedColorArray"

/-- The tag with a given spelling. -/
def ofName? (s : String) : Option Tag := all.find? fun t => t.name == s

/-- The capitalised spelling used in diagnostics. -/
def label : Tag → String
  | bool => "Bool"
  | int => "Int"
  | float => "Float"
  | aabb => "Aabb"
  | rid => "Rid"
  | t => t.name

/-- Whether scripts see values of this type as nil, booleans, numbers or strings. -/
def isScriptNative : Tag → Bool
  | nil | bool | int | float | string => true
  | _ => false

/-- Whether a `Variant` can carry values of this type. -/
def hasValueModel : Tag → Bool
  | nil | bool | int | float | string | stringName
  | vector2 | vector2i | vector3 | vector3i | color | object => true
  | _ => false

/-! ## Lookups -/

theorem mem_all (t : Tag) : t ∈ all := by cases t <;> decide

/-- The ordinal of a tag leads back to it. -/
@[simp] theorem ofOrdinal?_ordinal (t : Tag) : ofOrdinal? t.ordinal = some t := by
  cases t <;> rfl

/-- A tag is found by its name. -/
@[simp] theorem ofName?_name (t : Tag) : ofName? t.name = some t := by
  cases t <;> decide +kernel

theorem name_injective {t u : Tag} (h : t.name = u.name) : t = u := by
  have found := ofName?_name t
  rw [h, ofName?_name u] at found
  exact (Option.some.inj found).symm

/-- Only the name of a tag finds it. -/
theorem name_of_ofName? {s : String} {t : Tag} (h : ofName? s = some t) : t.name = s := by
  simpa using List.find?_some h

end Tag

end ScriptBind
