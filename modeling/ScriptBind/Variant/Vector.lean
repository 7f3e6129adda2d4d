import ScriptBind.Number.Text
import ScriptBind.Number.Integer

/-!
# Vectors, colours and object ids

The plain values of the engine's math types. Components are 32-bit: floats round after every
operation and integers wrap.

* `Vector2`, `Vector3`, `Color` — float components, with the usual vector arithmetic.
* `Vector2i`, `Vector3i` — integer components.
* `ObjectId` — the number of an engine object.

Equality written `same` compares floats as numbers: `0` and `-0` are equal and a NaN equals
nothing.
-/

namespace ScriptBind

/-- A sequence of component texts between parentheses. -/
def componentText (parts : List String) : String :=
  "(" ++ ", ".intercalate parts ++ ")"

/-! ## Two components -/

/-- A plane vector with float components. -/
structure Vector2 where
  x : Float32
  y : Float32
deriving DecidableEq, Inhabited

namespace Vector2

def zero : Vector2 := ⟨0, 0⟩
def one : Vector2 := ⟨1, 1⟩

def lengthSquared (v : Vector2) : Float32 := v.x * v.x + v.y * v.y

def length (v : Vector2) : Float32 := v.lengthSquared.sqrt

/-- The unit vector of the same direction; the zero vector stays zero. -/
def normalized (v : Vector2) : Vector2 :=
  let len := v.length
  if len == 0 then zero else ⟨v.x / len, v.y / len⟩

def dot (v w : Vector2) : Float32 := v.x * w.x + v.y * w.y

def abs (v : Vector2) : Vector2 := ⟨v.x.abs, v.y.abs⟩

/-- The point that lies `weight` of the way from `v` to `w`. -/
def lerp (v w : Vector2) (weight : Float32) : Vector2 :=
  ⟨v.x + (w.x - v.x) * weight, v.y + (w.y - v.y) * weight⟩

def same (v w : Vector2) : Bool := v.x == w.x && v.y == w.y

def text (v : Vector2) : String := componentText [Number.show32 v.x, Number.show32 v.y]

end Vector2

/-- A plane vector with integer components. -/
structure Vector2i where
  x : Int32
  y : Int32
deriving DecidableEq, Inhabited

namespace Vector2i

/-- Component-wise magnitude; the least integer is its own magnitude. -/
def abs (v : Vector2i) : Vector2i := ⟨v.x.abs, v.y.abs⟩

def text (v : Vector2i) : String :=
  componentText [Number.intText v.x.toInt, Number.intText v.y.toInt]

end Vector2i

/-! ## Three components -/

/-- A space vector with float components. -/
structure Vector3 where
  x : Float32
  y : Float32
  z : Float32
deriving DecidableEq, Inhabited

namespace Vector3

def zero : Vector3 := ⟨0, 0, 0⟩

def length (v : Vector3) : Float32 := (v.x * v.x + v.y * v.y + v.z * v.z).sqrt

/-- The unit vector of the same direction; the zero vector stays zero. -/
def normalized (v : Vector3) : Vector3 :=
  let len := v.length
  if len == 0 then zero else ⟨v.x / len, v.y / len, v.z / len⟩

def dot (v w : Vector3) : Float32 := v.x * w.x + v.y * w.y + v.z * w.z

def cross (v w : Vector3) : Vector3 :=
  ⟨v.y * w.z - v.z * w.y, v.z * w.x - v.x * w.z, v.x * w.y - v.y * w.x⟩

def same (v w : Vector3) : Bool := v.x == w.x && v.y == w.y && v.z == w.z

def text (v : Vector3) : String :=
  componentText [Number.show32 v.x, Number.show32 v.y, Number.show32 v.z]

end Vector3

/-- A space vector with integer components. -/
structure Vector3i where
  x : Int32
  y : Int32
  z : Int32
deriving DecidableEq, Inhabited

namespace Vector3i

/-- Component-wise magnitude. The least integer has none in 32 bits, so a vector with such a
component has no magnitude. -/
def abs? (v : Vector3i) : Option Vector3i :=
  if v.x = Int32.minValue ∨ v.y = Int32.minValue ∨ v.z = Int32.minValue then none
  else some ⟨v.x.abs, v.y.abs, v.z.abs⟩

def text (v : Vector3i) : String :=
  componentText [Number.intText v.x.toInt, Number.intText v.y.toInt, Number.intText v.z.toInt]

end Vector3i

/-! ## Colours -/

/-- A colour with float channels. -/
structure Color where
  r : Float32
  g : Float32
  b : Float32
  a : Float32
deriving DecidableEq, Inhabited

namespace Color

/-- The complement of the colour; the alpha channel stays. -/
def inverted (c : Color) : Color := ⟨1 - c.r, 1 - c.g, 1 - c.b, c.a⟩

/-- The colour that lies `weight` of the way from `c` to `d`. -/
def lerp (c d : Color) (weight : Float32) : Color :=
  ⟨c.r + (d.r - c.r) * weight, c.g + (d.g - c.g) * weight, c.b + (d.b - c.b) * weight,
    c.a + (d.a - c.a) * weight⟩

def same (c d : Color) : Bool := c.r == d.r && c.g == d.g && c.b == d.b && c.a == d.a

def text (c : Color) : String :=
  componentText [Number.show32 c.r, Number.show32 c.g, Number.show32 c.b, Number.show32 c.a]

end Color

/-! ## Objects -/

/-- The number of an engine object. -/
structure ObjectId where
  number : UInt64
deriving DecidableEq, Inhabited

/-- The text of an object id whose class is not known. -/
def ObjectId.text (id : ObjectId) : String :=
  "<Object#" ++ Number.natText id.number.toNat ++ ">"

end ScriptBind
