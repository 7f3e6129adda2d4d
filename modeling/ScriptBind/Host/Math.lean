import ScriptBind.Host.Error
import ScriptBind.Variant.Native

/-!
# Builtin values of the reference engine

What the reference engine answers about values of the math types: constants, constructors,
methods, static methods and members.

* `Math.constant`, `construct`, `call`, `callStatic`, `member` — the five kinds of requests. Every
  one of them answers or gives a cause; nothing is left undefined.
* `Math.html`, `Math.ofHsv` — colours as hexadecimal text and from hue, saturation and value.

Arguments that a constructor or method needs may be integers where a float is expected. A value of
another type is refused by its position.
-/

namespace ScriptBind.Math

/-! ## Constants -/

/-- The named constants of the math types. -/
def constant? : Tag → String → Option Variant
  | .vector2, name =>
    match name with
    | "AXIS_X" => some (.int 0)
    | "AXIS_Y" => some (.int 1)
    | "ZERO" => some (.vector2 Vector2.zero)
    | "ONE" => some (.vector2 Vector2.one)
    | "LEFT" => some (.vector2 ⟨-1, 0⟩)
    | "RIGHT" => some (.vector2 ⟨1, 0⟩)
    | "UP" => some (.vector2 ⟨0, -1⟩)
    | "DOWN" => some (.vector2 ⟨0, 1⟩)
    | _ => none
  | .vector2i, name =>
    match name with
    | "ZERO" => some (.vector2i ⟨0, 0⟩)
    | "ONE" => some (.vector2i ⟨1, 1⟩)
    | _ => none
  | .vector3, name =>
    match name with
    | "ZERO" => some (.vector3 Vector3.zero)
    | "ONE" => some (.vector3 ⟨1, 1, 1⟩)
    | "UP" => some (.vector3 ⟨0, 1, 0⟩)
    | "FORWARD" => some (.vector3 ⟨0, 0, -1⟩)
    | _ => none
  | .vector3i, name =>
    match name with
    | "ZERO" => some (.vector3i ⟨0, 0, 0⟩)
    | "ONE" => some (.vector3i ⟨1, 1, 1⟩)
    | _ => none
  | .color, name =>
    match name with
    | "WHITE" => some (.color ⟨1, 1, 1, 1⟩)
    | "BLACK" => some (.color ⟨0, 0, 0, 1⟩)
    | "RED" => some (.color ⟨1, 0, 0, 1⟩)
    | "TRANSPARENT" => some (.color ⟨1, 1, 1, 0⟩)
    | _ => none
  | _, _ => none

/-- A constant of a builtin type. -/
def constant (type : Tag) (name : String) : Except HostError Variant :=
  match constant? type name with
  | some v => .ok v
  | none => .error (.constantNotFound type name)

/-! ## Arguments -/

/-- The argument at a position, read with `view`; `expected` names what is wanted. -/
def argument {α : Type} (expected : String) (view : Variant → Option α) (method : String)
    (args : List Variant) (index : Nat) : Except HostError α :=
  match args[index]? with
  | none => .error (.invalidArgument method index "missing")
  | some v =>
    match view v with
    | some a => .ok a
    | none =>
      .error (.invalidArgument method index ("expected " ++ expected ++ ", got " ++ v.tag.name))

def floatArg : String → List Variant → Nat → Except HostError Float32 :=
  argument "float" fun v => v.asFloat.map Float.toFloat32

/-- An integer that fits 32 bits. -/
def intArg : String → List Variant → Nat → Except HostError Int32 :=
  argument "int" fun v => v.asInt.bind narrow?

def boolArg : String → List Variant → Nat → Except HostError Bool :=
  argument "bool" Variant.asBool

def vector2Arg : String → List Variant → Nat → Except HostError Vector2 :=
  argument "Vector2" fun
    | .vector2 v => some v
    | _ => none

def vector3Arg : String → List Variant → Nat → Except HostError Vector3 :=
  argument "Vector3" fun
    | .vector3 v => some v
    | _ => none

def colorArg : String → List Variant → Nat → Except HostError Color :=
  argument "Color" fun
    | .color c => some c
    | _ => none

/-! ## Construction -/

/-- The name under which constructors report their arguments. -/
def ctor : String := "constructor"

/-- A value from the constructor at an index. -/
def construct (type : Tag) (index : UInt32) (args : List Variant) : Except HostError Variant :=
  match type, index.toNat, args with
  | .vector2, 0, [] => .ok (.vector2 Vector2.zero)
  | .vector2, 1, [.vector2 v] => .ok (.vector2 v)
  | .vector2, 2, [.vector2i v] => .ok (.vector2 ⟨Number.ofInt32 v.x, Number.ofInt32 v.y⟩)
  | .vector2, 3, args => do
    return .vector2 ⟨← floatArg ctor args 0, ← floatArg ctor args 1⟩
  | .vector2i, 0, [] => .ok (.vector2i ⟨0, 0⟩)
  | .vector2i, 1, [.vector2i v] => .ok (.vector2i v)
  | .vector2i, 2, [.vector2 v] =>
    .ok (.vector2i ⟨Number.truncate32 v.x, Number.truncate32 v.y⟩)
  | .vector2i, 3, args => do
    return .vector2i ⟨← intArg ctor args 0, ← intArg ctor args 1⟩
  | .vector3, 0, [] => .ok (.vector3 Vector3.zero)
  | .vector3, 1, [.vector3 v] => .ok (.vector3 v)
  | .vector3, 2, [.vector3i v] =>
    .ok (.vector3 ⟨Number.ofInt32 v.x, Number.ofInt32 v.y, Number.ofInt32 v.z⟩)
  | .vector3, 3, args => do
    return .vector3 ⟨← floatArg ctor args 0, ← floatArg ctor args 1, ← floatArg ctor args 2⟩
  | .vector3i, 0, [] => .ok (.vector3i ⟨0, 0, 0⟩)
  | .vector3i, 3, args => do
    return .vector3i ⟨← intArg ctor args 0, ← intArg ctor args 1, ← intArg ctor args 2⟩
  | .color, 0, [] => .ok (.color ⟨0, 0, 0, 1⟩)
  | .color, 1, [.color c] => .ok (.color c)
  | .color, 3, args => do
    return .color ⟨← floatArg ctor args 0, ← floatArg ctor args 1, ← floatArg ctor args 2, 1⟩
  | .color, 4, args => do
    return .color
      ⟨← floatArg ctor args 0, ← floatArg ctor args 1, ← floatArg ctor args 2,
        ← floatArg ctor args 3⟩
  | type, _, _ => .error (.constructorNotFound type index)

/-! ## Colours -/

/-- A channel as a byte: cut to the range from zero to one and rounded, halves upwards. -/
def channelByte (x : Float32) : Nat :=
  let cut : Float32 := if x < 0 then 0 else if 1 < x then 1 else x
  (clampByte ((cut * 255).round)).toNat
where
  /-- The integer part within a byte; a NaN is zero. -/
  clampByte (x : Float32) : Int := (Number.read32 x).truncateWithin 0 255

/-- A colour as two hexadecimal digits per channel. -/
def html (c : Color) (withAlpha : Bool) : String :=
  let channels := [c.r, c.g, c.b] ++ if withAlpha then [c.a] else []
  String.join (channels.map fun x => Number.hexText 2 (channelByte x))

/-- The part of a float above the next lower integer. A tiny negative number gives one, since no
float lies so close below it. -/
def wrapUnit (x : Float32) : Float32 :=
  let whole := if x < 0 then x.ceil else x.floor
  let part := x - whole
  if part < 0 then part + 1 else part

/-- A colour from hue, saturation and value; the hue runs in a circle of length one. -/
def ofHsv (h s v alpha : Float32) : Color :=
  if s ≤ 0 then ⟨v, v, v, alpha⟩
  else
    let h := wrapUnit h * 6
    let sector := h.floor
    let f := h - sector
    let p := v * (1 - s)
    let q := v * (1 - s * f)
    let t := v * (1 - s * (1 - f))
    match (Number.truncate32 sector).toInt with
    | 0 => ⟨v, t, p, alpha⟩
    | 1 => ⟨q, v, p, alpha⟩
    | 2 => ⟨p, v, t, alpha⟩
    | 3 => ⟨p, q, v, alpha⟩
    | 4 => ⟨t, p, v, alpha⟩
    | _ => ⟨v, p, q, alpha⟩

/-! ## Methods -/

/-- A 32-bit float as a float value. -/
def single (x : Float32) : Variant := .float x.toFloat

/-- What a method of a value answers. No method of the reference engine changes its receiver. -/
def answer (target : Variant) (method : String) (args : List Variant) :
    Except HostError Variant :=
  match target, method with
  | .vector2 v, "length" => .ok (single v.length)
  | .vector2 v, "length_squared" => .ok (single v.lengthSquared)
  | .vector2 v, "normalized" => .ok (.vector2 v.normalized)
  | .vector2 v, "abs" => .ok (.vector2 v.abs)
  | .vector2 v, "dot" => do return single (v.dot (← vector2Arg method args 0))
  | .vector2 v, "lerp" => do
    return .vector2 (v.lerp (← vector2Arg method args 0) (← floatArg method args 1))
  | .vector2i v, "abs" => .ok (.vector2i v.abs)
  | .vector3i v, "abs" =>
    match v.abs? with
    | some w => .ok (.vector3i w)
    | none => .error (.overflow method)
  | .vector3 v, "length" => .ok (single v.length)
  | .vector3 v, "normalized" => .ok (.vector3 v.normalized)
  | .vector3 v, "dot" => do return single (v.dot (← vector3Arg method args 0))
  | .vector3 v, "cross" => do return .vector3 (v.cross (← vector3Arg method args 0))
  | .color c, "inverted" => .ok (.color c.inverted)
  | .color c, "lerp" => do
    return .color (c.lerp (← colorArg method args 0) (← floatArg method args 1))
  | .color c, "to_html" => do
    let withAlpha ← if args.isEmpty then pure true else boolArg method args 0
    return .string (html c withAlpha)
  | target, _ => .error (.methodNotFound target.tag.name method)

/-- Calls a method; the second component is the receiver afterwards. -/
def call (target : Variant) (method : String) (args : List Variant) :
    Except HostError Variant × Variant :=
  (answer target method args, target)

/-- Calls a static method. -/
def callStatic (type : Tag) (method : String) (args : List Variant) : Except HostError Variant :=
  match type, method with
  | .vector2, "from_angle" => do
    let angle ← floatArg method args 0
    return .vector2 ⟨angle.cos, angle.sin⟩
  | .color, "from_hsv" => do
    let h ← floatArg method args 0
    let s ← floatArg method args 1
    let v ← floatArg method args 2
    let alpha ← if args.length ≤ 3 then pure 1 else floatArg method args 3
    return .color (ofHsv h s v alpha)
  | _, _ => .error (.methodNotFound type.name method)

/-! ## Members -/

/-- A component of a value. -/
def member (target : Variant) (name : String) : Except HostError Variant :=
  match target, name with
  | .vector2 v, "x" => .ok (single v.x)
  | .vector2 v, "y" => .ok (single v.y)
  | .vector2i v, "x" => .ok (.int v.x.toInt64)
  | .vector2i v, "y" => .ok (.int v.y.toInt64)
  | .vector3 v, "x" => .ok (single v.x)
  | .vector3 v, "y" => .ok (single v.y)
  | .vector3 v, "z" => .ok (single v.z)
  | .vector3i v, "x" => .ok (.int v.x.toInt64)
  | .vector3i v, "y" => .ok (.int v.y.toInt64)
  | .vector3i v, "z" => .ok (.int v.z.toInt64)
  | .color c, "r" => .ok (single c.r)
  | .color c, "g" => .ok (single c.g)
  | .color c, "b" => .ok (single c.b)
  | .color c, "a" => .ok (single c.a)
  | target, _ => .error (.memberNotFound target.tag name)

end ScriptBind.Math
