import Mathlib.Data.List.Forall2
import ScriptBind.Variant.Native

/-!
# Components of math values

Two math values are the same if they are of one type and their components are equal in pairs,
integers as integers and floats as numbers. To be equal as numbers does not depend on the order of
the two, and so neither does this; but nothing is equal to a NaN, so a value need not be the same as
itself.

Main results:

* `beq_comm_float32` — the order of two floats does not matter.
* `Variant.same_iff` — what it is for two math values to be the same.
-/

namespace ScriptBind

open Float.Model (UnpackedFloat)
open Float.Model.UnpackedFloat

/-! ## Floats -/

/-- Magnitudes are compared by exponents first. -/
theorem compare_magnitudes_swap (m m' : Nat) (e e' : Int) :
    (compare e' e).then (compare m' m) = ((compare e e').then (compare m m')).swap := by
  rw [Ordering.swap_then, Int.compare_swap, Nat.compare_swap]

/-- To compare the other way round is to swap the outcome. -/
theorem compare_unpacked_swap (a b : UnpackedFloat) :
    b.compare a = (a.compare b).map Ordering.swap := by
  -- only two finite numbers need an argument, and only if their signs are the same
  cases a with
  | notANumber => cases b <;> rfl
  | infinity s =>
    cases b with
    | infinity t => cases s <;> cases t <;> rfl
    | _ => cases s <;> rfl
  | zero s =>
    cases b with
    | infinity t => cases t <;> rfl
    | finite t => cases t <;> rfl
    | _ => rfl
  | finite s m e _ =>
    cases b with
    | infinity t => cases s <;> cases t <;> rfl
    | finite t m' e' _ =>
      have magnitudes := compare_magnitudes_swap m m' e e'
      cases s <;> cases t
      · exact congrArg (fun o => some o.swap) magnitudes
      · rfl
      · rfl
      · exact congrArg some magnitudes
    | _ => cases s <;> rfl

/-- Floats are equal as numbers in either order. -/
theorem beq_comm_float32 (x y : Float32) : (x == y) = (y == x) := by
  show (x.toModel.unpack.compare y.toModel.unpack == some .eq) =
    (y.toModel.unpack.compare x.toModel.unpack == some .eq)
  rw [compare_unpacked_swap x.toModel.unpack]
  cases x.toModel.unpack.compare y.toModel.unpack with
  | none => rfl
  | some o => cases o <;> rfl

/-! ## Components -/

/-- A component of a math value. -/
inductive Component where
  | float (x : Float32)
  | integer (n : Int32)

/-- Integers are equal as they are, and floats as numbers. -/
def Component.Equal : Component → Component → Prop
  | float x, float y => (x == y) = true
  | integer m, integer n => m = n
  | _, _ => False

theorem Component.Equal.symm {a b : Component} (equal : a.Equal b) : b.Equal a := by
  cases a <;> cases b
  case float.float x y => exact (beq_comm_float32 y x).trans equal
  case integer.integer => exact Eq.symm equal
  all_goals exact equal

attribute [ext] Vector2i Vector3i

namespace Variant

/-- The components of a math value. -/
def components : Variant → List Component
  | vector2 v => [.float v.x, .float v.y]
  | vector2i v => [.integer v.x, .integer v.y]
  | vector3 v => [.float v.x, .float v.y, .float v.z]
  | vector3i v => [.integer v.x, .integer v.y, .integer v.z]
  | color c => [.float c.r, .float c.g, .float c.b, .float c.a]
  | _ => []

/-- Values of one type whose components are equal. -/
structure EqualComponents (a b : Variant) : Prop where
  tag : a.tag = b.tag
  components : List.Forall₂ Component.Equal a.components b.components

theorem EqualComponents.symm {a b : Variant} (equal : a.EqualComponents b) :
    b.EqualComponents a :=
  ⟨equal.tag.symm, equal.components.flip.imp fun _ _ => Component.Equal.symm⟩

theorem tag_of_same {a b : Variant} (same : a.same b = true) : a.tag = b.tag := by
  cases a <;> cases b <;> first | rfl | cases same

/-- Math values are the same if they are of one type and have equal components. -/
theorem same_iff {a b : Variant} {T : MathType} (math : a.tag = T.tag) :
    a.same b = true ↔ a.EqualComponents b := by
  by_cases tag : a.tag = b.tag
  case neg => exact iff_of_false (fun same => tag (tag_of_same same)) fun equal => tag equal.tag
  suffices components : a.same b = true ↔ List.Forall₂ Component.Equal a.components b.components
    from components.trans ⟨fun equal => ⟨tag, equal⟩, fun equal => equal.components⟩
  cases a <;> cases b <;> cases tag <;> cases T <;> cases math
  all_goals simp [same, components, Component.Equal, Vector2.same, Vector3.same, Color.same,
    Vector2i.ext_iff, Vector3i.ext_iff, and_assoc]

end Variant

end ScriptBind
