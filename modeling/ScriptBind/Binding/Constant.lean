import ScriptBind.Binding.Native

/-!
# Lazy constants

A constant of a builtin type is fetched from a host when it is first needed. The outcome, a value
or a refusal, is kept from then on, so no constant is fetched twice.

* `Constant` — which constant it is, and its type and name.
* `ScriptM.constantOutcome` — the outcome, fetched when it is not known.
* `ScriptM.pushConstantAs` — pushes a constant as a value of a native type.
-/

namespace ScriptBind

/-- A lazy constant. -/
structure Constant where
  ref : ConstantRef
  type : Tag
  name : String
deriving DecidableEq

namespace Constant

/-- The constant that a builtin type of a registry declares under a name. -/
def declared? (registry : Nat) (b : Registry.Builtin) (name : String) : Option Constant :=
  (b.constant? name).map fun spelling =>
    ⟨.declared registry b.hash (b.hash.constant name), b.tag, spelling⟩

/-- The name of a constant with its type. -/
def text (c : Constant) : String := c.type.name ++ "." ++ c.name

/-- A one-line summary. -/
def debugText (type : Tag) (name : String) (fetched : Bool) : String :=
  "BuiltinConstant \x7b variant_type: " ++ type.label ++ ", name: " ++ Text.quoted name ++
    ", fetched: " ++ (if fetched then "true" else "false") ++ " \x7d"

end Constant

namespace World

/-- The outcome of a constant that was fetched before. -/
def knownOutcome? (w : World) (c : ConstantRef) : Option (Except HostError Variant) :=
  Keyed.get? c w.fetched

def isFetched (w : World) (c : ConstantRef) : Bool := (w.knownOutcome? c).isSome

/-- The loose constant of a number. -/
def looseConstant (w : World) (i : Nat) : Constant :=
  let (type, name) := w.constants.getD i (.nil, "")
  ⟨.loose i, type, name⟩

end World

namespace ScriptM

/-- The outcome of a constant. Only one that is not known yet needs a host. -/
def constantOutcome (c : Constant) (host : ScriptM Nat) : ScriptM (Except HostError Variant) := do
  match (← get).knownOutcome? c.ref with
  | some outcome => return outcome
  | none =>
    let answer ← askConstant (← host) c.type c.name
    modify fun w => { w with fetched := Keyed.put c.ref answer w.fetched }
    return answer

/-- Pushes a constant as a value of a native type. -/
def pushConstantAs (type : NativeType) (c : Constant) : ScriptM Nat := do
  let v ← granted (← constantOutcome c do return (← context).host)
  match type.ofVariant? v with
  | some x =>
    pushNative x
    return 1
  | none => throw (.runtime ("constant " ++ c.text ++ " is not a " ++ type.name))

/-- Pushes a constant in its script representation. -/
def pushConstant (c : Constant) : ScriptM Nat := pushConstantAs .variant c

end ScriptM

end ScriptBind
