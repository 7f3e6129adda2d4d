import ScriptBind.Api.ArgType
import ScriptBind.Api.Bundled
import ScriptBind.Host.Basic
import Mathlib.Data.List.Forall2

/-!
# What a host is to answer

A description declares types, and a host answers with values. `Api.Document.Promises` reads off a
description which type the answer to a request has; `Suits` says that an answer is a value of this
type, or that an argument is refused. The engine and the description were written independently of
each other.

* `Variant.IsOf`, `ArgType.Takes` — the values of a declared type, as results and as arguments.
* `Host.answer` — the answer to any request, as a value.
* `Host.Exceeds` — the requests whose answer does not fit a fixed width.
-/

namespace ScriptBind

/-! ## Declared types -/

/-- A value is of a declared type. Where none is declared, it is nil. -/
def Variant.IsOf (v : Variant) : Option ArgType → Prop
  | none => v = .nil
  | some t => ∀ tag ∈ t.tag?, v.tag = tag

/-- A value may be passed as an argument of a declared type. Where objects are declared, nil stands
for none. -/
def ArgType.Takes (t : ArgType) (v : Variant) : Prop :=
  v.IsOf (some t) ∨ t.tag? = some .object ∧ v = .nil

theorem ArgType.parse_name (t : Tag) : parse t.name = .builtin t := by
  cases t <;> decide +kernel

/-- A value is of the type that the name of its tag spells. -/
theorem Variant.isOf_parse (v : Variant) : v.IsOf (some (ArgType.parse v.tag.name)) := by
  rw [ArgType.parse_name]
  exact fun _ h => Option.some.inj h

theorem ArgType.tag_of_takes {t : Tag} (other : t ≠ .object) {v : Variant}
    (takes : (parse t.name).Takes v) : v.tag = t := by
  rw [parse_name] at takes
  rcases takes with isOf | ⟨object, -⟩
  · exact isOf t rfl
  · exact absurd (Option.some.inj object) other

/-- Any value is of the type that stands for any. -/
theorem Variant.isOf_any (v : Variant) : v.IsOf (some (ArgType.parse "Variant")) := by
  have any : ArgType.parse "Variant" = .any := by decide +kernel
  rw [any]
  exact fun _ h => (by cases h)

/-- An answer is a value of a declared type, or the refusal of an argument. -/
def Suits (t : Option ArgType) : Except HostError Variant → Prop
  | .ok v => v.IsOf t
  | .error (.invalidArgument _ _ _) => True
  | .error _ => False

/-- A value as an answer whose type is declared by name. -/
theorem suits_value (v : Variant) : Suits (some (ArgType.parse v.tag.name)) (.ok v) := v.isOf_parse

/-- A value as an answer of its builtin type. -/
theorem suits_built (v : Variant) : Suits (some (.builtin v.tag)) (.ok v) :=
  fun _ h => Option.some.inj h

/-- If anything is wrong, it is an argument. -/
def Refuses {α : Type} (x : Except HostError α) : Prop :=
  ∀ e, x = .error e → ∃ method index reason, e = .invalidArgument method index reason

section Refuses

variable {α : Type}

theorem Refuses.ok (a : α) : Refuses (.ok a) := fun _ h => (by cases h)

theorem Refuses.invalidArgument (method : String) (index : Nat) (reason : String) :
    Refuses (.error (.invalidArgument method index reason) : Except HostError α) := by
  intro e h
  cases h
  exact ⟨_, _, _, rfl⟩

theorem Suits.bind {x : Except HostError α} {f : α → Except HostError Variant} {t : Option ArgType}
    (hx : Refuses x) (hf : ∀ a, Suits t (f a)) : Suits t (x >>= f) := by
  cases x with
  | ok a => exact hf a
  | error e =>
    obtain ⟨_, _, _, rfl⟩ := hx e rfl
    exact True.intro

theorem Suits.refuses {x : Except HostError Variant} {t : Option ArgType} (h : Suits t x) :
    Refuses x := by
  rintro e rfl
  cases e with
  | invalidArgument method index reason => exact ⟨method, index, reason, rfl⟩
  | _ => cases h

end Refuses

/-! ## Promises -/

/-- The answer to a request as a value: an object that is created, the name of a class. -/
def Host.answer (h : Host) : Request → Except HostError Variant
  | .constant type name => h.engine.constant type name
  | .construct type index args => h.engine.construct type index args
  | .call receiver method args => (h.engine.call receiver method args).1
  | .callStatic type method args => h.engine.callStatic type method args
  | .member target name => h.engine.member target name
  | .stringify value => .ok (.string (h.engine.stringify h.classes value))
  | .instantiate cls => (h.classes.instantiate cls).1.map .object
  | .callObject id cls method args => (h.classes.call id cls method args).1
  | .className id => (h.classes.classOf id).map .string

namespace Api.Document

/-- `d.Promises q t`: the description declares the answer to the request to be of the type; `none`
is that of a method without result. -/
inductive Promises (d : Document) : Request → Option ArgType → Prop
  | constant {b : BuiltinType} {type : Tag} {k : Constant} (hb : b ∈ d.builtins)
      (tag : b.tag = .ok type) (hk : k ∈ b.constants) :
      Promises d (.constant type k.name) (some (ArgType.parse k.type))
  | construct {b : BuiltinType} {type : Tag} {k : Constructor} {args : List Variant}
      (hb : b ∈ d.builtins) (tag : b.tag = .ok type) (hk : k ∈ b.constructors)
      (takes : List.Forall₂ (fun a v => (ArgType.parse a.type).Takes v) k.arguments args) :
      Promises d (.construct type k.index args) (some (.builtin type))
  | call {b : BuiltinType} {receiver : Variant} {m : BuiltinMethod} {args : List Variant}
      (hb : b ∈ d.builtins) (tag : b.tag = .ok receiver.tag) (hm : m ∈ b.methods)
      (nonstatic : m.isStatic = false) :
      Promises d (.call receiver m.name args) (m.returnType.map ArgType.parse)
  | callStatic {b : BuiltinType} {type : Tag} {m : BuiltinMethod} {args : List Variant}
      (hb : b ∈ d.builtins) (tag : b.tag = .ok type) (hm : m ∈ b.methods)
      (static : m.isStatic = true) :
      Promises d (.callStatic type m.name args) (m.returnType.map ArgType.parse)
  | member {b : BuiltinType} {target : Variant} {m : Member} (hb : b ∈ d.builtins)
      (tag : b.tag = .ok target.tag) (hm : m ∈ b.members) :
      Promises d (.member target m.name) (some (ArgType.parse m.type))
  | instantiate {e : ClassEntry} (he : e ∈ d.classes) (instantiable : e.isInstantiable = true) :
      Promises d (.instantiate e.name) (some (.object e.name))
  | callObject {e : ClassEntry} {m : ClassMethod} {id : ObjectId} {args : List Variant}
      (he : e ∈ d.classes) (hm : m ∈ e.methods) :
      Promises d (.callObject id e.name m.name args)
        (m.returnValue.map fun r => ArgType.parse r.type)

end Api.Document

/-- A request whose answer does not fit a fixed width: the magnitude of the least integer, and a
child more than can be counted. -/
inductive Host.Exceeds (h : Host) : Request → Prop
  | abs {v : Vector3i} {args : List Variant}
      (least : v.x = Int32.minValue ∨ v.y = Int32.minValue ∨ v.z = Int32.minValue) :
      Exceeds h (.call (.vector3i v) "abs" args)
  | addChild {id : ObjectId} {o : EngineObject} {cls : String} {args : List Variant}
      (alive : h.classes.object? id = some o) (full : o.get "child_count" = .int Int64.maxValue) :
      Exceeds h (.callObject id cls "add_child" args)

end ScriptBind
