import ScriptBind.Proofs.Host.Answers

/-!
# The reference engine and the bundled description

Whatever the arguments, the reference engine answers a request about a builtin value as the bundled
description declares: with a value of the declared type, or by the refusal of an argument. Only a
constructor relies on arguments of the declared types, by which its overloads are told apart.

Main results:

* `suits_constant`, `suits_construct`, `suits_answer`, `suits_callStatic`, `suits_member` — one for
  each kind of request.
-/

namespace ScriptBind

namespace Math

open Api

theorem refuses_argument {α : Type} (expected : String) (view : Variant → Option α)
    (method : String) (args : List Variant) (index : Nat) :
    Refuses (argument expected view method args index) := by
  unfold argument
  split
  · exact .invalidArgument _ _ _
  · split
    · exact .ok _
    · exact .invalidArgument _ _ _

/-- An answer that needs an argument. -/
theorem suits_argument {α : Type} {expected : String} {view : Variant → Option α}
    {method : String} {args : List Variant} {index : Nat} {f : α → Except HostError Variant}
    {t : Option ArgType} (hf : ∀ a, Suits t (f a)) :
    Suits t (argument expected view method args index >>= f) :=
  .bind (refuses_argument expected view method args index) hf

/-- An answer that needs an argument unless it is left out. -/
theorem suits_argumentOr {α : Type} {expected : String} {view : Variant → Option α}
    {method : String} {args : List Variant} {index : Nat} {p : Prop} {_ : Decidable p} {default : α}
    {f : α → Except HostError Variant} {t : Option ArgType} (hf : ∀ a, Suits t (f a)) :
    Suits t (if p then pure default >>= f else argument expected view method args index >>= f) := by
  split
  · exact hf default
  · exact suits_argument hf

/-- The builtin types of the bundled description: plain values, about which it says nothing, and the
math types. -/
theorem bundled_builtins {motive : Tag → BuiltinType → Prop}
    (plain : ∀ t name, motive t (plainType name)) (vector2 : motive .vector2 vector2Type)
    (vector2i : motive .vector2i vector2iType) (vector3 : motive .vector3 vector3Type)
    (vector3i : motive .vector3i vector3iType) (color : motive .color colorType) {b : BuiltinType}
    (hb : b ∈ Document.bundled.builtins) {type : Tag} (tag : b.tag = .ok type) : motive type b := by
  simp only [Document.bundled, List.mem_cons, List.not_mem_nil, or_false] at hb
  rcases hb with rfl | rfl | rfl | rfl | rfl | rfl | rfl | rfl | rfl | rfl <;> cases tag
  case inr.inr.inr.inr.inr.inl => exact vector2
  case inr.inr.inr.inr.inr.inr.inl => exact vector2i
  case inr.inr.inr.inr.inr.inr.inr.inl => exact vector3
  case inr.inr.inr.inr.inr.inr.inr.inr.inl => exact vector3i
  case inr.inr.inr.inr.inr.inr.inr.inr.inr => exact color
  all_goals exact plain _ _

/-! ### Methods of values -/

section Methods

variable {m : BuiltinMethod} (args : List Variant)

theorem suits_vector2 (v : Vector2) (hm : m ∈ vector2Type.methods)
    (nonstatic : m.isStatic = false) :
    Suits (m.returnType.map ArgType.parse) (answer (.vector2 v) m.name args) := by
  simp only [vector2Type, List.mem_cons, List.not_mem_nil, or_false] at hm
  rcases hm with rfl | rfl | rfl | rfl | rfl | rfl | rfl
  · exact suits_value _
  · exact suits_value _
  · exact suits_value _
  · exact suits_value _
  · exact suits_argument fun _ => suits_value _
  · exact suits_argument fun _ => suits_argument fun _ => suits_value _
  -- `from_angle` belongs to the type
  · cases nonstatic

theorem suits_vector3 (v : Vector3) (hm : m ∈ vector3Type.methods) :
    Suits (m.returnType.map ArgType.parse) (answer (.vector3 v) m.name args) := by
  simp only [vector3Type, List.mem_cons, List.not_mem_nil, or_false] at hm
  rcases hm with rfl | rfl | rfl | rfl
  · exact suits_value _
  · exact suits_value _
  · exact suits_argument fun _ => suits_value _
  · exact suits_argument fun _ => suits_value _

theorem suits_color (c : Color) (hm : m ∈ colorType.methods) (nonstatic : m.isStatic = false) :
    Suits (m.returnType.map ArgType.parse) (answer (.color c) m.name args) := by
  simp only [colorType, List.mem_cons, List.not_mem_nil, or_false] at hm
  rcases hm with rfl | rfl | rfl | rfl
  · exact suits_value _
  · exact suits_argument fun _ => suits_argument fun _ => suits_value _
  · exact suits_argumentOr fun _ => suits_value _
  · cases nonstatic

theorem suits_vector2i (v : Vector2i) (hm : m ∈ vector2iType.methods) :
    Suits (m.returnType.map ArgType.parse) (answer (.vector2i v) m.name args) := by
  simp only [vector2iType, List.mem_cons, List.not_mem_nil, or_false] at hm
  obtain rfl := hm
  exact suits_value _

theorem suits_vector3i (v : Vector3i) (hm : m ∈ vector3iType.methods) {h : Host}
    (holds : ¬ h.Exceeds (.call (.vector3i v) m.name args)) :
    Suits (m.returnType.map ArgType.parse) (answer (.vector3i v) m.name args) := by
  simp only [vector3iType, List.mem_cons, List.not_mem_nil, or_false] at hm
  obtain rfl := hm
  have magnitude : v.abs? = some ⟨v.x.abs, v.y.abs, v.z.abs⟩ :=
    if_neg fun least => holds (.abs least)
  have answered :
      answer (.vector3i v) "abs" args = .ok (.vector3i ⟨v.x.abs, v.y.abs, v.z.abs⟩) := by
    simp only [answer, magnitude]
  show Suits _ (answer (.vector3i v) "abs" args)
  rw [answered]
  exact suits_value _

/-- A method that the type of a value declares answers as declared. -/
theorem suits_answer {b : BuiltinType} (hb : b ∈ Document.bundled.builtins) {receiver : Variant}
    (tag : b.tag = .ok receiver.tag) (hm : m ∈ b.methods) (nonstatic : m.isStatic = false)
    {h : Host} (holds : ¬ h.Exceeds (.call receiver m.name args)) :
    Suits (m.returnType.map ArgType.parse) (answer receiver m.name args) := by
  revert hm
  refine bundled_builtins (motive := fun t b => receiver.tag = t → m ∈ b.methods → _)
    ?plain ?vector2 ?vector2i ?vector3 ?vector3i ?color hb tag rfl
  case plain => exact fun _ _ _ hm => absurd hm List.not_mem_nil
  all_goals intro type hm
  all_goals cases receiver <;> cases type
  case vector2 v => exact suits_vector2 args v hm nonstatic
  case vector2i v => exact suits_vector2i args v hm
  case vector3 v => exact suits_vector3 args v hm
  case vector3i v => exact suits_vector3i args v hm holds
  case color c => exact suits_color args c hm nonstatic

end Methods

/-! ### Everything else -/

theorem suits_callStatic {b : BuiltinType} (hb : b ∈ Document.bundled.builtins) {type : Tag}
    (tag : b.tag = .ok type) {m : BuiltinMethod} (hm : m ∈ b.methods) (static : m.isStatic = true)
    (args : List Variant) :
    Suits (m.returnType.map ArgType.parse) (callStatic type m.name args) := by
  revert hm
  refine bundled_builtins (motive := fun t b => m ∈ b.methods → Suits _ (callStatic t m.name args))
    ?plain ?vector2 ?vector2i ?vector3 ?vector3i ?color hb tag
  case plain => exact fun _ _ hm => absurd hm List.not_mem_nil
  all_goals intro hm
  all_goals
    simp only [vector2Type, vector2iType, vector3Type, vector3iType, colorType, List.mem_cons,
      List.not_mem_nil, or_false] at hm
  -- one static method stands last among those of its type, and the others are called on a value
  case vector2 =>
    rcases hm with rfl | rfl | rfl | rfl | rfl | rfl | rfl
    case inr.inr.inr.inr.inr.inr => exact suits_argument fun _ => suits_value _
    all_goals cases static
  case color =>
    rcases hm with rfl | rfl | rfl | rfl
    case inr.inr.inr =>
      exact suits_argument fun _ => suits_argument fun _ => suits_argument fun _ =>
        suits_argumentOr fun _ => suits_value _
    all_goals cases static
  case vector3 => rcases hm with rfl | rfl | rfl | rfl <;> cases static
  all_goals
    obtain rfl := hm
    cases static

theorem suits_member {b : BuiltinType} (hb : b ∈ Document.bundled.builtins) {target : Variant}
    (tag : b.tag = .ok target.tag) {m : Member} (hm : m ∈ b.members) :
    Suits (some (ArgType.parse m.type)) (member target m.name) := by
  revert hm
  refine bundled_builtins (motive := fun t b => target.tag = t → m ∈ b.members → _)
    ?plain ?vector2 ?vector2i ?vector3 ?vector3i ?color hb tag rfl
  case plain => exact fun _ _ _ hm => absurd hm List.not_mem_nil
  all_goals intro type hm
  all_goals
    simp only [vector2Type, vector2iType, vector3Type, vector3iType, colorType, List.mem_cons,
      List.not_mem_nil, or_false] at hm
  all_goals cases target <;> cases type
  case vector2 | vector2i => rcases hm with rfl | rfl <;> exact suits_value _
  case vector3 | vector3i => rcases hm with rfl | rfl | rfl <;> exact suits_value _
  case color => rcases hm with rfl | rfl | rfl | rfl <;> exact suits_value _

theorem suits_constant {b : BuiltinType} (hb : b ∈ Document.bundled.builtins) {type : Tag}
    (tag : b.tag = .ok type) {k : Constant} (hk : k ∈ b.constants) :
    Suits (some (ArgType.parse k.type)) (constant type k.name) := by
  revert hk
  refine bundled_builtins
    (motive := fun t b => k ∈ b.constants → Suits _ (constant t k.name))
    ?plain ?vector2 ?vector2i ?vector3 ?vector3i ?color hb tag
  case plain => exact fun _ _ hk => absurd hk List.not_mem_nil
  all_goals intro hk
  all_goals
    simp only [vector2Type, vector2iType, vector3Type, vector3iType, colorType, List.mem_cons,
      List.not_mem_nil, or_false] at hk
  case vector2 =>
    rcases hk with rfl | rfl | rfl | rfl | rfl | rfl | rfl | rfl <;> exact suits_value _
  case vector2i | vector3i => rcases hk with rfl | rfl <;> exact suits_value _
  case vector3 | color => rcases hk with rfl | rfl | rfl | rfl <;> exact suits_value _

/-- What a constructor takes that copies or converts one value. -/
theorem takes_one {name : String} {t : Tag} (other : t ≠ .object) {args : List Variant}
    (takes : List.Forall₂ (fun a v => (ArgType.parse a.type).Takes v) [Api.argument name t.name]
      args) :
    ∃ v, args = [v] ∧ v.tag = t := by
  cases takes with
  | cons first rest =>
    cases rest
    exact ⟨_, rfl, ArgType.tag_of_takes other first⟩

theorem suits_construct {b : BuiltinType} (hb : b ∈ Document.bundled.builtins) {type : Tag}
    (tag : b.tag = .ok type) {k : Constructor} (hk : k ∈ b.constructors) {args : List Variant}
    (takes : List.Forall₂ (fun a v => (ArgType.parse a.type).Takes v) k.arguments args) :
    Suits (some (.builtin type)) (construct type k.index args) := by
  revert hk
  refine bundled_builtins
    (motive := fun t b => k ∈ b.constructors → Suits (some (.builtin t)) (construct t k.index args))
    ?plain ?vector2 ?vector2i ?vector3 ?vector3i ?color hb tag
  case plain => exact fun _ _ hk => absurd hk List.not_mem_nil
  all_goals intro hk
  all_goals
    simp only [vector2Type, vector2iType, vector3Type, vector3iType, colorType, List.mem_cons,
      List.not_mem_nil, or_false] at hk
  -- a constructor takes nothing, a value to copy or to convert, or the components
  case vector2 =>
    rcases hk with rfl | rfl | rfl | rfl
    · cases takes
      exact suits_built _
    · obtain ⟨v, rfl, type⟩ := takes_one (t := .vector2) (by decide) takes
      cases v <;> cases type
      exact suits_built _
    · obtain ⟨v, rfl, type⟩ := takes_one (t := .vector2i) (by decide) takes
      cases v <;> cases type
      exact suits_built _
    · exact suits_argument fun _ => suits_argument fun _ => suits_built _
  case vector2i =>
    rcases hk with rfl | rfl | rfl | rfl
    · cases takes
      exact suits_built _
    · obtain ⟨v, rfl, type⟩ := takes_one (t := .vector2i) (by decide) takes
      cases v <;> cases type
      exact suits_built _
    · obtain ⟨v, rfl, type⟩ := takes_one (t := .vector2) (by decide) takes
      cases v <;> cases type
      exact suits_built _
    · exact suits_argument fun _ => suits_argument fun _ => suits_built _
  case vector3 =>
    rcases hk with rfl | rfl | rfl | rfl
    · cases takes
      exact suits_built _
    · obtain ⟨v, rfl, type⟩ := takes_one (t := .vector3) (by decide) takes
      cases v <;> cases type
      exact suits_built _
    · obtain ⟨v, rfl, type⟩ := takes_one (t := .vector3i) (by decide) takes
      cases v <;> cases type
      exact suits_built _
    · exact suits_argument fun _ => suits_argument fun _ => suits_argument fun _ => suits_built _
  case vector3i =>
    rcases hk with rfl | rfl
    · cases takes
      exact suits_built _
    · exact suits_argument fun _ => suits_argument fun _ => suits_argument fun _ => suits_built _
  case color =>
    rcases hk with rfl | rfl | rfl | rfl
    · cases takes
      exact suits_built _
    · obtain ⟨v, rfl, type⟩ := takes_one (t := .color) (by decide) takes
      cases v <;> cases type
      exact suits_built _
    · exact suits_argument fun _ => suits_argument fun _ => suits_argument fun _ => suits_built _
    · exact suits_argument fun _ => suits_argument fun _ => suits_argument fun _ =>
        suits_argument fun _ => suits_built _

end Math

end ScriptBind
