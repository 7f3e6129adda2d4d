import ScriptBind.Proofs.Registry.Bindings
import ScriptBind.Session.Setup

/-!
# Declared integers

Descriptions name integers in four places: as values of the enums of builtin types, as constants of
classes and as values of their enums, and as values of global enums. Where a name is given twice the
last declaration counts. In builtin types all is known by digests, so there it matters too that no
other name has the same digest.

Main results:

* `Api.Document.Declares` — where scripts are to find which integer.
* `Registry.Builtin.enumValue?_declared` — what the binding of a builtin type knows of it.
-/

namespace ScriptBind

/-! ## Descriptions -/

namespace Api

/-- The integers of the enums of a builtin type by name, in declaration order. -/
def BuiltinType.integers (b : BuiltinType) : List (String × Int64) :=
  (b.enums.flatMap fun e => e.values).map fun v => (v.name, v.value)

/-- The constants of a class, and then the integers of its enums. -/
def ClassEntry.integers (c : ClassEntry) : List (String × Int64) :=
  (c.constants.map fun k => (k.name, k.value)) ++
    c.enums.flatMap fun e => e.values.map fun v => (v.name, v.value)

def EnumEntry.integers (e : EnumEntry) : List (String × Int64) :=
  e.values.map fun v => (v.name, v.value)

/-- A name of an enum value that no other enum value and no constant of the builtin type shares its
digest with, and that is not the name of the constructor. -/
structure BuiltinType.Alone (b : BuiltinType) (name : String) : Prop where
  not_new : name ≠ "new"
  constants : ∀ c ∈ b.constants, Hash.digestText c.name ≠ Hash.digestText name
  values : ∀ v ∈ b.integers, Hash.digestText v.1 = Hash.digestText name → v.1 = name

/-- `d.Declares s root keys n`: in a state that is set up in this way, the description puts an
integer where the keys lead to from a global. -/
inductive Document.Declares (d : Document) (s : Setup) : String → List String → Int64 → Prop
  | builtin {b : BuiltinType} {t : Tag} {name : String} {n : Int64} (opened : s.builtins = true)
      (mem : b ∈ d.builtins) (tag : b.tag = .ok t) (foreign : t.isScriptNative = false)
      (alone : b.Alone name) (value : Keyed.last? name b.integers = some n) :
      Declares d s b.name [name] n
  | ofClass {c : ClassEntry} {name : String} {n : Int64} (opened : s.classes = true)
      (mem : c ∈ d.classes) (value : Keyed.last? name c.integers = some n) :
      Declares d s c.name [name] n
  | enumeration {enum name : String} {e : EnumEntry} {n : Int64} (opened : s.enums = true)
      (last : Keyed.last? enum (d.enums.map fun e => (e.name, e)) = some e)
      (value : Keyed.last? name e.integers = some n) :
      Declares d s enumGlobal [enum, name] n

end Api

/-! ## Bindings -/

/-- Other keys make no difference as long as they differ from the others too. -/
theorem Keyed.last?_map_key {κ κ' α : Type} [BEq κ] [LawfulBEq κ] [BEq κ'] [LawfulBEq κ'] (f : κ → κ')
    {k : κ} {l : List (κ × α)} (apart : ∀ p ∈ l, f p.1 = f k → p.1 = k) :
    last? (f k) (l.map fun p => (f p.1, p.2)) = last? k l := by
  induction l with
  | nil => rfl
  | cons p rest ih =>
    obtain ⟨j, a⟩ := p
    have same : (f j == f k) = (j == k) := by
      rw [Bool.eq_iff_iff, beq_iff_eq, beq_iff_eq]
      exact ⟨apart (j, a) List.mem_cons_self, congrArg f⟩
    rw [List.map_cons, last?, last?, same, ih fun p hp => apart p (List.mem_cons_of_mem _ hp)]

/-- Values under other keys. -/
theorem Keyed.last?_map_value {κ α β : Type} [BEq κ] (f : α → β) (k : κ) (l : List (κ × α)) :
    last? k (l.map fun p => (p.1, f p.2)) = (last? k l).map f := by
  induction l with
  | nil => rfl
  | cons p rest ih =>
    obtain ⟨j, a⟩ := p
    rw [List.map_cons, last?, last?, ih]
    cases last? k rest with
    | some b => rfl
    | none => by_cases here : (j == k) = true <;> simp [here]

namespace Registry

namespace Builtin

variable {a : Api.BuiltinType} {b : Builtin} (h : ofApi a = .ok b)
include h

theorem enumValues_of_ofApi :
    b.enumValues = (a.integers.map fun v => (b.hash.constant v.1, v.2)).foldl
      (fun known v => Keyed.put v.1 v.2 known) [] := by
  obtain ⟨t, tag, h⟩ := bind_eq_ok.mp h
  dsimp only at h
  split at h
  · cases h
  · obtain ⟨constants, collected, h⟩ := bind_eq_ok.mp h
    obtain ⟨methods, declared, h⟩ := bind_eq_ok.mp h
    obtain ⟨members, read, h⟩ := bind_eq_ok.mp h
    obtain ⟨constructors, built, h⟩ := bind_eq_ok.mp h
    cases h
    rw [Api.BuiltinType.integers, List.map_map, List.foldl_map]
    rfl

variable {name : String} (alone : a.Alone name)
include alone

/-- The integer of a name that stands alone is the declared one. -/
theorem enumValue?_declared : b.enumValue? name = Keyed.last? name a.integers := by
  have apart : ∀ p ∈ a.integers, b.hash.constant p.1 = b.hash.constant name → p.1 = name :=
    fun p hp same => alone.values p hp (TypeHash.constant_inj.mp same)
  rw [enumValue?, enumValues_of_ofApi h, Keyed.get?_foldl_put, Keyed.get?, Option.or_none]
  exact Keyed.last?_map_key b.hash.constant apart

theorem constant?_undeclared : b.constant? name = none := by
  cases found : b.constant? name with
  | none => rfl
  | some spelling =>
    obtain ⟨c, mem, same⟩ := (made_of_ofApi h).constants _ (Keyed.mem_of_get? found)
    rw [(made_of_ofApi h).hash] at same
    exact absurd (TypeHash.constant_inj.mp (Prod.mk.inj same).1).symm (alone.constants c mem)

end Builtin

/-- A class has its integers in declaration order. -/
theorem Class.constants_of_ofApi {c : Api.ClassEntry} {k : Class} (h : ofApi c = .ok k) :
    k.constants = c.integers := by
  obtain ⟨_, -, h⟩ := bind_eq_ok.mp h
  cases h
  rfl

variable {d : Api.Document} {r : Registry} (built : ofApi d = .ok r)
include built

theorem exists_builtin {a : Api.BuiltinType} (mem : a ∈ d.builtins) :
    ∃ b ∈ r.builtins, Builtin.ofApi a = .ok b := by
  obtain ⟨b, made⟩ := exists_made.mp ⟨_, (builtins_of_ofApi built).1⟩ a mem
  exact ⟨b, (mem_builtins_iff built).mpr ⟨a, mem, made⟩, made⟩

/-- The last enum of a name has its integers in declaration order. -/
theorem last?_enums {name : String} {e : Api.EnumEntry}
    (last : Keyed.last? name (d.enums.map fun e => (e.name, e)) = some e) :
    ∃ k, Keyed.last? name (r.enums.map fun e => (e.name, e)) = some k ∧ k.values = e.integers := by
  obtain ⟨_, -, h⟩ := bind_eq_ok.mp built
  obtain ⟨_, -, h⟩ := bind_eq_ok.mp h
  obtain ⟨_, -, h⟩ := bind_eq_ok.mp h
  obtain ⟨_, -, h⟩ := bind_eq_ok.mp h
  cases h
  refine ⟨.ofApi e, ?_, rfl⟩
  have mapped := Keyed.last?_map_value Enumeration.ofApi name (d.enums.map fun e => (e.name, e))
  rw [List.map_map, last] at mapped
  rw [List.map_map]
  exact mapped

end Registry

end ScriptBind
