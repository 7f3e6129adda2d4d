import ScriptBind.Proofs.Registry.Integers
import ScriptBind.Binding.ObjectClass

/-!
# What libraries serve

Several kinds of names share the library of a type, and where one name is declared as more than one
of them, the others are hidden. A builtin type serves its constructor, its constants, the integers of
its enums and its static methods, in this order. A class serves its integers, and its constructor
where no integer takes its place.

The libraries of builtin types know all names but `new` by digests. As long as no two of the names
have the same digest, this makes no difference.

Main results:

* `Api.BuiltinType.served`, `Api.ClassEntry.served`, `Api.EnumEntry.value` — what a description says
  of a library, and of the table of an enum.
* `Registry.Builtin.lookedUp_of_ofApi` — what the binding of a builtin type knows of it.
* `Registry.builtin?_undeclared` — no binding is found for another name.
-/

namespace ScriptBind

/-- A value that a library has for scripts. -/
inductive Held where
  | integer (n : Int64)
  | function (g : Function)

namespace Held

/-- The entries of the library of a builtin type. -/
def ofBuiltin (type key : String) : Option Held :=
  if key = "new" then some (.function ⟨"builtin_ctor", .handler .builtinCtor, [.string type]⟩)
  else none

/-- The entries of the library of a class. An integer takes the place of the constructor. -/
def ofClass (cls : String) (isInstantiable : Bool) (integers : List (String × Int64))
    (key : String) : Option Held :=
  ((Keyed.last? key integers).map integer).or
    (if key = "new" then
      some (.function (if isInstantiable then ⟨"class_ctor", .handler .classCtor, [.string cls]⟩
        else ⟨"class_no_ctor", .handler .classNoCtor, [.string cls]⟩))
    else none)

end Held

/-- What a library serves under a name. -/
inductive Found where
  | held (h : Held)
  /-- What the accessor of a constant pushes. -/
  | constant (c : Constant)
  /-- A function that is made when the name is read. -/
  | made (g : Function)
  | nothing

/-! ## Descriptions -/

namespace Api

/-- A function that calls a static method. -/
def BuiltinType.staticCall (b : BuiltinType) (name : String) : Function :=
  ⟨name, .handler .builtinStaticCall, [.string b.name, .string name]⟩

/-- The names that a library of a builtin type looks up. -/
def BuiltinType.looked (b : BuiltinType) : List String :=
  b.constants.map (fun c => c.name) ++ b.integers.map Prod.fst ++ b.methods.map fun m => m.name

/-- What a library of a builtin type finds when it looks a name up. -/
def BuiltinType.lookedUp (b : BuiltinType) (registry : Nat) (tag : Tag) (key : String) : Found :=
  if key ∈ b.constants.map fun c => c.name then
    .constant ⟨.declared registry (.ofName b.name) ((TypeHash.ofName b.name).constant key), tag, key⟩
  else
    match Keyed.last? key b.integers with
    | some n => .held (.integer n)
    | none =>
      if ∃ m ∈ b.methods, m.name = key ∧ m.flags.isStatic = true then .made (b.staticCall key)
      else .nothing

/-- A name that is looked up is known by its digest. -/
theorem BuiltinType.eq_of_looked {b : BuiltinType} {key name : String}
    (apart : HashesApart (key :: b.looked)) (mem : name ∈ b.looked)
    (same : Hash.digestText name = Hash.digestText key) : name = key :=
  apart name (List.mem_cons_of_mem _ mem) key List.mem_cons_self same

/-- What a library of a builtin type serves: its one entry, and what it looks up. -/
def BuiltinType.served (b : BuiltinType) (registry : Nat) (tag : Tag) (key : String) : Found :=
  match Held.ofBuiltin b.name key with
  | some h => .held h
  | none => b.lookedUp registry tag key

/-- What the library of a class serves: its entries, as long as no builtin type has its name. -/
def ClassEntry.served (c : ClassEntry) (key : String) : Found :=
  match Held.ofClass c.name c.isInstantiable c.integers key with
  | some h => .held h
  | none => .nothing

/-- The value under a key in the table of an enum. -/
def EnumEntry.value (e : EnumEntry) : Key → Value
  | .string name =>
    ((Keyed.last? name e.integers).map fun n => .number (Number.ofInt64 n)).getD .nil
  | _ => .nil

end Api

/-! ## Bindings -/

namespace Registry

namespace Builtin

/-- What a binding has under a name other than `new`. -/
def lookedUp (b : Builtin) (registry : Nat) (key : String) : Found :=
  match Constant.declared? registry b key with
  | some c => .constant c
  | none =>
    match b.enumValue? key with
    | some n => .held (.integer n)
    | none =>
      match ScriptM.staticMethod? b key with
      | some m => .made ⟨m.name, .handler .builtinStaticCall, [.string b.name, .string m.name]⟩
      | none => .nothing

variable {a : Api.BuiltinType} {b : Builtin} (h : ofApi a = .ok b)
include h

/-- The constants of a binding are the declared ones in order. -/
theorem constants_of_ofApi :
    b.constants = a.constants.map fun c => ((TypeHash.ofName a.name).constant c.name, c.name) := by
  obtain ⟨t, tag, h⟩ := bind_eq_ok.mp h
  dsimp only at h
  split at h
  · cases h
  · obtain ⟨constants, collected, h⟩ := bind_eq_ok.mp h
    obtain ⟨_, -, h⟩ := bind_eq_ok.mp h
    obtain ⟨_, -, h⟩ := bind_eq_ok.mp h
    obtain ⟨_, -, h⟩ := bind_eq_ok.mp h
    cases h
    -- the constants are collected from none, and a digest that is there already is refused
    have start : (([] : List (TypeHash × String)).map Prod.fst).Nodup := List.nodup_nil
    obtain ⟨made, hmade, -, rfl⟩ := (foldlM_collects (collects_constants a.name) start).mp collected
    have inj : Function.Injective (Except.ok : TypeHash × String → Except ApiError _) := fun _ _ h =>
      Except.ok.inj h
    refine (List.map_injective_iff.mpr inj ?_).symm
    rw [List.map_map]
    exact hmade

variable {key : String} (apart : HashesApart (key :: a.looked))
include apart

theorem constant?_of_ofApi :
    b.constant? key = if key ∈ a.constants.map fun c => c.name then some key else none := by
  have hash := (made_of_ofApi h).hash
  have spelled : ∀ spelling, b.constant? key = some spelling →
      spelling = key ∧ spelling ∈ a.constants.map fun c => c.name := by
    intro spelling found
    have listed := Keyed.mem_of_get? found
    rw [constants_of_ofApi h, hash] at listed
    obtain ⟨c, hc, same⟩ := List.mem_map.mp listed
    obtain ⟨hashes, rfl⟩ := Prod.mk.inj same
    have mem : c.name ∈ a.constants.map fun c => c.name := List.mem_map_of_mem hc
    exact ⟨Api.BuiltinType.eq_of_looked apart (List.mem_append_left _ (List.mem_append_left _ mem))
      (TypeHash.constant_inj.mp hashes), mem⟩
  -- a declared name is found, and under its digest there is no other one
  split
  next declared =>
    obtain ⟨c, hc, rfl⟩ := List.mem_map.mp declared
    have listed : (b.constant? c.name).isSome := by
      rw [constant?, Keyed.isSome_get?_iff, constants_of_ofApi h, hash, List.map_map]
      exact List.mem_map_of_mem (f := fun c : Api.Constant =>
        (TypeHash.ofName a.name).constant c.name) hc
    obtain ⟨spelling, found⟩ := Option.isSome_iff_exists.mp listed
    rw [found, (spelled spelling found).1]
  next undeclared =>
    cases found : b.constant? key with
    | none => rfl
    | some spelling =>
      obtain ⟨rfl, mem⟩ := spelled spelling found
      exact absurd mem undeclared

theorem enumValue?_of_ofApi : b.enumValue? key = Keyed.last? key a.integers := by
  have keyed : ∀ p ∈ a.integers, b.hash.constant p.1 = b.hash.constant key → p.1 = key :=
    fun p hp same => Api.BuiltinType.eq_of_looked apart (List.mem_append_left _ (List.mem_append_right _
      (List.mem_map_of_mem (f := Prod.fst) hp))) (TypeHash.constant_inj.mp same)
  rw [enumValue?, enumValues_of_ofApi h, Keyed.get?_foldl_put, Keyed.get?, Option.or_none]
  exact Keyed.last?_map_key b.hash.constant keyed

/-- A static method of a binding is a declared one. -/
theorem staticMethod?_eq_some {m : Method} (found : ScriptM.staticMethod? b key = some m) :
    m.name = key ∧ ∃ e ∈ a.methods, e.name = key ∧ e.flags.isStatic = true := by
  obtain ⟨found, isStatic⟩ := Option.filter_eq_some_iff.mp found
  obtain ⟨e, he, made, same⟩ := (method?_eq_some h).mp found
  obtain ⟨name, flags, -⟩ := Method.of_ofApi made
  have spelled : e.name = key :=
    Api.BuiltinType.eq_of_looked apart (List.mem_append_right _ (List.mem_map_of_mem he))
      (TypeHash.method_inj.mp same)
  exact ⟨name.trans spelled, e, he, spelled, flags ▸ isStatic⟩

omit apart in
/-- A declared static method is one of the binding. -/
theorem isSome_staticMethod? {e : Api.BuiltinMethod} (mem : e ∈ a.methods)
    (isStatic : e.flags.isStatic = true) : (ScriptM.staticMethod? b e.name).isSome := by
  have types := (succeeds_ofApi.mp ⟨b, h⟩).2.2.1 e mem
  obtain ⟨m, made⟩ := Method.succeeds_ofApi.mpr types
  have found : b.method? e.name = some m := (method?_eq_some h).mpr ⟨e, mem, made, rfl⟩
  have flagged : m.flags.isStatic = true := (Method.of_ofApi made).2.1 ▸ isStatic
  rw [ScriptM.staticMethod?, found]
  exact Option.isSome_of_eq_some (Option.filter_eq_some_iff.mpr ⟨rfl, flagged⟩)

/-- A binding has what its entry declares. -/
theorem lookedUp_of_ofApi (registry : Nat) :
    b.lookedUp registry key = a.lookedUp registry b.tag key := by
  have made := made_of_ofApi h
  unfold lookedUp Api.BuiltinType.lookedUp
  -- both try constants, integers and static methods in this order
  rw [Constant.declared?, constant?_of_ofApi h apart, enumValue?_of_ofApi h apart, made.hash]
  by_cases constant : key ∈ a.constants.map fun c => c.name
  · rw [if_pos constant, if_pos constant]
    rfl
  rw [if_neg constant, if_neg constant]
  cases Keyed.last? key a.integers with
  | some n => rfl
  | none =>
    dsimp only [Option.map_none]
    cases found : ScriptM.staticMethod? b key with
    | some m =>
      obtain ⟨name, declared⟩ := staticMethod?_eq_some h apart found
      dsimp only
      rw [if_pos declared, name, made.name]
      rfl
    | none =>
      refine (if_neg ?_).symm
      rintro ⟨e, he, rfl, isStatic⟩
      have some_ := isSome_staticMethod? h he isStatic
      rw [found] at some_
      cases some_

end Builtin

/-- No builtin type is found under a name that none is declared with. -/
theorem builtin?_undeclared {d : Api.Document} {r : Registry} (built : ofApi d = .ok r)
    {name : String} (other : name ∉ d.builtins.map fun b => b.name)
    (apart : HashesApart (name :: d.builtins.map fun b => b.name)) : r.builtin? name = none := by
  cases found : r.builtin? name with
  | none => rfl
  | some b =>
    have mem := List.mem_of_find?_eq_some found
    have holds := List.find?_some found
    have hash : b.hash = TypeHash.ofName name := eq_of_beq holds
    obtain ⟨a, ha, made⟩ := (mem_builtins_iff built).mp mem
    have listed : a.name ∈ d.builtins.map fun b => b.name := List.mem_map_of_mem ha
    rw [(Builtin.made_of_ofApi made).hash, TypeHash.ofName_inj] at hash
    have same := apart _ (List.mem_cons_of_mem _ listed) _ List.mem_cons_self hash
    exact absurd (same ▸ listed) other

end Registry

end ScriptBind
