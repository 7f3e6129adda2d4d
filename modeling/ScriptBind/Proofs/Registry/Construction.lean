import ScriptBind.Registry.Basic
import Mathlib.Data.List.Nodup
import Mathlib.Data.Option.Basic

/-!
# When an entry resolves

The bindings of a description are built by loops that stop at the first entry that cannot be
resolved or has the key of an earlier one. `Succeeds` says that such a computation comes to an end
without an error, and there is one lemma for each way to compose computations.

`Collects` is the shape of the loops that refuse duplicates. Whatever they collect, they leave the
bindings of all entries in their order, and they succeed exactly if every entry resolves and no two
have the same key.

Main results:

* `foldlM_collects`, `succeeds_collects` — loops that refuse duplicates.
* `Builtin.succeeds_ofApi`, `Class.succeeds_ofApi` — builtin types and classes.
-/

namespace ScriptBind.Registry

/-! ## Success -/

/-- A computation that ends without an error. -/
def Succeeds {ε α : Type} (x : Except ε α) : Prop := ∃ a, x = .ok a

section Except

variable {ε α β : Type}

/-- A result is a success. -/
theorem succeeds_ok (a : α) : Succeeds (.ok a : Except ε α) := ⟨a, rfl⟩

/-- What is returned is a success. -/
theorem succeeds_pure (a : α) : Succeeds (pure a : Except ε α) := ⟨a, rfl⟩

/-- An error is no success. -/
theorem not_succeeds_error (e : ε) : ¬ Succeeds (.error e : Except ε α) := by
  rintro ⟨a, h⟩
  cases h

/-- A success can be seen from outside. -/
theorem succeeds_of_isOk {x : Except ε α} (h : x.isOk) : Succeeds x := by
  cases x with
  | error e => cases h
  | ok a => exact succeeds_ok a

/-- What succeeds is its result. -/
theorem eq_ok_getD_of_isOk {x : Except ε α} (h : x.isOk) (a : α) : x = .ok (x.toOption.getD a) := by
  obtain ⟨b, rfl⟩ := succeeds_of_isOk h
  rfl

/-- Where something is too large to be written down, that it is there can still be computed. -/
theorem succeeds_of_computed {δ : Type} {x : Except δ α} {g : α → Except ε β} {a : α}
    (computed : (x.toOption.bind fun a => (g a).toOption).isSome) (made : x = .ok a) :
    Succeeds (g a) := by
  subst made
  cases ready : g a with
  | error e =>
    rw [Except.toOption, Option.bind_some, ready] at computed
    cases computed
  | ok b => exact succeeds_ok b

/-- A sequence has a result if both parts have. -/
theorem bind_eq_ok {x : Except ε α} {g : α → Except ε β} {b : β} :
    (x >>= g) = .ok b ↔ ∃ a, x = .ok a ∧ g a = .ok b := by
  cases x with
  | error e => exact ⟨fun h => (by cases h), fun ⟨_, h, _⟩ => (by cases h)⟩
  | ok a => exact ⟨fun h => ⟨a, rfl, h⟩, fun ⟨_, h, hb⟩ => (by cases h; exact hb)⟩

/-- A sequence succeeds if both parts do. -/
theorem succeeds_bind {x : Except ε α} {g : α → Except ε β} :
    Succeeds (x >>= g) ↔ ∃ a, x = .ok a ∧ Succeeds (g a) := by
  constructor
  · rintro ⟨b, hb⟩
    obtain ⟨a, ha, hb⟩ := bind_eq_ok.mp hb
    exact ⟨a, ha, b, hb⟩
  · rintro ⟨a, ha, b, hb⟩
    exact ⟨b, bind_eq_ok.mpr ⟨a, ha, hb⟩⟩

/-- Whether the rest succeeds does not depend on what came before. -/
theorem succeeds_bind_iff {x : Except ε α} {g : α → Except ε β} {P : Prop}
    (h : ∀ a, x = .ok a → (Succeeds (g a) ↔ P)) : Succeeds (x >>= g) ↔ Succeeds x ∧ P := by
  rw [succeeds_bind]
  constructor
  · rintro ⟨a, ha, hg⟩
    exact ⟨⟨a, ha⟩, (h a ha).mp hg⟩
  · rintro ⟨⟨a, ha⟩, hp⟩
    exact ⟨a, ha, (h a ha).mpr hp⟩

/-- A result can be turned into another one without failing. -/
theorem succeeds_map {x : Except ε α} {g : α → β} :
    Succeeds (x >>= fun a => pure (g a)) ↔ Succeeds x := by
  rw [succeeds_bind_iff fun a _ => iff_true_intro (succeeds_pure (g a)), and_true]

/-- A list succeeds if all of its entries do. -/
theorem succeeds_mapM {g : α → Except ε β} {as : List α} :
    Succeeds (as.mapM g) ↔ ∀ a ∈ as, Succeeds (g a) := by
  induction as with
  | nil =>
    rw [List.mapM_nil]
    exact ⟨fun _ a ha => absurd ha List.not_mem_nil, fun _ => succeeds_ok []⟩
  | cons a rest ih =>
    rw [List.mapM_cons, succeeds_bind_iff fun _ _ => succeeds_map, ih, List.forall_mem_cons]

/-- What is missing does not fail. -/
theorem succeeds_optionMapM {g : α → Except ε β} {o : Option α} :
    Succeeds (o.mapM g) ↔ ∀ a ∈ o, Succeeds (g a) := by
  cases o with
  | none => exact ⟨fun _ a ha => (by cases ha), fun _ => succeeds_ok none⟩
  | some a =>
    constructor
    · intro h b hb
      cases hb
      exact succeeds_map.mp h
    · exact fun h => succeeds_map.mpr (h a rfl)

/-- A loop succeeds if all of its steps do. -/
theorem succeeds_forM {g : α → Except ε PUnit} {as : List α} :
    Succeeds (as.forM g) ↔ ∀ a ∈ as, Succeeds (g a) := by
  induction as with
  | nil => exact ⟨fun _ a ha => absurd ha List.not_mem_nil, fun _ => succeeds_ok _⟩
  | cons a rest ih =>
    rw [List.forM, succeeds_bind_iff fun _ _ => ih, List.forall_mem_cons]

end Except

/-! ## Loops that refuse duplicates -/

/-- Each step of a loop resolves an entry and adds the binding to the known ones, unless it has the
key of one of them. -/
def Collects {ε α β κ : Type} (make : α → Except ε β) (key : β → κ)
    (step : List β → α → Except ε (List β)) : Prop :=
  ∀ known a out, step known a = .ok out ↔
    ∃ b, make a = .ok b ∧ key b ∉ known.map key ∧ out = known ++ [b]

section Made

variable {ε α β κ : Type} {make : α → Except ε β} {key : β → κ}

/-- Every entry resolves exactly if there is a list of the bindings. -/
theorem exists_made {as : List α} :
    (∃ bs : List β, as.map make = bs.map .ok) ↔ ∀ a ∈ as, Succeeds (make a) := by
  induction as with
  | nil => exact ⟨fun _ a ha => absurd ha List.not_mem_nil, fun _ => ⟨[], rfl⟩⟩
  | cons a rest ih =>
    rw [List.forall_mem_cons, ← ih]
    constructor
    · rintro ⟨bs, hbs⟩
      cases bs with
      | nil => cases hbs
      | cons b bs =>
        obtain ⟨hb, hbs⟩ := List.cons.inj hbs
        exact ⟨⟨b, hb⟩, bs, hbs⟩
    · rintro ⟨⟨b, hb⟩, bs, hbs⟩
      exact ⟨b :: bs, by rw [List.map_cons, List.map_cons, hb, hbs]⟩

/-- What all entries have, a binding has that is made from one. -/
theorem map_key_eq {keyOf : α → κ} (hkey : ∀ a b, make a = .ok b → key b = keyOf a) {as : List α}
    {bs : List β} (made : as.map make = bs.map .ok) : bs.map key = as.map keyOf := by
  induction as generalizing bs with
  | nil => rw [List.map_eq_nil_iff.mp made.symm, List.map_nil, List.map_nil]
  | cons a rest ih =>
    cases bs with
    | nil => cases made
    | cons b bs =>
      obtain ⟨hb, hbs⟩ := List.cons.inj made
      rw [List.map_cons, List.map_cons, hkey a b hb, ih hbs]

/-- A key that is new is added to keys without repetition. -/
theorem nodup_concat {known : List β} {b : β} (nodup : (known.map key).Nodup)
    (new : key b ∉ known.map key) : ((known ++ [b]).map key).Nodup := by
  rw [List.map_append, List.map_cons, List.map_nil]
  exact List.nodup_append_comm.mp (List.nodup_cons.mpr ⟨new, nodup⟩)

end Made

section Collects

variable {ε α β κ : Type} {make : α → Except ε β} {key : β → κ}
  {step : List β → α → Except ε (List β)} (h : Collects make key step)
include h

/-- The loop leaves the bindings of all entries in their order. -/
theorem foldlM_collects {known out : List β} {as : List α} (nodup : (known.map key).Nodup) :
    as.foldlM step known = .ok out ↔
      ∃ bs : List β,
        as.map make = bs.map .ok ∧ ((known ++ bs).map key).Nodup ∧ out = known ++ bs := by
  induction as generalizing known with
  | nil =>
    rw [List.foldlM_nil]
    constructor
    · intro h
      cases h
      exact ⟨[], rfl, by rwa [List.append_nil], (List.append_nil _).symm⟩
    · rintro ⟨bs, hbs, -, rfl⟩
      rw [List.map_eq_nil_iff.mp hbs.symm, List.append_nil]
      rfl
  | cons a rest ih =>
    rw [List.foldlM_cons, bind_eq_ok]
    constructor
    · rintro ⟨mid, hmid, hout⟩
      -- for the rest of the loop the binding is one of the known ones
      obtain ⟨b, hb, new, rfl⟩ := (h known a mid).mp hmid
      obtain ⟨bs, hbs, hnodup, rfl⟩ := (ih (nodup_concat nodup new)).mp hout
      refine ⟨b :: bs, by rw [List.map_cons, List.map_cons, hb, hbs], ?_, List.append_assoc ..⟩
      rwa [List.append_assoc] at hnodup
    · rintro ⟨bs, hbs, hnodup, rfl⟩
      cases bs with
      | nil => cases hbs
      | cons b bs =>
        obtain ⟨hb, hbs⟩ := List.cons.inj hbs
        have new : key b ∉ known.map key := by
          rw [List.map_append] at hnodup
          exact fun hmem => (List.nodup_append.mp hnodup).2.2 _ hmem _ List.mem_cons_self rfl
        rw [List.append_cons] at hnodup
        exact ⟨known ++ [b], (h known a _).mpr ⟨b, hb, new, rfl⟩,
          (ih (nodup_concat nodup new)).mpr ⟨bs, hbs, hnodup, List.append_cons ..⟩⟩

/-- Everything that the loop leaves was made from an entry. -/
theorem made_of_collects {out : List β} {as : List α} (collected : as.foldlM step [] = .ok out) :
    (out.map key).Nodup ∧ ∀ b ∈ out, ∃ a ∈ as, make a = .ok b := by
  have start : (([] : List β).map key).Nodup := List.nodup_nil
  obtain ⟨made, hmade, nodup, rfl⟩ := (foldlM_collects h start).mp collected
  refine ⟨nodup, fun b mem => ?_⟩
  have listed : Except.ok b ∈ as.map make := by
    rw [hmade]
    exact List.mem_map_of_mem mem
  exact List.mem_map.mp listed

/-- The loop succeeds exactly if every entry resolves and no two have the same key. -/
theorem succeeds_collects {keyOf : α → κ} (hkey : ∀ a b, make a = .ok b → key b = keyOf a)
    {as : List α} :
    Succeeds (as.foldlM step []) ↔ (∀ a ∈ as, Succeeds (make a)) ∧ (as.map keyOf).Nodup := by
  have collected : ∀ out : List β, as.foldlM step [] = .ok out ↔
      ∃ bs : List β, as.map make = bs.map .ok ∧ (([] ++ bs).map key).Nodup ∧ out = [] ++ bs :=
    fun _ => foldlM_collects h List.nodup_nil
  constructor
  · rintro ⟨out, hout⟩
    obtain ⟨bs, hbs, hnodup, -⟩ := (collected out).mp hout
    rw [List.nil_append, map_key_eq hkey hbs] at hnodup
    exact ⟨exists_made.mp ⟨bs, hbs⟩, hnodup⟩
  · rintro ⟨made, hnodup⟩
    obtain ⟨bs, hbs⟩ := exists_made.mpr made
    refine ⟨bs, (collected bs).mpr ⟨bs, hbs, ?_, rfl⟩⟩
    rwa [List.nil_append, map_key_eq hkey hbs]

end Collects

/-! ## Signatures -/

/-- A spelling that stands for a type with a value model, for any value, an enum or a class. -/
def Supported (spelling : String) : Prop :=
  ∀ t, ArgType.parse spelling = .builtin t → t.hasValueModel

/-- A type is resolved exactly if its spelling is supported. -/
theorem succeeds_resolve {item spelling : String} :
    Succeeds (resolve item spelling) ↔ Supported spelling := by
  unfold resolve Supported
  cases ArgType.parse spelling with
  | builtin t =>
    simp only [ArgType.tag?]
    split
    next model => exact ⟨fun _ u hu => (by cases hu; exact model), fun _ => succeeds_ok _⟩
    next model =>
      exact ⟨fun h => absurd h (not_succeeds_error _), fun h => absurd (h t rfl) model⟩
  | _ => exact ⟨fun _ u hu => (by cases hu), fun _ => succeeds_ok _⟩

namespace Method

variable {owner name : String} {flags : Api.MethodFlags} {arguments : List Api.Argument}
  {result : Option String}

/-- A method is accepted exactly if all of its types are supported. -/
theorem succeeds_ofApi :
    Succeeds (ofApi owner name flags arguments result) ↔
      (∀ a ∈ arguments, Supported a.type) ∧ ∀ r ∈ result, Supported r := by
  unfold ofApi
  rw [succeeds_bind_iff fun _ _ => succeeds_map, succeeds_mapM, succeeds_optionMapM]
  simp only [succeeds_resolve]

/-- A method has the digest of its name in the domain of its owner. -/
theorem hash_of_ofApi {m : Method} (h : ofApi owner name flags arguments result = .ok m) :
    m.hash = (TypeHash.ofName owner).method name := by
  obtain ⟨types, -, h⟩ := bind_eq_ok.mp h
  obtain ⟨r, -, h⟩ := bind_eq_ok.mp h
  cases h
  rfl

end Method

/-- The loop over the methods of an owner. -/
theorem collects_methods {α : Type} (owner : String) (make : α → Except ApiError Method) :
    Collects (fun a => make a >>= fun m => .ok (m.hash, m)) Prod.fst
      (fun known a => do Methods.add owner known (← make a)) := by
  intro known a out
  rw [bind_eq_ok]
  constructor
  -- a method is made first, and is added only if its key is new
  · rintro ⟨m, hm, h⟩
    unfold Methods.add at h
    split at h
    next => cases h
    next new =>
      cases h
      exact ⟨(m.hash, m), bind_eq_ok.mpr ⟨m, hm, rfl⟩,
        fun hmem => new (Keyed.isSome_get?_iff.mpr hmem), rfl⟩
  · rintro ⟨b, hb, new, rfl⟩
    obtain ⟨m, hm, hb⟩ := bind_eq_ok.mp hb
    cases hb
    refine ⟨m, hm, ?_⟩
    unfold Methods.add
    rw [if_neg fun found => new (Keyed.isSome_get?_iff.mp found)]

/-- Methods are accepted exactly if each of them is, and no two have the same name. -/
theorem succeeds_methods {α : Type} {owner : String} {make : α → Except ApiError Method}
    {nameOf : α → String}
    (named : ∀ a m, make a = .ok m → m.hash = (TypeHash.ofName owner).method (nameOf a))
    {as : List α} :
    Succeeds (as.foldlM (fun known a => do Methods.add owner known (← make a)) []) ↔
      (∀ a ∈ as, Succeeds (make a)) ∧
        (as.map fun a => (TypeHash.ofName owner).method (nameOf a)).Nodup := by
  have keyed : ∀ a b, (make a >>= fun m => .ok (m.hash, m)) = .ok b →
      b.1 = (TypeHash.ofName owner).method (nameOf a) := by
    intro a b h
    obtain ⟨m, hm, hb⟩ := bind_eq_ok.mp h
    cases hb
    exact named a m hm
  rw [succeeds_collects (collects_methods owner make) keyed]
  exact and_congr_left' (forall₂_congr fun a _ => succeeds_map)

/-! ## Builtin types -/

namespace Builtin

/-- Constants are collected under the digests of their names. -/
theorem collects_constants (owner : String) :
    Collects (fun c : Api.Constant => .ok ((TypeHash.ofName owner).constant c.name, c.name))
      Prod.fst (addConstant owner) := by
  intro known c out
  unfold addConstant
  dsimp only
  split
  next found =>
    refine ⟨fun h => (by cases h), ?_⟩
    rintro ⟨b, hb, new, -⟩
    cases hb
    exact absurd (Keyed.isSome_get?_iff.mp found) new
  next new =>
    constructor
    · intro h
      cases h
      exact ⟨_, rfl, fun hmem => new (Keyed.isSome_get?_iff.mpr hmem), rfl⟩
    · rintro ⟨b, hb, -, rfl⟩
      cases hb
      rfl

/-- The tag of a builtin type is found by its name. -/
theorem tag_eq_ok {b : Api.BuiltinType} {t : Tag} : b.tag = .ok t ↔ t.name = b.name := by
  unfold Api.BuiltinType.tag
  split
  next u hu =>
    rw [← Tag.name_of_ofName? hu]
    exact ⟨fun h => (by cases h; rfl), fun h => congrArg _ (Tag.name_injective h).symm⟩
  next hnone =>
    refine ⟨fun h => (by cases h), fun h => ?_⟩
    rw [← h, Tag.ofName?_name] at hnone
    cases hnone

/-- A builtin type resolves exactly if its name is that of a tag with a value model, its constants
and its methods have hashes of their own, and all types that it mentions are supported. -/
theorem succeeds_ofApi {b : Api.BuiltinType} :
    Succeeds (ofApi b) ↔
      (∃ t : Tag, t.name = b.name ∧ t.hasValueModel) ∧
      (b.constants.map fun c => (TypeHash.ofName b.name).constant c.name).Nodup ∧
      (∀ m ∈ b.methods, (∀ a ∈ m.arguments, Supported a.type) ∧ ∀ r ∈ m.returnType, Supported r) ∧
      (b.methods.map fun m => (TypeHash.ofName b.name).method m.name).Nodup ∧
      (∀ m ∈ b.members, Supported m.type) ∧
      ∀ k ∈ b.constructors, ∀ a ∈ k.arguments, Supported a.type := by
  have constants : Succeeds (b.constants.foldlM (addConstant b.name) []) ↔
      (b.constants.map fun c => (TypeHash.ofName b.name).constant c.name).Nodup := by
    have keyed : ∀ (c : Api.Constant) x,
        Except.ok ((TypeHash.ofName b.name).constant c.name, c.name) = (.ok x : Except ApiError _) →
          x.1 = (TypeHash.ofName b.name).constant c.name := by
      intro c x h
      cases h
      rfl
    rw [succeeds_collects (collects_constants b.name) keyed]
    exact and_iff_right fun c _ => succeeds_ok _
  have hashed : ∀ (m : Api.BuiltinMethod) x,
      Method.ofApi b.name m.name m.flags m.arguments m.returnType = .ok x →
        x.hash = (TypeHash.ofName b.name).method m.name :=
    fun _ _ => Method.hash_of_ofApi
  have methods := @succeeds_methods _ _ _ _ hashed b.methods
  cases ht : b.tag with
  | error e =>
    constructor
    · rintro ⟨x, h⟩
      obtain ⟨t, hok, -⟩ := bind_eq_ok.mp h
      cases ht.symm.trans hok
    · rintro ⟨⟨t, hname, -⟩, -⟩
      cases ht.symm.trans (tag_eq_ok.mpr hname)
  | ok t =>
    have hname := tag_eq_ok.mp ht
    have named : (∃ u : Tag, u.name = b.name ∧ u.hasValueModel) ↔ t.hasValueModel := by
      refine ⟨fun ⟨u, hu, model⟩ => ?_, fun model => ⟨t, hname, model⟩⟩
      rwa [Tag.name_injective (hname.trans hu.symm)]
    unfold ofApi
    rw [named, ht]
    show Succeeds (if (!t.hasValueModel) = true then _ else _) ↔ _
    -- without a value model the construction stops before any entry is looked at
    cases t.hasValueModel with
    | false => exact ⟨fun h => absurd h (not_succeeds_error _), fun h => (by cases h.1)⟩
    | true =>
      show Succeeds (_ >>= fun _ => _ >>= fun _ => _ >>= fun _ => _ >>= fun _ => _) ↔ _
      rw [succeeds_bind_iff fun _ _ => succeeds_bind_iff fun _ _ => succeeds_bind_iff fun _ _ =>
        succeeds_map, constants, methods, succeeds_mapM, succeeds_mapM]
      simp only [succeeds_map, succeeds_mapM, succeeds_resolve, Method.succeeds_ofApi, true_and,
        and_assoc]

/-- A builtin type has the digest of its name. -/
theorem hash_of_ofApi {b : Api.BuiltinType} {x : Builtin} (h : ofApi b = .ok x) :
    x.hash = TypeHash.ofName b.name := by
  obtain ⟨t, -, h⟩ := bind_eq_ok.mp h
  dsimp only at h
  split at h
  · cases h
  · obtain ⟨_, -, h⟩ := bind_eq_ok.mp h
    obtain ⟨_, -, h⟩ := bind_eq_ok.mp h
    obtain ⟨_, -, h⟩ := bind_eq_ok.mp h
    obtain ⟨_, -, h⟩ := bind_eq_ok.mp h
    cases h
    rfl

end Builtin

/-! ## Classes -/

namespace Class

/-- A class resolves exactly if its methods have hashes of their own and all types that they mention
are supported. -/
theorem succeeds_ofApi {c : Api.ClassEntry} :
    Succeeds (ofApi c) ↔
      (∀ m ∈ c.methods,
        (∀ a ∈ m.arguments, Supported a.type) ∧ ∀ r ∈ m.returnValue, Supported r.type) ∧
      (c.methods.map fun m => (TypeHash.ofName c.name).method m.name).Nodup := by
  have hashed : ∀ (m : Api.ClassMethod) x,
      Method.ofApi c.name m.name m.flags m.arguments (m.returnValue.map fun r => r.type) = .ok x →
        x.hash = (TypeHash.ofName c.name).method m.name :=
    fun _ _ => Method.hash_of_ofApi
  have methods := @succeeds_methods _ _ _ _ hashed c.methods
  unfold ofApi
  rw [succeeds_map, methods]
  simp only [Method.succeeds_ofApi, Option.forall_mem_map]

/-- What a binding has from its entry. -/
theorem of_ofApi {c : Api.ClassEntry} {x : Class} (h : ofApi c = .ok x) :
    x.name = c.name ∧ x.hash = TypeHash.ofName c.name ∧
      x.parent = c.inherits.map TypeHash.ofName := by
  obtain ⟨_, -, h⟩ := bind_eq_ok.mp h
  cases h
  exact ⟨rfl, rfl, rfl⟩

/-- A class has instances if it is described so. -/
theorem isInstantiable_of_ofApi {c : Api.ClassEntry} {x : Class} (h : ofApi c = .ok x) :
    x.isInstantiable = c.isInstantiable := by
  obtain ⟨_, -, h⟩ := bind_eq_ok.mp h
  cases h
  rfl

end Class

/-! ## The description -/

/-- A loop that compares the hash of each binding with those before it. -/
theorem collects_hashes {α β : Type} {make : α → Except ApiError β} {hash : β → TypeHash}
    {nameOf : α → String} :
    Collects make hash fun known a => do
      let binding ← make a
      if known.any fun k => hash k == hash binding then
        throw (.duplicate (nameOf a))
      return known ++ [binding] := by
  intro known a out
  have taken : ∀ b, (known.any fun k => hash k == hash b) ↔ hash b ∈ known.map hash := by
    intro b
    rw [List.any_eq_true, List.mem_map]
    exact exists_congr fun k => and_congr_right fun _ => beq_iff_eq
  rw [bind_eq_ok]
  refine exists_congr fun b => and_congr_right fun _ => ?_
  rw [← taken]
  dsimp only
  split
  next found => exact ⟨fun h => (by cases h), fun h => absurd found h.1⟩
  next new => exact ⟨fun h => (by cases h; exact ⟨new, rfl⟩), fun h => (by rw [h.2]; rfl)⟩

/-- Builtin types are collected under their digests. -/
theorem collects_builtins : Collects Builtin.ofApi (fun b => b.hash) addBuiltin := collects_hashes

/-- Classes are collected under their digests. -/
theorem collects_classes : Collects Class.ofApi (fun c => c.hash) addClass := collects_hashes

/-- What the loop over the classes leaves. -/
theorem foldlM_addClass {entries : List Api.ClassEntry} {classes : List Class} :
    entries.foldlM addClass [] = .ok classes ↔
      entries.map Class.ofApi = classes.map .ok ∧ (classes.map fun c => c.hash).Nodup := by
  have start : (([] : List Class).map fun c => c.hash).Nodup := List.nodup_nil
  rw [foldlM_collects collects_classes start]
  constructor
  · rintro ⟨bs, made, nodup, rfl⟩
    exact ⟨made, nodup⟩
  · rintro ⟨made, nodup⟩
    exact ⟨classes, made, nodup, rfl⟩

end ScriptBind.Registry
