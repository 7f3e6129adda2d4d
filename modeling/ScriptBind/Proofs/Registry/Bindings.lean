import ScriptBind.Proofs.Registry.Hierarchy

/-!
# The bindings of an accepted description

A binding carries the hash of its name, the tag of its name, and its entries under the hashes of
their names. So in a registry that was built from a description an entry is found by its name, and
no two entries stand for the same type and name.

Main results:

* `Method.of_ofApi`, `Builtin.made_of_ofApi` — what a binding has from its entry.
* `Builtin.method?_eq_some`, `Class.method?_eq_some` — a method that is found was declared.
* `named_builtins` — every builtin type of a registry is `Builtin.Named`.
* `builtin?_tag`, `tag_of_builtin?` — a builtin type is found by the name of its tag, and no other
  one is.
-/

namespace ScriptBind.Registry

/-! ## Signatures -/

theorem eq_of_resolve {item spelling : String} {type : ArgType}
    (h : resolve item spelling = .ok type) : type = ArgType.parse spelling := by
  unfold resolve at h
  dsimp only at h
  split at h
  · cases h
    rfl
  · split at h
    · cases h
      rfl
    · cases h

section Pointwise

variable {ε α β : Type} {f : α → Except ε β} {g : α → β} (h : ∀ a b, f a = .ok b → b = g a)
include h

theorem mapM_eq_ok {as : List α} {bs : List β} (ok : as.mapM f = .ok bs) : bs = as.map g := by
  induction as generalizing bs with
  | nil =>
    cases ok
    rfl
  | cons a rest ih =>
    rw [List.mapM_cons] at ok
    obtain ⟨b, hb, ok⟩ := bind_eq_ok.mp ok
    obtain ⟨others, hothers, ok⟩ := bind_eq_ok.mp ok
    cases ok
    rw [h a b hb, ih hothers, List.map_cons]

theorem optionMapM_eq_ok {o : Option α} {p : Option β} (ok : o.mapM f = .ok p) : p = o.map g := by
  cases o with
  | none =>
    cases ok
    rfl
  | some a =>
    obtain ⟨b, hb, ok⟩ := bind_eq_ok.mp ok
    cases ok
    rw [h a b hb, Option.map_some]

end Pointwise

/-- What is read from a list is read from its elements. -/
theorem mem_of_mapM {ε α β : Type} {f : α → Except ε β} {as : List α} {bs : List β}
    (ok : as.mapM f = .ok bs) : ∀ b ∈ bs, ∃ a ∈ as, f a = .ok b := by
  induction as generalizing bs with
  | nil =>
    cases ok
    exact fun _ mem => absurd mem List.not_mem_nil
  | cons a rest ih =>
    rw [List.mapM_cons] at ok
    obtain ⟨b, hb, ok⟩ := bind_eq_ok.mp ok
    obtain ⟨others, hothers, ok⟩ := bind_eq_ok.mp ok
    cases ok
    rw [List.forall_mem_cons]
    refine ⟨⟨a, List.mem_cons_self, hb⟩, fun b' mem => ?_⟩
    obtain ⟨a', ha', hb'⟩ := ih hothers b' mem
    exact ⟨a', List.mem_cons_of_mem _ ha', hb'⟩

/-- Entering pairs one after the other brings no other keys. -/
theorem key_of_mem_foldl {κ α : Type} [BEq κ] [LawfulBEq κ] {l known : List (κ × α)} {k : κ}
    (mem : k ∈ (l.foldl (fun known q => Keyed.put q.1 q.2 known) known).map Prod.fst) :
    k ∈ known.map Prod.fst ∨ k ∈ l.map Prod.fst := by
  induction l generalizing known with
  | nil => exact .inl mem
  | cons q rest ih =>
    rcases ih mem with mem | mem
    · rw [Keyed.keys_put] at mem
      split at mem
      · exact .inl mem
      · rcases List.mem_append.mp mem with mem | mem
        · exact .inl mem
        · exact .inr (List.mem_singleton.mp mem ▸ List.mem_cons_self)
    · exact .inr (List.mem_cons_of_mem _ mem)

/-- What a method has from its entry. -/
theorem Method.of_ofApi {owner name : String} {flags : Api.MethodFlags}
    {arguments : List Api.Argument} {result : Option String} {m : Method}
    (h : ofApi owner name flags arguments result = .ok m) :
    m.name = name ∧ m.flags = flags ∧
      m.arguments = arguments.map (fun a => ArgType.parse a.type) ∧
      m.required = (arguments.takeWhile fun a => a.default.isNone).length ∧
      m.result = result.map ArgType.parse := by
  obtain ⟨types, resolved, h⟩ := bind_eq_ok.mp h
  obtain ⟨r, result', h⟩ := bind_eq_ok.mp h
  cases h
  exact ⟨rfl, rfl, mapM_eq_ok (fun _ _ => eq_of_resolve) resolved, rfl,
    optionMapM_eq_ok (fun _ _ => eq_of_resolve) result'⟩

/-! ## Methods -/

/-- With distinct keys, what is listed is found. -/
theorem get?_eq_some_iff {κ α : Type} [BEq κ] [LawfulBEq κ] {k : κ} {a : α} {l : List (κ × α)}
    (nodup : (l.map Prod.fst).Nodup) : Keyed.get? k l = some a ↔ (k, a) ∈ l := by
  refine ⟨Keyed.mem_of_get?, fun mem => ?_⟩
  obtain ⟨b, found⟩ := Option.isSome_iff_exists.mp
    (Keyed.isSome_get?_iff.mpr (List.mem_map_of_mem (f := Prod.fst) mem))
  have same := List.inj_on_of_nodup_map nodup (Keyed.mem_of_get? found) mem rfl
  rw [found, (Prod.mk.inj same).2]

/-- What the loop over the methods of an owner leaves under a key. -/
theorem methods_get?_eq_some {α : Type} {owner : String} {make : α → Except ApiError Method}
    {as : List α} {out : Methods}
    (collected : as.foldlM (fun known a => do Methods.add owner known (← make a)) [] = .ok out)
    {key : TypeHash} {m : Method} :
    Keyed.get? key out = some m ↔ ∃ a ∈ as, make a = .ok m ∧ m.hash = key := by
  have start : (([] : Methods).map Prod.fst).Nodup := List.nodup_nil
  obtain ⟨made, hmade, nodup, rfl⟩ :=
    (foldlM_collects (collects_methods owner make) start).mp collected
  have inj : Function.Injective (Except.ok : TypeHash × Method → Except ApiError _) := fun _ _ h =>
    Except.ok.inj h
  rw [List.nil_append] at nodup
  rw [get?_eq_some_iff nodup, ← List.mem_map_of_injective inj, ← hmade, List.mem_map]
  -- one entry for each method, and no key twice, so what is found is what was entered
  refine exists_congr fun a => and_congr_right fun _ => ?_
  rw [bind_eq_ok]
  constructor
  · rintro ⟨m', hm, same⟩
    cases same
    exact ⟨hm, rfl⟩
  · rintro ⟨hm, rfl⟩
    exact ⟨m, hm, rfl⟩

/-- A method of a class is found if the class declares one with its hash. -/
theorem Class.method?_eq_some {c : Api.ClassEntry} {x : Class} (h : ofApi c = .ok x) {name : String}
    {m : Method} :
    x.method? name = some m ↔ ∃ e ∈ c.methods,
      Method.ofApi c.name e.name e.flags e.arguments (e.returnValue.map fun r => r.type) = .ok m ∧
        (TypeHash.ofName c.name).method e.name = (TypeHash.ofName c.name).method name := by
  obtain ⟨methods, collected, h⟩ := bind_eq_ok.mp h
  cases h
  refine (methods_get?_eq_some collected).trans (exists_congr fun e => and_congr_right fun _ => ?_)
  exact and_congr_right fun made => by rw [Method.hash_of_ofApi made]

/-- A class has a method of a name if it declares one with its hash. -/
theorem Class.isSome_method?_iff {c : Api.ClassEntry} {x : Class} (h : ofApi c = .ok x)
    {name : String} :
    (x.method? name).isSome ↔ ∃ e ∈ c.methods,
      (TypeHash.ofName c.name).method e.name = (TypeHash.ofName c.name).method name := by
  rw [Option.isSome_iff_exists]
  constructor
  · rintro ⟨m, found⟩
    obtain ⟨e, he, -, hash⟩ := (Class.method?_eq_some h).mp found
    exact ⟨e, he, hash⟩
  · rintro ⟨e, he, hash⟩
    have types := (Class.succeeds_ofApi.mp ⟨x, h⟩).1 e he
    obtain ⟨m, made⟩ := Method.succeeds_ofApi.mpr
      (show _ ∧ ∀ s ∈ e.returnValue.map _, Supported s from
        ⟨types.1, (Option.forall_mem_map ..).mpr types.2⟩)
    exact ⟨m, (Class.method?_eq_some h).mpr ⟨e, he, made, hash⟩⟩

namespace Builtin

/-- The hash, the tag and the constants of a builtin type belong to its name and to theirs. -/
structure Named (b : Builtin) : Prop where
  hash : b.hash = TypeHash.ofName b.name
  tag : b.tag.name = b.name
  constants : ∀ e ∈ b.constants, e.1 = b.hash.constant e.2

/-- What the binding of a builtin type has from its entry. -/
structure Made (a : Api.BuiltinType) (b : Builtin) : Prop where
  name : b.name = a.name
  hash : b.hash = TypeHash.ofName a.name
  tag : a.tag = .ok b.tag
  modelled : b.tag.hasValueModel = true
  constants : ∀ e ∈ b.constants, ∃ c ∈ a.constants,
    e = ((TypeHash.ofName a.name).constant c.name, c.name)
  methods {key : TypeHash} {m : Method} : Keyed.get? key b.methods = some m ↔ ∃ e ∈ a.methods,
    Method.ofApi a.name e.name e.flags e.arguments e.returnType = .ok m ∧ m.hash = key
  members : ∀ key ∈ b.members.map Prod.fst, ∃ e ∈ a.members,
    (TypeHash.ofName a.name).member e.name = key
  constructors : ∀ k ∈ b.constructors, ∃ e ∈ a.constructors, k.index = e.index ∧
    k.arguments = e.arguments.map fun x => ArgType.parse x.type

theorem made_of_ofApi {a : Api.BuiltinType} {b : Builtin} (h : ofApi a = .ok b) : Made a b := by
  obtain ⟨t, tag, h⟩ := bind_eq_ok.mp h
  dsimp only at h
  split at h
  · cases h
  next modelled =>
    -- four lists are read one after the other, and each is what the entry says about itself
    obtain ⟨constants, collected, h⟩ := bind_eq_ok.mp h
    obtain ⟨methods, declared, h⟩ := bind_eq_ok.mp h
    obtain ⟨members, read, h⟩ := bind_eq_ok.mp h
    obtain ⟨constructors, built, h⟩ := bind_eq_ok.mp h
    cases h
    refine ⟨rfl, rfl, tag, by simpa using modelled, fun e mem => ?_, methods_get?_eq_some declared,
      fun key known => ?_, fun k hk => ?_⟩
    · obtain ⟨c, hc, made⟩ := (made_of_collects (collects_constants a.name) collected).2 e mem
      cases made
      exact ⟨c, hc, rfl⟩
    · obtain ⟨p, hp, rfl⟩ := List.mem_map.mp ((key_of_mem_foldl known).resolve_left List.not_mem_nil)
      obtain ⟨e, he, hp⟩ := mem_of_mapM read p hp
      obtain ⟨type, -, hp⟩ := bind_eq_ok.mp hp
      cases hp
      exact ⟨e, he, rfl⟩
    · obtain ⟨e, he, hk⟩ := mem_of_mapM built k hk
      obtain ⟨types, resolved, hk⟩ := bind_eq_ok.mp hk
      cases hk
      exact ⟨e, he, rfl, mapM_eq_ok (fun _ _ => eq_of_resolve) resolved⟩

section Made

variable {a : Api.BuiltinType} {b : Builtin} (h : ofApi a = .ok b)
include h

theorem named_of_ofApi : b.Named := by
  have made := made_of_ofApi h
  refine ⟨by rw [made.hash, made.name], ?_, fun e mem => ?_⟩
  · rw [made.name]
    exact tag_eq_ok.mp made.tag
  · obtain ⟨c, -, rfl⟩ := made.constants e mem
    rw [made.hash]

theorem of_ofApi : b.name = a.name ∧ a.tag = .ok b.tag :=
  ⟨(made_of_ofApi h).name, (made_of_ofApi h).tag⟩

/-- A method of a builtin type is found if the type declares one with its hash. -/
theorem method?_eq_some {name : String} {m : Method} :
    b.method? name = some m ↔ ∃ e ∈ a.methods,
      Method.ofApi a.name e.name e.flags e.arguments e.returnType = .ok m ∧
        (TypeHash.ofName a.name).method e.name = (TypeHash.ofName a.name).method name := by
  have made := made_of_ofApi h
  rw [method?, made.methods, made.hash]
  refine exists_congr fun e => and_congr_right fun _ => and_congr_right fun resolved => ?_
  rw [Method.hash_of_ofApi resolved]

/-- A constant is spelled as in its entry. -/
theorem exists_constant {key : TypeHash} {spelling : String}
    (found : Keyed.get? key b.constants = some spelling) : ∃ e ∈ a.constants, e.name = spelling := by
  obtain ⟨e, he, same⟩ := (made_of_ofApi h).constants _ (Keyed.mem_of_get? found)
  cases same
  exact ⟨e, he, rfl⟩

/-- A member is found if the type declares one with its hash. -/
theorem exists_member {name : String} (found : (b.member? name).isSome) :
    ∃ e ∈ a.members,
      (TypeHash.ofName a.name).member e.name = (TypeHash.ofName a.name).member name := by
  have made := made_of_ofApi h
  rw [member?, made.hash] at found
  exact made.members _ (Keyed.isSome_get?_iff.mp found)

end Made

/-- Constants of one name are under one key. -/
theorem Named.key_eq {b : Builtin} (named : b.Named) {key : TypeHash} {name : String}
    (found : Keyed.get? key b.constants = some name) : key = b.hash.constant name :=
  named.constants _ (Keyed.mem_of_get? found)

end Builtin

variable {d : Api.Document} {r : Registry}

/-- The builtin types of a registry are the declared ones in order. -/
theorem builtins_of_ofApi (accepted : ofApi d = .ok r) :
    d.builtins.map Builtin.ofApi = r.builtins.map .ok ∧
      (r.builtins.map fun b => b.hash).Nodup := by
  obtain ⟨builtins, collected, h⟩ := bind_eq_ok.mp accepted
  obtain ⟨_, -, h⟩ := bind_eq_ok.mp h
  obtain ⟨_, -, h⟩ := bind_eq_ok.mp h
  obtain ⟨_, -, h⟩ := bind_eq_ok.mp h
  cases h
  have start : (([] : List Builtin).map fun b => b.hash).Nodup := List.nodup_nil
  obtain ⟨made, hmade, nodup, rfl⟩ := (foldlM_collects collects_builtins start).mp collected
  exact ⟨hmade, nodup⟩

/-- Every builtin type of a registry is the binding of a declared one. -/
theorem mem_builtins_iff (accepted : ofApi d = .ok r) {b : Builtin} :
    b ∈ r.builtins ↔ ∃ a ∈ d.builtins, Builtin.ofApi a = .ok b := by
  have inj : Function.Injective (Except.ok : Builtin → Except ApiError Builtin) := fun _ _ h =>
    Except.ok.inj h
  rw [← List.mem_map_of_injective inj, ← (builtins_of_ofApi accepted).1, List.mem_map]

theorem named_builtins (accepted : ofApi d = .ok r) :
    (∀ b ∈ r.builtins, b.Named) ∧ (r.builtins.map fun b => b.hash).Nodup := by
  refine ⟨fun b mem => ?_, (builtins_of_ofApi accepted).2⟩
  obtain ⟨a, -, ha⟩ := (mem_builtins_iff accepted).mp mem
  exact Builtin.named_of_ofApi ha

/-- The names of the builtin types of a registry are distinct. -/
theorem nodup_builtin_names (accepted : ofApi d = .ok r) :
    (r.builtins.map fun b => b.name).Nodup := by
  obtain ⟨named, nodup⟩ := named_builtins accepted
  rw [List.map_congr_left fun b hb => (named b hb).hash] at nodup
  exact List.Nodup.of_map TypeHash.ofName (by rwa [List.map_map])

/-- A builtin type is found by the name of its tag. -/
theorem builtin?_tag (accepted : ofApi d = .ok r) {b : Builtin} (mem : b ∈ r.builtins) :
    r.builtin? b.tag.name = some b := by
  obtain ⟨named, nodup⟩ := named_builtins accepted
  have hash : TypeHash.ofName b.tag.name = b.hash := by
    rw [(named b mem).tag, (named b mem).hash]
  have listed : (r.builtins.find? fun k => k.hash == b.hash).isSome :=
    List.find?_isSome.mpr ⟨b, mem, beq_self_eq_true _⟩
  obtain ⟨k, found⟩ := Option.isSome_iff_exists.mp listed
  have holds := List.find?_some found
  have hk : k.hash = b.hash := eq_of_beq holds
  -- no other one has the same hash
  have same : k = b :=
    List.inj_on_of_nodup_map nodup (List.mem_of_find?_eq_some found) mem hk
  show (r.builtins.find? fun k => k.hash == TypeHash.ofName b.tag.name) = some b
  rw [hash, found, same]

/-- No other builtin type is found by the name of a tag. -/
theorem tag_of_builtin? (accepted : ofApi d = .ok r) {t : Tag} {b : Builtin}
    (found : r.builtin? t.name = some b) : b.tag = t := by
  have named := (named_builtins accepted).1 b (List.mem_of_find?_eq_some found)
  have holds := List.find?_some found
  have hash : b.hash = TypeHash.ofName t.name := eq_of_beq holds
  rw [named.hash, ← named.tag, TypeHash.ofName_inj] at hash
  have listed : ∀ u : Tag, u.name ∈ Tag.all.map Tag.name := fun u =>
    List.mem_map_of_mem (Tag.mem_all u)
  exact Tag.name_injective (Tag.names_apart _ (listed _) _ (listed _) hash)

end ScriptBind.Registry
