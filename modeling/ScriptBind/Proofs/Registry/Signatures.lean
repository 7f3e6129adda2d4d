import ScriptBind.Proofs.Registry.Ancestry
import ScriptBind.Proofs.Registry.Bindings

/-!
# The types in signatures

A spelling that names no builtin type and no enum is read as the name of a class, and nothing
compares it with the declared classes: a builtin type that is spelled wrong becomes a class that no
object can have. What a registry demands of the types in its signatures is that the builtin ones
among them have a value model.

Main results:

* `modelled_signatures` — the builtin types in the signatures of a registry have a value model.
* `acceptance_respelled` — which classes the signatures name makes no difference.
* `misspelled_accepted` — a class that is not declared is accepted.
-/

namespace ScriptBind

open Api (Document)

/-! ## Respelling -/

/-- Declared types that are the same, or objects of some class each. -/
def ArgType.Alike (t u : ArgType) : Prop := t = u ∨ ∃ a b, t = .object a ∧ u = .object b

namespace Api

variable (f : String → String)

def Argument.respell (a : Argument) : Argument := { a with type := f a.type }

def Constructor.respell (k : Constructor) : Constructor :=
  { k with arguments := k.arguments.map (Argument.respell f) }

def BuiltinMethod.respell (m : BuiltinMethod) : BuiltinMethod :=
  { m with
    returnType := m.returnType.map f
    arguments := m.arguments.map (Argument.respell f) }

def BuiltinType.respell (b : BuiltinType) : BuiltinType :=
  { b with
    constructors := b.constructors.map (Constructor.respell f)
    methods := b.methods.map (BuiltinMethod.respell f)
    members := b.members.map fun m => { m with type := f m.type } }

def ClassMethod.respell (m : ClassMethod) : ClassMethod :=
  { m with
    returnValue := m.returnValue.map fun r => { r with type := f r.type }
    arguments := m.arguments.map (Argument.respell f) }

def ClassEntry.respell (c : ClassEntry) : ClassEntry :=
  { c with methods := c.methods.map (ClassMethod.respell f) }

/-- The description with every type in a signature spelled another way. -/
def Document.respell (d : Document) : Document :=
  { d with
    builtins := d.builtins.map (BuiltinType.respell f)
    classes := d.classes.map (ClassEntry.respell f) }

end Api

namespace Registry

/-! ## Types with a value model -/

/-- A declared type that is no builtin type without a value model. -/
def Modelled (t : ArgType) : Prop := ∀ tag, t = .builtin tag → tag.hasValueModel

/-- The declared types in the signature of a method. -/
def Method.types (m : Method) : List ArgType := m.arguments ++ m.result.toList

/-- The declared types in the signatures of a builtin type: of its methods, members and
constructors. -/
def Builtin.types (b : Builtin) : List ArgType :=
  (b.methods.flatMap fun m => m.2.types) ++ (b.members.map Prod.snd) ++
    b.constructors.flatMap fun k => k.arguments

def Class.types (c : Class) : List ArgType := c.methods.flatMap fun m => m.2.types

/-- All declared types in the signatures of a registry. -/
def signatures (r : Registry) : List ArgType :=
  (r.builtins.flatMap Builtin.types) ++ r.classes.flatMap Class.types

theorem Method.modelled {owner name : String} {flags : Api.MethodFlags}
    {arguments : List Api.Argument} {result : Option String} {m : Method}
    (h : ofApi owner name flags arguments result = .ok m) : ∀ t ∈ m.types, Modelled t := by
  obtain ⟨-, -, types, -, returned⟩ := of_ofApi h
  obtain ⟨supported, supported'⟩ := succeeds_ofApi.mp ⟨m, h⟩
  intro t mem
  rcases List.mem_append.mp mem with mem | mem
  · rw [types] at mem
    obtain ⟨a, ha, rfl⟩ := List.mem_map.mp mem
    exact supported a ha
  · rw [returned] at mem
    obtain ⟨spelling, hs, rfl⟩ := Option.map_eq_some_iff.mp (Option.mem_toList.mp mem)
    exact supported' spelling hs

theorem modelled_methods {α : Type} {owner : String} {make : α → Except ApiError Method}
    (modelled : ∀ a m, make a = .ok m → ∀ t ∈ m.types, Modelled t) {as : List α} {out : Methods}
    (collected : as.foldlM (fun known a => do Methods.add owner known (← make a)) [] = .ok out) :
    ∀ t ∈ out.flatMap fun m => m.2.types, Modelled t := by
  intro t mem
  obtain ⟨p, hp, mem⟩ := List.mem_flatMap.mp mem
  obtain ⟨a, -, made⟩ := (made_of_collects (collects_methods owner make) collected).2 p hp
  obtain ⟨m, hm, h⟩ := bind_eq_ok.mp made
  cases h
  exact modelled a m hm t mem

/-- Entering pairs one after the other brings no other values. -/
theorem value_of_mem_foldl {κ α : Type} [BEq κ] {l known : List (κ × α)} {p : κ × α}
    (mem : p ∈ l.foldl (fun known q => Keyed.put q.1 q.2 known) known) :
    p ∈ known ∨ ∃ q ∈ l, p.2 = q.2 := by
  induction l generalizing known with
  | nil => exact .inl mem
  | cons q rest ih =>
    rcases ih mem with mem | ⟨q', hq', same⟩
    · exact (Keyed.value_of_mem_put mem).imp_right fun same => ⟨q, List.mem_cons_self, same⟩
    · exact .inr ⟨q', List.mem_cons_of_mem _ hq', same⟩

theorem modelled_of_resolve {item spelling : String} {t : ArgType}
    (h : resolve item spelling = .ok t) : Modelled t := by
  rw [eq_of_resolve h]
  exact succeeds_resolve.mp ⟨t, h⟩

theorem Builtin.modelled {a : Api.BuiltinType} {b : Builtin} (h : ofApi a = .ok b) :
    ∀ t ∈ b.types, Modelled t := by
  obtain ⟨_, -, h⟩ := bind_eq_ok.mp h
  dsimp only at h
  split at h
  · cases h
  · obtain ⟨_, -, h⟩ := bind_eq_ok.mp h
    obtain ⟨methods, collected, h⟩ := bind_eq_ok.mp h
    obtain ⟨members, read, h⟩ := bind_eq_ok.mp h
    obtain ⟨constructors, read', h⟩ := bind_eq_ok.mp h
    cases h
    intro t mem
    -- types stand in methods, members and constructors, and all of them have been resolved
    rcases List.mem_append.mp mem with mem | mem
    · rcases List.mem_append.mp mem with mem | mem
      · exact modelled_methods (fun _ _ => Method.modelled) collected t mem
      · obtain ⟨p, hp, rfl⟩ := List.mem_map.mp mem
        obtain hp | ⟨q, hq, same⟩ := value_of_mem_foldl hp
        · exact absurd hp List.not_mem_nil
        · obtain ⟨m, -, hm⟩ := mem_of_mapM read q hq
          obtain ⟨type, resolved, hm⟩ := bind_eq_ok.mp hm
          cases hm
          rw [same]
          exact modelled_of_resolve resolved
    · obtain ⟨k, hk, mem⟩ := List.mem_flatMap.mp mem
      obtain ⟨entry, -, hentry⟩ := mem_of_mapM read' k hk
      obtain ⟨types, resolved, hentry⟩ := bind_eq_ok.mp hentry
      cases hentry
      obtain ⟨argument, -, ht⟩ := mem_of_mapM resolved t mem
      exact modelled_of_resolve ht

theorem Class.modelled {c : Api.ClassEntry} {x : Class} (h : ofApi c = .ok x) :
    ∀ t ∈ x.types, Modelled t := by
  obtain ⟨methods, collected, h⟩ := bind_eq_ok.mp h
  cases h
  exact modelled_methods (fun _ _ => Method.modelled) collected

/-- The builtin types in the signatures of a registry have a value model. -/
theorem modelled_signatures {d : Document} {r : Registry} (accepted : ofApi d = .ok r) :
    ∀ t ∈ r.signatures, Modelled t := by
  intro t mem
  rcases List.mem_append.mp mem with mem | mem
  · obtain ⟨b, hb, mem⟩ := List.mem_flatMap.mp mem
    obtain ⟨a, -, made⟩ := (mem_builtins_iff accepted).mp hb
    exact Builtin.modelled made t mem
  · obtain ⟨x, hx, mem⟩ := List.mem_flatMap.mp mem
    obtain ⟨c, -, made⟩ := (mem_classes_iff accepted).mp hx
    exact Class.modelled made t mem

/-! ## Acceptance -/

variable {f : String → String}

theorem supported_respell (alike : ∀ s, (ArgType.parse s).Alike (ArgType.parse (f s)))
    (spelling : String) : Supported (f spelling) ↔ Supported spelling := by
  unfold Supported
  rcases alike spelling with same | ⟨a, b, ha, hb⟩
  · rw [same]
  · rw [ha, hb]
    exact ⟨fun _ _ h => (by cases h), fun _ _ h => (by cases h)⟩

section Respell

variable (alike : ∀ s, (ArgType.parse s).Alike (ArgType.parse (f s)))
include alike

theorem succeeds_respell_builtin (b : Api.BuiltinType) :
    Succeeds (Builtin.ofApi (b.respell f)) ↔ Succeeds (Builtin.ofApi b) := by
  rw [Builtin.succeeds_ofApi, Builtin.succeeds_ofApi]
  simp only [Api.BuiltinType.respell, Api.BuiltinMethod.respell, Api.Constructor.respell,
    Api.Argument.respell, List.forall_mem_map, Option.forall_mem_map, List.map_map,
    Function.comp_def, supported_respell alike]

theorem succeeds_respell_class (c : Api.ClassEntry) :
    Succeeds (Class.ofApi (c.respell f)) ↔ Succeeds (Class.ofApi c) := by
  rw [Class.succeeds_ofApi, Class.succeeds_ofApi]
  simp only [Api.ClassEntry.respell, Api.ClassMethod.respell, Api.Argument.respell,
    List.forall_mem_map, Option.forall_mem_map, List.map_map, Function.comp_def,
    supported_respell alike]

end Respell

/-- The hierarchy depends on the hashes of the classes and of their parents only. -/
theorem hierarchy_congr {classes classes' : List Class}
    (h : classes.map (fun c => (c.hash, c.parent)) = classes'.map fun c => (c.hash, c.parent)) :
    hierarchy classes = hierarchy classes' := by
  have nodes : ∀ l : List Class, l.map (fun c => c.hash) =
      (l.map fun c => (c.hash, c.parent)).map Prod.fst := fun l => by
    rw [List.map_map]
    rfl
  have parents : ∀ (l : List Class) (hash : TypeHash),
      (classOf? l hash).bind (fun c => c.parent) =
        ((l.map fun c => (c.hash, c.parent)).find? fun p => p.1 == hash).bind Prod.snd := by
    intro l hash
    rw [List.find?_map, Option.bind_map]
    rfl
  unfold hierarchy
  simp only [nodes, parents, h]

/-- A description is accepted if its entries resolve and another one with the same names and parents
is accepted. -/
theorem succeeds_of_outline {d d' : Document}
    (builtins : d'.builtins.map (fun b => b.name) = d.builtins.map fun b => b.name)
    (classes : d'.classes.map (fun c => (c.name, c.inherits)) =
      d.classes.map fun c => (c.name, c.inherits))
    (resolved : ∀ b ∈ d'.builtins, Succeeds (Builtin.ofApi b))
    (resolved' : ∀ c ∈ d'.classes, Succeeds (Class.ofApi c)) (accepted : Succeeds (ofApi d)) :
    Succeeds (ofApi d') := by
  have hashed : ∀ (a : Api.BuiltinType) (b : Builtin), Builtin.ofApi a = .ok b →
      b.hash = TypeHash.ofName a.name := fun _ _ => Builtin.hash_of_ofApi
  rw [succeeds_ofApi, succeeds_collects collects_builtins hashed] at accepted ⊢
  obtain ⟨⟨-, nodup⟩, known, collected, parents, order⟩ := accepted
  obtain ⟨made, known_nodup⟩ := foldlM_addClass.mp collected
  obtain ⟨known', made'⟩ := exists_made.mpr resolved'
  -- what is checked across entries needs only their hashes and those of their parents
  have outline : ∀ {entries : List Api.ClassEntry} {known : List Class},
      entries.map Class.ofApi = known.map .ok →
        known.map (fun c => (c.hash, c.parent)) =
          (entries.map fun c => (c.name, c.inherits)).map fun p =>
            (TypeHash.ofName p.1, p.2.map TypeHash.ofName) := by
    intro entries known made
    rw [List.map_map]
    exact map_key_eq (fun c x h => Prod.ext (Class.of_ofApi h).2.1 (Class.of_ofApi h).2.2) made
  have same : known'.map (fun c => (c.hash, c.parent)) = known.map fun c => (c.hash, c.parent) := by
    rw [outline made', outline made, classes]
  have hashes : known'.map (fun c => c.hash) = known.map fun c => c.hash := by
    have fsts := congrArg (List.map Prod.fst) same
    rwa [List.map_map, List.map_map] at fsts
  refine ⟨⟨resolved, ?_⟩, known', foldlM_addClass.mpr ⟨made', hashes ▸ known_nodup⟩, ?_, ?_⟩
  · have names := congrArg (List.map TypeHash.ofName) builtins
    rw [List.map_map, List.map_map] at names
    exact names ▸ nodup
  · intro c hc
    obtain ⟨c', hc', hpair⟩ := List.mem_map.mp
      (classes ▸ List.mem_map_of_mem (f := fun c : Api.ClassEntry => (c.name, c.inherits)) hc)
    rw [succeeds_checkParent, hashes, ← (Prod.mk.inj hpair).2, ← succeeds_checkParent]
    exact parents c' hc'
  · rw [succeeds_parentsFirst, hierarchy_congr same, ← succeeds_parentsFirst]
    exact order

theorem resolved_of_accepted {d : Document} {r : Registry} (built : ofApi d = .ok r) :
    (∀ b ∈ d.builtins, Succeeds (Builtin.ofApi b)) ∧ ∀ c ∈ d.classes, Succeeds (Class.ofApi c) := by
  refine ⟨exists_made.mp ⟨r.builtins, (builtins_of_ofApi built).1⟩, fun c hc => ?_⟩
  obtain ⟨x, -, made⟩ := exists_class built hc
  exact ⟨x, made⟩

/-- Which classes the signatures of a description name, declared ones or others, makes no difference
to whether it is accepted. -/
theorem acceptance_respelled (d : Document)
    (alike : ∀ s, (ArgType.parse s).Alike (ArgType.parse (f s))) :
    (∃ r, ofApi (d.respell f) = .ok r) ↔ ∃ r, ofApi d = .ok r := by
  have builtins : (d.respell f).builtins.map (fun b => b.name) =
      d.builtins.map fun b => b.name := List.map_map ..
  have classes : (d.respell f).classes.map (fun c => (c.name, c.inherits)) =
      d.classes.map fun c => (c.name, c.inherits) := List.map_map ..
  -- respelling keeps names and parents, so either description is an outline of the other
  constructor
  · rintro ⟨r, built⟩
    refine succeeds_of_outline builtins.symm classes.symm (fun b hb => ?_) (fun c hc => ?_)
      ⟨r, built⟩
    · rw [← succeeds_respell_builtin alike]
      exact (resolved_of_accepted built).1 _ (List.mem_map_of_mem hb)
    · rw [← succeeds_respell_class alike]
      exact (resolved_of_accepted built).2 _ (List.mem_map_of_mem hc)
  · rintro ⟨r, built⟩
    refine succeeds_of_outline builtins classes (fun b hb => ?_) (fun c hc => ?_) ⟨r, built⟩
    · obtain ⟨a, ha, rfl⟩ := List.mem_map.mp hb
      exact (succeeds_respell_builtin alike a).mpr ((resolved_of_accepted built).1 a ha)
    · obtain ⟨a, ha, rfl⟩ := List.mem_map.mp hc
      exact (succeeds_respell_class alike a).mpr ((resolved_of_accepted built).2 a ha)

/-- A member whose type is spelled wrong, and no classes. -/
def misspelled : Document where
  header := .empty
  builtins := [{
    name := "Vector2"
    constants := []
    constructors := []
    methods := []
    members := [⟨"x", "flaot"⟩]
    enums := [] }]
  classes := []
  enums := []

theorem acceptance_respelled_flaot :
    (∀ s, (ArgType.parse s).Alike (ArgType.parse (if s = "flaot" then "folat" else s))) ∧
      ∃ r, ofApi (misspelled.respell fun s => if s = "flaot" then "folat" else s) = .ok r := by
  have alike (s : String) :
      (ArgType.parse s).Alike (ArgType.parse (if s = "flaot" then "folat" else s)) := by
    split
    next wrong =>
      exact .inr ⟨"flaot", "folat", by rw [wrong]; decide +kernel, by decide +kernel⟩
    next => exact .inl rfl
  exact ⟨alike, (acceptance_respelled misspelled alike).mpr (succeeds_of_isOk (by decide +kernel))⟩

/-- A class in a signature need not be declared. -/
theorem misspelled_accepted :
    ∃ r, ofApi misspelled = .ok r ∧ .object "flaot" ∈ r.signatures ∧
      "flaot" ∉ misspelled.classes.map fun c => c.name := by
  obtain ⟨r, built⟩ : Succeeds (ofApi misspelled) := succeeds_of_isOk (by decide +kernel)
  have types : (ofApi misspelled).toOption.map signatures = some [.object "flaot"] := by
    decide +kernel
  rw [built] at types
  refine ⟨r, built, ?_, List.not_mem_nil⟩
  rw [Option.some.inj types]
  exact List.mem_cons_self

end Registry

end ScriptBind
