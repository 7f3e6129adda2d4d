import ScriptBind.Proofs.Binding.Handlers
import ScriptBind.Proofs.Binding.Marshalling
import ScriptBind.Proofs.Registry.Bindings
import ScriptBind.Proofs.Session.Runs

/-!
# Lazy constants over a run

However the states of a session share a registry, and however often and from where its constants are
used, a host is asked for each of them at most once; its answer, a value or a refusal, is what every
later use gets.

Main results:

* `Proceeds.accounted`, `Proceeds.fetched_prefix` — what is known of constants is what hosts were asked
  for, each once, and it stays known.
* `Access.run_perform` — an access, as an equation: the known outcome is used, or a host is asked,
  or there is none.
* `constants_once` — both together, over every run that uses the constants of one registry.
-/

namespace ScriptBind

open ScriptM

/-! ## Known constants -/

/-- The constant that a request asks for. -/
def Request.constant? : Request → Option (Tag × String)
  | constant type name => some (type, name)
  | _ => none

/-- A request that is not for a constant asks for none. -/
theorem Request.constant?_eq_none {r : Request} (h : r.isConstant = false) : r.constant? = none := by
  cases r with
  | constant type name => cases h
  | _ => rfl

/-- What has been found in a list is found in a longer one. -/
theorem Keyed.get?_of_prefix {κ α : Type} [BEq κ] {k : κ} {a : α} {l l' : List (κ × α)}
    (h : l <+: l') (found : get? k l = some a) : get? k l' = some a := by
  obtain ⟨more, rfl⟩ := h
  induction l with
  | nil => cases found
  | cons p rest ih =>
    obtain ⟨j, b⟩ := p
    rw [get?] at found
    rw [List.cons_append, get?]
    split
    next same => rwa [if_pos same] at found
    next other =>
      rw [if_neg other] at found
      exact ih found

namespace World

/-- The constants that hosts were asked for, in order. -/
def constantsAsked (w : World) : List (Tag × String) :=
  w.requests.toList.filterMap fun r => r.2.constant?

/-- A request counts if it is for a constant. -/
theorem constantsAsked_push (w : World) (r : Nat × Request) :
    { w with requests := w.requests.push r }.constantsAsked =
      w.constantsAsked ++ r.2.constant?.toList := by
  unfold constantsAsked
  rw [Array.toList_push, List.filterMap_append]
  cases h : r.2.constant? with
  | none => simp [h]
  | some c => simp [h]

/-- What is known of constants is what hosts were asked for, in this order and each once. Registries
are made from descriptions. -/
structure Accounted (w : World) : Prop where
  built : ∀ r ∈ w.registries, ∃ d, Registry.ofApi d = .ok r
  ledger : ∃ cs : List Constant,
    w.constantsAsked = cs.map (fun c => (c.type, c.name)) ∧
      w.fetched.map Prod.fst = cs.map (fun c => c.ref) ∧
      (cs.map fun c => c.ref).Nodup ∧ ∀ c ∈ cs, w.Stands c

/-- A constant of a registry stays the one that it is when registries are added. -/
theorem Stands.push {w : World} {c : Constant} (h : w.Stands c) (r : Registry) :
    { w with registries := w.registries.push r }.Stands c := by
  obtain ⟨ref, tag, name⟩ := c
  cases ref with
  | loose i => trivial
  | declared i type key =>
    obtain ⟨b, listed, known⟩ := h
    refine ⟨b, ?_, known⟩
    -- a registry that declares something is not the default one
    have bound : i < w.registries.size := by
      refine Nat.lt_of_not_le fun outside => ?_
      rw [World.registry, Array.getD_eq_getD_getElem?, Array.getElem?_eq_none outside] at listed
      cases listed
    show b ∈ ((w.registries.push r).getD i default).builtins
    rw [Array.getD_eq_getD_getElem?, Array.getElem?_push_lt bound]
    rw [World.registry, Array.getD_eq_getD_getElem?, Array.getElem?_eq_getElem bound] at listed
    exact listed

end World

/-! ## Over a run -/

/-- Outcomes that are known stay known, in their order. -/
theorem Evolves.fetched_prefix {w v : World} (h : Evolves w v) : w.fetched <+: v.fetched := by
  induction h with
  | trans _ _ ih ih' => exact ih.trans ih'
  | fetched host new stands =>
    show _ <+: Keyed.put _ _ _
    rw [Keyed.put_new new]
    exact List.prefix_append ..
  | namecall _ ih => exact ih
  | call _ _ _ _ ih => exact ih
  | _ => exact List.prefix_refl _

/-- What has been asked for stays accounted for, one elementary change after the other. -/
theorem Evolves.accounted {w v : World} (h : Evolves w v) (accounted : w.Accounted) :
    v.Accounted := by
  -- on the changes: only a constant that is fetched adds to the books, once for each constant
  induction h with
  | trans _ _ ih ih' => exact ih' (ih accounted)
  | @newRegistry w d r built =>
    obtain ⟨known, cs, hasked, hknown, nodup, stands⟩ := accounted
    refine ⟨fun k hk => ?_, cs, hasked, hknown, nodup, fun c hc => (stands c hc).push r⟩
    rcases Array.mem_push.mp hk with old | rfl
    · exact known k old
    · exact ⟨d, built⟩
  | @fetched w host c new stands =>
    obtain ⟨built, cs, hasked, hknown, nodup, all⟩ := accounted
    refine ⟨built, cs ++ [c], ?_, ?_, ?_, ?_⟩
    · have pushed := w.constantsAsked_push (host, .constant c.type c.name)
      rw [hasked] at pushed
      rw [List.map_append]
      exact pushed
    · show (Keyed.put _ _ _).map _ = _
      rw [Keyed.put_new new, List.map_append, hknown, List.map_append]
      rfl
    · refine Registry.nodup_concat nodup fun known => ?_
      rw [← hknown, ← Keyed.isSome_get?_iff] at known
      rw [World.knownOutcome?] at new
      rw [new] at known
      cases known
    · intro k hk
      rcases List.mem_append.mp hk with old | hk
      · exact all k old
      · rw [List.mem_singleton.mp hk]
        exact stands
  | @request w host r other =>
    obtain ⟨built, cs, hasked, rest⟩ := accounted
    refine ⟨built, cs, ?_, rest⟩
    rw [World.constantsAsked_push, Request.constant?_eq_none other, hasked]
    exact List.append_nil _
  | namecall _ ih =>
    have inner := ih ⟨accounted.built, accounted.ledger⟩
    exact ⟨inner.built, inner.ledger⟩
  | call _ _ _ _ ih =>
    have inner := ih ⟨accounted.built, accounted.ledger⟩
    exact ⟨inner.built, inner.ledger⟩
  | _ => exact ⟨accounted.built, accounted.ledger⟩

/-- Outcomes stay known in every state. -/
theorem Proceeds.fetched_prefix {w v : World} (h : Proceeds w v) : w.fetched <+: v.fetched := by
  induction h with
  | evolves h => exact h.fetched_prefix
  | state _ _ => exact List.prefix_refl _
  | trans _ _ ih ih' => exact ih.trans ih'

/-- What has been asked for stays accounted for in every state. -/
theorem Proceeds.accounted {w v : World} (h : Proceeds w v) (accounted : w.Accounted) : v.Accounted := by
  induction h with
  | evolves h => exact h.accounted accounted
  | state _ _ => exact ⟨accounted.built, accounted.ledger⟩
  | trans _ _ ih ih' => exact ih' (ih accounted)

/-- At every moment of a run all requests for constants are accounted for. -/
theorem Session.Moment.accounted {es : List Session.Event} {w : World}
    (moment : Session.Moment es w) : w.Accounted := by
  refine moment.proceeds.accounted ⟨fun r h => ?_, [], rfl, rfl, List.nodup_nil, fun c h => ?_⟩
  · exact absurd h (Array.not_mem_empty r)
  · exact absurd h List.not_mem_nil

/-! ## The constants of one registry -/

/-- The registry that declares a constant. -/
def ConstantRef.owner? : ConstantRef → Option Nat
  | declared registry _ _ => some registry
  | loose _ => none

/-- A constant that belongs to a registry is a declared one. -/
theorem ConstantRef.eq_declared {ref : ConstantRef} {registry : Nat}
    (h : ref.owner? = some registry) : ∃ type key, ref = .declared registry type key := by
  cases ref with
  | declared r type key =>
    cases h
    exact ⟨type, key, rfl⟩
  | loose i => cases h

namespace World

/-- Only constants of one registry are known. -/
def OnlyOf (w : World) (registry : Nat) : Prop :=
  ∀ p ∈ w.fetched, p.1.owner? = some registry

instance (w : World) (registry : Nat) : Decidable (w.OnlyOf registry) :=
  inferInstanceAs (Decidable (∀ p ∈ w.fetched, p.1.owner? = some registry))

variable {w : World} {registry : Nat}

/-- A registry that has a type is a known one. -/
theorem mem_registries {b : Registry.Builtin} (h : b ∈ (w.registry registry).builtins) :
    w.registry registry ∈ w.registries := by
  have bound : registry < w.registries.size := by
    refine Nat.lt_of_not_le fun outside => ?_
    rw [World.registry, Array.getD_eq_getD_getElem?, Array.getElem?_eq_none outside] at h
    cases h
  rw [World.registry, Array.getD_eq_getD_getElem?, Array.getElem?_eq_getElem bound]
  exact Array.getElem_mem bound

/-- The constant is one that the registry declares. -/
def Declares (w : World) (registry : Nat) (c : Constant) : Prop :=
  w.Stands c ∧ c.ref.owner? = some registry

/-- A constant that was found is one that the registry declares. -/
theorem declares_of_declared? {type name : String} {c : Constant}
    (h : w.declared? registry type name = some c) : w.Declares registry c := by
  refine ⟨stands_of_declared? h, ?_⟩
  obtain ⟨b, -, declared⟩ := Option.bind_eq_some_iff.mp h
  obtain ⟨spelling, -, rfl⟩ := Option.map_eq_some_iff.mp declared
  rfl

/-- In a registry that was made from a description, type and name tell constants apart. -/
theorem Accounted.same_iff (accounted : w.Accounted) {c k : Constant}
    (hc : w.Declares registry c) (hk : w.Declares registry k) :
    (c.type, c.name) = (k.type, k.name) ↔ c.ref = k.ref := by
  obtain ⟨c_stands, c_of⟩ := hc
  obtain ⟨k_stands, k_of⟩ := hk
  obtain ⟨type, key, c_ref⟩ := ConstantRef.eq_declared c_of
  obtain ⟨type', key', k_ref⟩ := ConstantRef.eq_declared k_of
  unfold Stands at c_stands k_stands
  rw [c_ref] at c_stands ⊢
  rw [k_ref] at k_stands ⊢
  obtain ⟨b, b_mem, rfl, b_tag, b_known⟩ := c_stands
  obtain ⟨e, e_mem, rfl, e_tag, e_known⟩ := k_stands
  obtain ⟨d, hd⟩ := accounted.built _ (mem_registries b_mem)
  -- both stand in one registry, where a hash belongs to one type and a key to one constant
  obtain ⟨named, nodup⟩ := Registry.named_builtins hd
  constructor
  · intro same
    obtain ⟨tag, name⟩ := Prod.mk.inj same
    have hash : b.hash = e.hash := by
      rw [(named b b_mem).hash, (named e e_mem).hash, ← (named b b_mem).tag, b_tag, tag, ← e_tag,
        (named e e_mem).tag]
    rw [(named b b_mem).key_eq b_known, (named e e_mem).key_eq e_known, name, hash]
  · intro same
    obtain ⟨-, hash, rfl⟩ := ConstantRef.declared.inj same
    have binding : b = e := List.inj_on_of_nodup_map nodup b_mem e_mem hash
    subst binding
    rw [b_known] at e_known
    rw [← b_tag, ← e_tag, Option.some.inj e_known]

/-- What is known are constants of the registry. -/
theorem Accounted.entries (accounted : w.Accounted) (only : w.OnlyOf registry) :
    ∃ cs : List Constant, w.constantsAsked = cs.map (fun c => (c.type, c.name)) ∧
      w.fetched.map Prod.fst = cs.map (fun c => c.ref) ∧ (cs.map fun c => c.ref).Nodup ∧
      ∀ c ∈ cs, w.Declares registry c := by
  obtain ⟨cs, hasked, hknown, nodup, stands⟩ := accounted.ledger
  refine ⟨cs, hasked, hknown, nodup, fun c hc => ⟨stands c hc, ?_⟩⟩
  have known : c.ref ∈ w.fetched.map Prod.fst := by
    rw [hknown]
    exact List.mem_map_of_mem hc
  obtain ⟨p, hp, same⟩ := List.mem_map.mp known
  rw [← same]
  exact only p hp

/-- A host was asked for each constant at most once. -/
theorem Accounted.nodup_asked (accounted : w.Accounted) (only : w.OnlyOf registry) :
    w.constantsAsked.Nodup := by
  obtain ⟨cs, hasked, -, nodup, declares⟩ := accounted.entries only
  rw [hasked]
  refine List.Nodup.map_on (fun c hc k hk same => ?_) (List.Nodup.of_map _ nodup)
  have ref := (accounted.same_iff (declares c hc) (declares k hk)).mp same
  exact List.inj_on_of_nodup_map nodup hc hk ref

/-- The outcome of a constant is known exactly if a host was asked for it. -/
theorem Accounted.known_iff (accounted : w.Accounted) (only : w.OnlyOf registry) {c : Constant}
    (hc : w.Declares registry c) :
    (w.knownOutcome? c.ref).isSome ↔ (c.type, c.name) ∈ w.constantsAsked := by
  obtain ⟨cs, hasked, hknown, -, declares⟩ := accounted.entries only
  rw [World.knownOutcome?, Keyed.isSome_get?_iff, hasked, hknown]
  constructor
  · intro known
    obtain ⟨k, hk, same⟩ := List.mem_map.mp known
    rw [← (accounted.same_iff (declares k hk) hc).mpr same]
    exact List.mem_map_of_mem hk
  · intro asked
    obtain ⟨k, hk, same⟩ := List.mem_map.mp asked
    rw [← (accounted.same_iff (declares k hk) hc).mp same]
    exact List.mem_map_of_mem hk

end World

/-! ## Accesses -/

/-- Without dealings no constant is asked for. -/
theorem constantsAsked_of_undealt {w v : World} (h : Undealt w v) :
    v.constantsAsked = w.constantsAsked := by
  -- questions for classes are not for constants
  have dealt : ∀ u : World, u.constantsAsked = u.dealings.filterMap fun r => r.2.constant? := by
    intro u
    unfold World.constantsAsked World.dealings
    rw [List.filterMap_filter]
    refine List.filterMap_congr fun r _ => ?_
    cases r.2 <;> rfl
  rw [dealt, dealt, h.dealings]

/-- Pushes the outcome of a constant as a value of a native type. -/
def pushOutcome (type : NativeType) (c : Constant) (o : Except HostError Variant) : ScriptM Nat := do
  let v ← granted o
  match type.ofVariant? v with
  | some x =>
    pushNative x
    return 1
  | none => throw (.runtime ("constant " ++ c.text ++ " is not a " ++ type.name))

/-- To push an outcome asks for no constant. -/
theorem discreet_pushOutcome (type : NativeType) (c : Constant) (o : Except HostError Variant) :
    Discreet (pushOutcome type c o) := by
  refine (Inquires.granted o).discreet.bind fun v => ?_
  split
  · exact (Discreet.pushNative _).bind fun _ => .pure 1
  · exact .throw _

/-- A constant is pushed from its known outcome, or from the answer of the current state's host. -/
theorem run_pushConstantAs (type : NativeType) (c : Constant) (w : World) :
    pushConstantAs type c w =
      match w.knownOutcome? c.ref with
      | some o => pushOutcome type c o w
      | none =>
        match w.state.context with
        | some ctx =>
          pushOutcome type c ((w.host ctx.host).engine.constant c.type c.name)
            (w.withFetched ctx.host c)
        | none => (.error noContext, w) := by
  have finds : ∀ w, ((do return (← ScriptM.context).host : ScriptM Nat) w).2 = w := by
    intro w
    rw [Evolving.run_contextHost]
    cases w.state.context <;> rfl
  show (constantOutcome c (do return (← ScriptM.context).host) >>= pushOutcome type c) w = _
  rw [run_bind, Evolving.run_constantOutcome c finds]
  cases w.knownOutcome? c.ref with
  | some o => rfl
  | none =>
    dsimp only
    rw [Evolving.run_contextHost]
    cases w.state.context <;> rfl

namespace Access

/-- The host that an access can ask: its own, or that of the current state. -/
def host? (w : World) : Access → Option Nat
  | value host => some host
  | _ => w.state.context.map fun c => c.host

/-- The native type that a constant is pushed as. -/
def type : Access → NativeType
  | pushAs type => type
  | _ => .variant

/-- What an access makes of the outcome of a constant. -/
def use (c : Constant) (o : Except HostError Variant) : Access → ScriptM Reply
  | value _ => do return .variant (← granted o)
  | a => do return .count (← pushOutcome a.type c o)

/-- The access gets at the constant of the registry: it is about it, or library and key of a lookup
name it in the registry of the current state. -/
def Reaches (registry : Nat) (c : Constant) (w : World) : Access → Prop
  | lookup => ∃ type key ctx, w.libraryType 1 = some type ∧ w.state.checkText 2 = .ok key ∧
      w.state.context = some ctx ∧ ctx.registry = registry ∧ w.declared? registry type key = some c
  | _ => w.Declares registry c

/-- To use an outcome asks for no constant. -/
theorem discreet_use (a : Access) (c : Constant) (o : Except HostError Variant) :
    Discreet (a.use c o) := by
  cases a with
  | value host => exact (Inquires.granted o).discreet.bind fun _ => .pure _
  | _ => exact (discreet_pushOutcome _ c o).bind fun _ => .pure _

variable {registry : Nat} {c : Constant} {w : World}

/-- A lookup that reaches a constant pushes it. -/
theorem run_lookup (reaches : lookup.Reaches registry c w) :
    builtinGlobalIndex w = pushConstant c w := by
  obtain ⟨type, key, ctx, library, text, context, rfl, declared⟩ := reaches
  obtain ⟨b, found, declared⟩ := Option.bind_eq_some_iff.mp declared
  rw [run_builtinGlobalIndex, text, library, context]
  dsimp only
  rw [found]
  dsimp only
  rw [pushLibraryEntry, declared]

/-- An access makes use of the known outcome of a constant. Otherwise it asks its host, and without
one it fails. -/
theorem run_perform {a : Access} (reaches : a.Reaches registry c w) :
    a.perform c w =
      match w.knownOutcome? c.ref with
      | some o => a.use c o w
      | none =>
        match a.host? w with
        | some host =>
          a.use c ((w.host host).engine.constant c.type c.name) (w.withFetched host c)
        | none => (.error noContext, w) := by
  -- three of the four accesses push the outcome, and find their host in the same way
  have pushes : ∀ type : NativeType,
      (do return .count (← pushConstantAs type c) : ScriptM Reply) w =
        match w.knownOutcome? c.ref with
        | some o => (do return .count (← pushOutcome type c o) : ScriptM Reply) w
        | none =>
          match w.state.context.map fun c => c.host with
          | some host =>
            (do return .count (← pushOutcome type c ((w.host host).engine.constant c.type c.name)) :
              ScriptM Reply) (w.withFetched host c)
          | none => (.error noContext, w) := by
    intro type
    rw [run_bind, run_pushConstantAs]
    cases w.knownOutcome? c.ref with
    | some o => exact (run_bind _ _ _).symm
    | none =>
      cases w.state.context with
      | some ctx => exact (run_bind _ _ _).symm
      | none => rfl
  cases a with
  | push => exact pushes .variant
  | pushAs type => exact pushes type
  | value host =>
    show (constantOutcome c (pure host) >>= fun o => do return .variant (← granted o) :
      ScriptM Reply) w = _
    rw [run_bind, Evolving.run_constantOutcome c fun _ => rfl]
    cases w.knownOutcome? c.ref <;> rfl
  | lookup =>
    have looked : lookup.perform c w = (do return .count (← pushConstant c) : ScriptM Reply) w := by
      show (do return .count (← builtinGlobalIndex) : ScriptM Reply) w = _
      rw [run_bind, run_lookup reaches, run_bind]
    rw [looked]
    exact pushes .variant

end Access

/-- Without a context no lookup gets to a constant. -/
theorem run_builtinGlobalIndex_none {w : World} (without : w.state.context = none) :
    ∃ e, builtinGlobalIndex w = (.error e, w) ∧
      ∀ key type, w.state.checkText 2 = .ok key → w.libraryType 1 = some type → e = noContext := by
  rw [run_builtinGlobalIndex, without]
  cases w.state.checkText 2 with
  | error e => exact ⟨e, rfl, fun _ _ h => (by cases h)⟩
  | ok key =>
    cases w.libraryType 1 with
    | none => exact ⟨_, rfl, fun _ _ _ h => (by cases h)⟩
    | some type => exact ⟨_, rfl, fun _ _ _ _ => rfl⟩

namespace Access

/-- A refusal is passed on. -/
theorem use_error (a : Access) (c : Constant) (e : HostError) (w : World) :
    a.use c (.error e) w = (.error (.host e), w) := by
  cases a <;> rfl

/-- A value that the type of the access cannot stand for is an error. -/
theorem use_mismatch {a : Access} (c : Constant) {v : Variant} (w : World)
    (pushes : ∀ host, a ≠ value host) (mismatch : a.type.ofVariant? v = none) :
    a.use c (.ok v) w =
      (.error (.runtime ("constant " ++ c.text ++ " is not a " ++ a.type.name)), w) := by
  have refused : pushOutcome a.type c (.ok v) w =
      (.error (.runtime ("constant " ++ c.text ++ " is not a " ++ a.type.name)), w) := by
    unfold pushOutcome
    rw [run_bind]
    show (match a.type.ofVariant? v with
      | some x => pushNative x >>= fun _ => pure 1
      | none => throw _ : ScriptM Nat) w = _
    rw [mismatch]
    rfl
  -- reading the value for a host is the one access that takes any value
  have used : a.use c (.ok v) = (do return .count (← pushOutcome a.type c (.ok v))) := by
    cases a with
    | value host => exact absurd rfl (pushes host)
    | _ => rfl
  rw [used, run_bind, refused]

end Access

/-! ## Every run -/

/-- How the accesses to the constants of a registry go in a world `w` of a run that ends in `z`. -/
structure ServedOnce (registry : Nat) (z w : World) : Prop where
  /-- The outcome of a constant is known from when a host is asked for it. -/
  known_iff : ∀ c, w.Declares registry c →
    ((w.knownOutcome? c.ref).isSome ↔ (c.type, c.name) ∈ w.constantsAsked)
  /-- It stays the same to the end of the run. -/
  lasting : ∀ ref o, w.knownOutcome? ref = some o → z.knownOutcome? ref = some o
  /-- From then on an access uses it, without dealings with a host. -/
  known : ∀ (a : Access) c o, a.Reaches registry c w → w.knownOutcome? c.ref = some o →
    a.perform c w = a.use c o w ∧ Undealt w (a.perform c w).2
  /-- The first access that has a host asks it. -/
  fetched : ∀ (a : Access) c host, a.Reaches registry c w → w.knownOutcome? c.ref = none →
    a.host? w = some host →
    let answer := (w.host host).engine.constant c.type c.name
    a.perform c w = a.use c answer (w.withFetched host c) ∧
      (a.perform c w).2.knownOutcome? c.ref = some answer ∧
      (a.perform c w).2.constantsAsked = w.constantsAsked ++ [(c.type, c.name)]
  /-- An access without host before that fails and changes nothing. -/
  refused : ∀ (a : Access) c, a.Reaches registry c w → w.knownOutcome? c.ref = none →
    a.host? w = none → a.perform c w = (.error noContext, w)
  /-- A lookup in a state without context reaches no constant, whether it is known or not. -/
  unreached : w.state.context = none →
    ∃ e, builtinGlobalIndex w = (.error e, w) ∧
      ∀ key type, w.state.checkText 2 = .ok key → w.libraryType 1 = some type → e = noContext
  /-- What is used of a refusal is the error, and of a value of another type that it is one. -/
  failed : ∀ (a : Access) c u, (∀ e, a.use c (.error e) u = (.error (.host e), u)) ∧
    ∀ v, (∀ host, a ≠ .value host) → a.type.ofVariant? v = none →
      a.use c (.ok v) u =
        (.error (.runtime ("constant " ++ c.text ++ " is not a " ++ a.type.name)), u)

/-- In a run that uses the constants of one registry, from whatever states, hosts are asked for each
of them at most once, and every access gets what was answered then. -/
theorem constants_once {es : List Session.Event} {registry : Nat}
    (only : (Session.after es).world.OnlyOf registry) :
    (Session.after es).world.constantsAsked.Nodup ∧
      ∀ w, Session.Moment es w → ServedOnce registry (Session.after es).world w := by
  have finished : Session.Moment es (Session.after es).world :=
    .between es [] (List.append_nil es).symm
  refine ⟨finished.accounted.nodup_asked only, fun w moment => ?_⟩
  -- the list of what was fetched only grows, so what holds of the whole one holds of its beginnings
  have later := moment.proceeds_after.fetched_prefix
  have onlyHere : w.OnlyOf registry := fun p hp => only p (later.subset hp)
  exact
    { known_iff := fun c hc => moment.accounted.known_iff onlyHere hc
      lasting := fun ref o known => Keyed.get?_of_prefix later known
      known := by
        intro a c o reaches known
        have run := Access.run_perform reaches
        rw [known] at run
        exact ⟨run, run ▸ a.discreet_use c o w⟩
      fetched := by
        intro a c host reaches unknown at_
        dsimp only
        have run := Access.run_perform reaches
        rw [unknown, at_] at run
        have undealt := a.discreet_use c ((w.host host).engine.constant c.type c.name)
          (w.withFetched host c)
        refine ⟨run, ?_, ?_⟩
        · rw [run, World.knownOutcome?, undealt.fetched]
          exact Keyed.get?_put_self ..
        · rw [run, constantsAsked_of_undealt undealt]
          exact w.constantsAsked_push _
      refused := by
        intro a c reaches unknown without
        have run := Access.run_perform reaches
        rwa [unknown, without] at run
      unreached := run_builtinGlobalIndex_none
      failed := fun a c u =>
        ⟨fun e => a.use_error c e u, fun v pushes mismatch => Access.use_mismatch c u pushes mismatch⟩ }

/-- A run that opens a library with one constant and looks the constant up. -/
def lookedUp : List Session.Event :=
  [.command (.newRuntime
      { api := some (.document ("\x7b\"header\":\x7b\"version_major\":1\x7d,\"builtin_classes\":[" ++
          "\x7b\"name\":\"Vector2\",\"constants\":[" ++
          "\x7b\"name\":\"Q\",\"type\":\"bool\"\x7d]\x7d]\x7d"))
        shared := false
        host := some (.fresh ⟨[], [((.vector2, "Q"), .bool true)], false⟩)
        builtins := true
        classes := false
        enums := false }),
    .command (.run (.getGlobal "Vector2")),
    .command (.run (.getField (-1) "Q"))]

theorem constants_once_lookedUp :
    let z := (Session.after lookedUp).world
    z.OnlyOf 0 ∧ z.constantsAsked = [(.vector2, "Q")] ∧
      z.constantsAsked.Nodup ∧ ∀ w, Session.Moment lookedUp w → ServedOnce 0 z w := by
  have only : (Session.after lookedUp).world.OnlyOf 0 := by decide +kernel
  exact ⟨only, by decide +kernel, constants_once only⟩

/-- A library stays when its state loses the context, but its constants are out of reach then: also
one whose outcome is known. -/
theorem lookup_without_context :
    let w := (Session.after (lookedUp ++ [.command (.run .removeContext)])).world
    (w.declared? 0 "Vector2" "Q").bind (fun c => w.knownOutcome? c.ref) =
        some (.ok (.bool true)) ∧
      (getField runFunction (-2) "Q" w).1 = .error noContext := by
  decide +kernel

end ScriptBind
