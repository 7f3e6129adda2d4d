import ScriptBind.Proofs.Session.Moments
import ScriptBind.Proofs.Registry.Construction

/-!
# What only grows

Tables, functions and registries are never taken away, and a name keeps the metatable that a state has
registered for it. So a handle that once stood for something goes on to do so, for as long as a run
lasts and in every state of it.

Main results:

* `Leads.function_known`, `Leads.size_tables`, `Proceeds.registry_known` — in every later world.
* `Forward.metatable_kept`, `Forward.houses`, `Forward.globals_eq` — in every later world of one
  state.
* `Forward.rooted` — the globals of a state are never registered as a metatable.
-/

namespace ScriptBind

/-! ## Tables and functions -/

/-- What is in an array stays where it is when something is added at the end. -/
theorem getElem?_push_kept {α : Type} {xs : Array α} {i : Nat} {x : α} (known : xs[i]? = some x)
    (y : α) : (xs.push y)[i]? = some x := by
  have bound : i < xs.size := (Array.getElem?_eq_some_iff.mp known).1
  rw [Array.getElem?_push_lt bound, ← Array.getElem?_eq_getElem bound]
  exact known

/-- No table is ever taken away. -/
theorem Evolves.size_tables {w v : World} (h : Evolves w v) : w.tables.size ≤ v.tables.size := by
  induction h with
  | trans _ _ ih ih' => exact Nat.le_trans ih ih'
  | register _ => simp [World.registering]
  | newTable w => simp
  | setKey _ => simp [World.putTable]
  | setMetatable _ => simp [World.putTable]
  | setReadonly => simp
  | namecall _ ih => exact ih
  | call _ _ _ _ ih => exact ih
  | _ => exact Nat.le_refl _

/-- There are no fewer tables later, in whatever state. -/
theorem Leads.size_tables {w v : World} (h : Leads w v) : w.tables.size ≤ v.tables.size := by
  induction h with
  | evolves h => exact h.size_tables
  | state _ _ => exact Nat.le_refl _
  | classes _ _ _ => exact Nat.le_refl _
  | trans _ _ ih ih' => exact Nat.le_trans ih ih'

/-- A function stays what it is. -/
theorem Evolves.function_known {w v : World} (h : Evolves w v) {i : Nat} {g : Function}
    (known : w.functions[i]? = some g) : v.functions[i]? = some g := by
  induction h with
  | trans _ _ ih ih' => exact ih' (ih known)
  | newFunction w f => exact getElem?_push_kept known f
  | namecall _ ih => exact ih known
  | call _ _ _ _ ih => exact ih known
  | _ => exact known

/-- A function stays what it is, in whatever state. -/
theorem Leads.function_known {w v : World} (h : Leads w v) {i : Nat} {g : Function}
    (known : w.functions[i]? = some g) : v.functions[i]? = some g := by
  induction h with
  | evolves h => exact h.function_known known
  | state _ _ => exact known
  | classes _ _ _ => exact known
  | trans _ _ ih ih' => exact ih' (ih known)

/-- A registry stays what it is. -/
theorem Evolves.registry_known {w v : World} (h : Evolves w v) {i : Nat} {r : Registry}
    (known : w.registries[i]? = some r) : v.registries[i]? = some r := by
  induction h with
  | trans _ _ ih ih' => exact ih' (ih known)
  | @newRegistry w d k _ => exact getElem?_push_kept known k
  | namecall _ ih => exact ih known
  | call _ _ _ _ ih => exact ih known
  | _ => exact known

/-- A registry stays what it is, in whatever state. -/
theorem Proceeds.registry_known {w v : World} (h : Proceeds w v) {i : Nat} {r : Registry}
    (known : w.registries[i]? = some r) : v.registries[i]? = some r := by
  induction h with
  | evolves h => exact h.registry_known known
  | state _ _ => exact known
  | trans _ _ ih ih' => exact ih' (ih known)

/-- The handler that a function runs. -/
def World.handler? (w : World) (f : FunctionId) : Option Handler :=
  match w.functions[f.index]? with
  | some g =>
    match g.code with
    | .handler h => some h
    | _ => none
  | none => none

/-- A function runs a handler if this is its code. -/
theorem World.handler?_eq_some {w : World} {f : FunctionId} {h : Handler} :
    w.handler? f = some h ↔ ∃ g, w.functions[f.index]? = some g ∧ g.code = .handler h := by
  unfold handler?
  cases w.functions[f.index]? with
  | none => simp
  | some g => cases hc : g.code <;> simp [hc]

/-- A function goes on to run its handler. -/
theorem Leads.handler_kept {w v : World} (later : Leads w v) {f : FunctionId} {h : Handler}
    (known : w.handler? f = some h) : v.handler? f = some h := by
  obtain ⟨g, function, code⟩ := World.handler?_eq_some.mp known
  exact World.handler?_eq_some.mpr ⟨g, later.function_known function, code⟩

/-! ## Registered metatables -/

/-- A name keeps its metatable: only names without one get one. -/
theorem Evolves.metatable_kept {w v : World} (h : Evolves w v) {name : String} {mt : TableId}
    (known : w.metatableNamed name = some mt) : v.metatableNamed name = some mt := by
  induction h with
  | trans _ _ ih ih' => exact ih' (ih known)
  | @register w other new =>
    have apart : name ≠ other := by
      rintro rfl
      rw [new] at known
      cases known
    show Keyed.get? name (Keyed.put other _ w.state.metatables) = some mt
    rw [Keyed.get?_put_ne apart]
    exact known
  | namecall _ ih => exact ih known
  | call _ _ _ _ ih => exact ih known
  | _ => exact known

/-- A function that is entered finds the metatable of a name. -/
theorem Enters.metatable_kept {w u : World} (h : Enters w u) {name : String} {mt : TableId}
    (known : w.metatableNamed name = some mt) : u.metatableNamed name = some mt := by
  induction h with
  | call _ _ _ => exact known
  | after before _ ih => exact ih (before.metatable_kept known)
  | namecall _ ih => exact ih known

/-- A name has its metatable later. -/
theorem Forward.metatable_kept {w v : World} (h : Forward w v) {name : String} {mt : TableId}
    (known : w.metatableNamed name = some mt) : v.metatableNamed name = some mt := by
  induction h with
  | evolves h => exact h.metatable_kept known
  | enters h => exact h.metatable_kept known
  | trans _ _ ih ih' => exact ih' (ih known)

/-! ## Metatables that exist -/

/-- The metatables that a state has registered exist. -/
def World.Houses (w : World) (s : State) : Prop := ∀ p ∈ s.metatables, p.2.index < w.tables.size

namespace World.Houses

variable {w v : World} {s : State}

/-- A metatable that is found under a name exists. -/
theorem of_named (h : w.Houses w.state) {name : String} {mt : TableId}
    (named : w.metatableNamed name = some mt) : mt.index < w.tables.size :=
  h _ (Keyed.mem_of_get? named)

/-- What existed once goes on to exist. -/
theorem mono (h : w.Houses s) (later : w.tables.size ≤ v.tables.size) : v.Houses s :=
  fun p hp => Nat.lt_of_lt_of_le (h p hp) later

/-- A new state has not registered any. -/
theorem new (globals : TableId) : w.Houses (State.new globals) :=
  fun _ hp => absurd hp List.not_mem_nil

end World.Houses

/-- Metatables are registered when they have been made. -/
theorem Evolves.houses {w v : World} (h : Evolves w v) (housed : w.Houses w.state) :
    v.Houses v.state := by
  induction h with
  | trans _ _ ih ih' => exact ih' (ih housed)
  | @register w name new =>
    have size : (w.registering name).tables.size = w.tables.size + 1 := Array.size_push ..
    intro p hp
    rcases Keyed.value_of_mem_put hp with old | fresh
    · exact Nat.lt_of_lt_of_le (housed p old) (size ▸ Nat.le_succ _)
    · rw [fresh, size]
      exact Nat.lt_succ_self _
  | newTable w => exact housed.mono (by simp)
  | setKey _ => exact housed.mono (by simp [World.putTable])
  | setMetatable _ => exact housed.mono (by simp [World.putTable])
  | setReadonly => exact housed.mono (by simp)
  | namecall _ ih => exact ih housed
  | call _ _ _ _ ih => exact ih housed
  | _ => exact housed

/-- A function that is entered finds the metatables that there were. -/
theorem Enters.houses {w u : World} (h : Enters w u) (housed : w.Houses w.state) :
    u.Houses u.state := by
  induction h with
  | call _ _ _ => exact housed
  | after before _ ih => exact ih (before.houses housed)
  | namecall _ ih => exact ih housed

/-- All metatables of a later world exist. -/
theorem Forward.houses {w v : World} (h : Forward w v) (housed : w.Houses w.state) :
    v.Houses v.state := by
  induction h with
  | evolves h => exact h.houses housed
  | enters h => exact h.houses housed
  | trans _ _ ih ih' => exact ih' (ih housed)

/-! ## Globals -/

/-- The globals of a state are one table. -/
theorem Evolves.globals_eq {w v : World} (h : Evolves w v) : v.state.globals = w.state.globals := by
  induction h with
  | trans _ _ ih ih' => rw [ih', ih]
  | namecall _ ih => exact ih
  | call _ _ _ _ ih => exact ih
  | _ => rfl

/-- A function that is entered finds the globals that there were. -/
theorem Enters.globals_eq {w u : World} (h : Enters w u) : u.state.globals = w.state.globals := by
  induction h with
  | call _ _ _ => rfl
  | after before _ ih => exact ih.trans before.globals_eq
  | namecall _ ih => exact ih

/-- The globals are the same table later. -/
theorem Forward.globals_eq {w v : World} (h : Forward w v) : v.state.globals = w.state.globals := by
  induction h with
  | evolves h => exact h.globals_eq
  | enters h => exact h.globals_eq
  | trans _ _ ih ih' => exact ih'.trans ih

/-- There are no fewer tables later. -/
theorem Forward.size_tables {w v : World} (h : Forward w v) : w.tables.size ≤ v.tables.size :=
  h.proceeds.leads.size_tables

/-- The globals of a state exist, and are no metatable that it has registered. -/
def World.Rooted (w : World) (s : State) : Prop :=
  s.globals.index < w.tables.size ∧ ∀ p ∈ s.metatables, p.2 ≠ s.globals

namespace World.Rooted

variable {w v : World} {s : State}

/-- The table of the globals exists. -/
theorem made (h : w.Rooted s) : s.globals.index < w.tables.size := h.1

/-- A new state has not registered any. -/
theorem new {globals : TableId} (made : globals.index < w.tables.size) :
    w.Rooted (State.new globals) :=
  ⟨made, fun _ hp => absurd hp List.not_mem_nil⟩

/-- It makes no difference which tables come later. -/
theorem mono (h : w.Rooted s) (later : w.tables.size ≤ v.tables.size) : v.Rooted s :=
  ⟨Nat.lt_of_lt_of_le h.made later, h.2⟩

/-- A metatable that is found under a name is not the table of the globals. -/
theorem ne_globals (h : w.Rooted w.state) {name : String} {mt : TableId}
    (named : w.metatableNamed name = some mt) : mt ≠ w.state.globals :=
  h.2 _ (Keyed.mem_of_get? named)

/-- A new metatable is made for a name, so it is no table that was there before. -/
theorem registering (h : w.Rooted w.state) (name : String) :
    (w.registering name).Rooted (w.registering name).state := by
  have size : (w.registering name).tables.size = w.tables.size + 1 := Array.size_push ..
  refine ⟨size ▸ Nat.lt_succ_of_lt h.made, fun p hp => ?_⟩
  rcases Keyed.value_of_mem_put hp with old | fresh
  · exact h.2 p old
  · rintro same
    have index : w.tables.size = w.state.globals.index :=
      congrArg TableId.index (fresh.symm.trans same)
    exact Nat.lt_irrefl _ (index ▸ h.made)

end World.Rooted

/-- No operation registers the globals. -/
theorem Evolves.rooted {w v : World} (h : Evolves w v) (rooted : w.Rooted w.state) :
    v.Rooted v.state := by
  induction h with
  | trans _ _ ih ih' => exact ih' (ih rooted)
  | register _ => exact rooted.registering _
  | newTable w => exact rooted.mono (by simp)
  | setKey _ => exact rooted.mono (by simp [World.putTable])
  | setMetatable _ => exact rooted.mono (by simp [World.putTable])
  | setReadonly => exact rooted.mono (by simp)
  | namecall _ ih => exact ih rooted
  | call _ _ _ _ ih => exact ih rooted
  | _ => exact rooted

/-- A function that is entered finds the globals apart from the metatables. -/
theorem Enters.rooted {w u : World} (h : Enters w u) (rooted : w.Rooted w.state) :
    u.Rooted u.state := by
  induction h with
  | call _ _ _ => exact rooted
  | after before _ ih => exact ih (before.rooted rooted)
  | namecall _ ih => exact ih rooted

/-- The globals are apart from the metatables later. -/
theorem Forward.rooted {w v : World} (h : Forward w v) (rooted : w.Rooted w.state) :
    v.Rooted v.state := by
  induction h with
  | evolves h => exact h.rooted rooted
  | enters h => exact h.rooted rooted
  | trans _ _ ih ih' => exact ih' (ih rooted)

end ScriptBind
