import ScriptBind.Proofs.Session.Sealed

/-!
# What opening leaves

The groups of libraries are opened one after the other on top of a sealed state, and each library by
a few operations of its own. So what one of them has set up is set up in the end only if the others
leave it alone: the functions, the locked tables, the registered metatables and the libraries among
the globals.

Main results:

* `World.Preserves` — what an opening leaves of what has been opened before.
* `Opens.preserves_forM` — the libraries of a group.
* `openLibraries_groups` — the three groups.
-/

namespace ScriptBind

open ScriptM

namespace World

/-- A global of a registered name. -/
structure Taken (w : World) (root : String) (lib : TableId) : Prop where
  entry : (w.table w.state.globals).field root = .table lib
  registered : (Keyed.get? root w.state.metatables).isSome

/-- What has been opened stays: the locked tables, the libraries among the globals, and what the
state works with. -/
structure Preserves (w v : World) : Prop where
  evolves : Evolves w v
  spared : ∀ t, Spares t w v
  taken : ∀ root lib, w.Taken root lib → v.Taken root lib
  context : v.state.context = w.state.context
  registries : v.registries = w.registries

namespace Preserves

variable {u w v : World}

theorem refl (w : World) : w.Preserves w :=
  ⟨.refl w, fun _ _ => rfl, fun _ _ taken => taken, rfl, rfl⟩

theorem trans (first : u.Preserves w) (second : w.Preserves v) : u.Preserves v where
  evolves := first.evolves.trans second.evolves
  spared t := (first.spared t).trans (second.spared t)
  taken root lib taken := second.taken root lib (first.taken root lib taken)
  context := second.context.trans first.context
  registries := second.registries.trans first.registries

theorem functions (h : w.Preserves v) (f : FunctionId) (handler : Handler)
    (known : w.handler? f = some handler) : v.handler? f = some handler :=
  (Leads.evolves h.evolves).handler_kept known

theorem registry (h : w.Preserves v) (i : Nat) : v.registry i = w.registry i :=
  congrArg (fun rs : Array Registry => rs.getD i default) h.registries

end Preserves

end World

namespace ScriptM

variable {n : Nat} {w v : World} {isObject : Bool}

/-! ## One library after the other -/

theorem Opens.preserves {α : Type} {act : α → ScriptM Unit} {nameOf : α → String}
    (opens : Opens act nameOf isObject) (evolving : ∀ x, Evolving (act x)) {x : α}
    (sealed_ : w.view.Sealed n) (ok : act x w = (.ok (), v)) : w.Preserves v := by
  obtain ⟨new, furnishes⟩ := opens.furnishes sealed_ ok
  refine ⟨(evolving x).ran ok, fun t locked => ?_, fun root lib taken => ?_,
    furnishes.beside.context, furnishes.registries⟩
  · obtain ⟨old, other⟩ := sealed_.ready.old_of_locked locked
    exact furnishes.kept old other
  -- the new library has another name than those that are registered
  · have apart : root ≠ nameOf x := by
      rintro rfl
      have registered := taken.registered
      rw [new] at registered
      cases registered
    have globals : v.table w.state.globals = _ := furnishes.globals
    have same : v.state.globals = w.state.globals := furnishes.globals_eq
    refine ⟨?_, ?_⟩
    · rw [same, globals, Table.field_entered_other apart.symm]
      exact taken.entry
    · rw [show v.state = _ from furnishes.state]
      show (Keyed.get? root (Keyed.put (nameOf x) _ w.state.metatables)).isSome
      rw [Keyed.get?_put_ne apart]
      exact taken.registered

/-- Each library of a loop is opened at some time, in a state that is sealed. The induction is on
the libraries that are still to be opened. -/
theorem Opens.preserves_forM {α : Type} {act : α → ScriptM Unit} {nameOf : α → String}
    (opens : Opens act nameOf isObject) (evolving : ∀ x, Evolving (act x)) {xs : List α}
    (sealed_ : w.view.Sealed n) (ok : xs.forM act w = (.ok (), v)) :
    w.Preserves v ∧ ∀ x ∈ xs, ∃ u u', w.Preserves u ∧ u.view.Sealed n ∧ act x u = (.ok (), u') ∧
      u'.Preserves v := by
  induction xs generalizing w with
  | nil =>
    cases ok
    exact ⟨.refl _, nofun⟩
  | cons y rest ih =>
    obtain ⟨_, u, first, others⟩ := run_bind_eq_ok.mp ok
    obtain ⟨-, furnishes⟩ := opens.furnishes sealed_ first
    have step := opens.preserves evolving sealed_ first
    have sealed' := sealed_.grows (furnishes.grows sealed_.ready World.table_empty)
    obtain ⟨last, each⟩ := ih sealed' others
    refine ⟨step.trans last, fun x mem => ?_⟩
    -- the library at hand is the first one, or one that is opened after it
    rcases List.mem_cons.mp mem with rfl | mem
    · exact ⟨w, u, .refl w, sealed_, first, last⟩
    · obtain ⟨u₁, u₂, before, sealed₁, opened, after⟩ := each x mem
      exact ⟨u₁, u₂, step.trans before, sealed₁, opened, after⟩

theorem preserves_fillEnums {c : Context} (sealed_ : w.view.Sealed n)
    (ok : fillEnums c w = (.ok (), v)) : w.Preserves v := by
  obtain ⟨grows, state, registries, -⟩ := fillEnums_grows sealed_ ok
  have evolving : Evolving (fillEnums c) :=
    Evolving.enumTable.bind fun enums => (Evolving.registry c).bind fun _ =>
      (Evolving.forM (Evolving.openEnum enums) _).bind fun _ => Evolving.setReadonly enums true
  refine ⟨evolving.ran ok, fun t locked => ?_, fun root lib taken => ?_,
    congrArg State.context state, registries⟩
  · obtain ⟨old, other⟩ := sealed_.ready.old_of_locked locked
    exact grows.kept old other
  -- the enums are entered where nothing has stood
  · obtain ⟨t, u, found, -⟩ := run_bind_eq_ok.mp ok
    have apart : enumGlobal ≠ root := by
      rintro rfl
      have entry := taken.entry
      rw [nil_of_enumTable sealed_ found] at entry
      cases entry
    have globals : v.table w.state.globals = _ := grows.entered
    refine ⟨?_, ?_⟩
    · rw [state, globals, Table.field_entered_other apart]
      exact taken.entry
    · rw [state]
      exact taken.registered

/-! ## The three groups -/

/-- A group is opened, or left out. -/
theorem group_preserves {open_ : Bool} {act : ScriptM Unit}
    (opens : act w = (.ok (), v) → w.Preserves v)
    (ok : (if open_ then act else pure ()) w = (.ok (), v)) : w.Preserves v := by
  cases open_ with
  | true => exact opens ok
  | false =>
    cases ok
    exact .refl _

section Groups

variable {c : Context} (sealed_ : w.view.Sealed n) (context : w.state.context = some c)
include sealed_ context

theorem preserves_openBuiltins (ok : discard openBuiltins w = (.ok (), v)) : w.Preserves v := by
  rw [run_openBuiltins context] at ok
  exact (opens_builtin.preserves_forM Evolving.openBuiltin sealed_ ok).1

theorem preserves_openClasses (ok : discard openClasses w = (.ok (), v)) : w.Preserves v := by
  rw [run_openClasses context] at ok
  exact (opens_class.preserves_forM Evolving.openClass sealed_ ok).1

theorem preserves_openEnums (ok : discard openEnums w = (.ok (), v)) : w.Preserves v := by
  rw [run_openEnums context] at ok
  exact preserves_fillEnums sealed_ ok

/-- The groups are opened one after the other, each in a sealed state. -/
theorem openLibraries_groups {setup : Setup} (ok : openLibraries setup w = (.ok (), v)) :
    ∃ w₁ w₂,
      (if setup.builtins then discard openBuiltins else pure ()) w = (.ok (), w₁) ∧
      (if setup.classes then discard openClasses else pure ()) w₁ = (.ok (), w₂) ∧
      (if setup.enums then discard openEnums else pure ()) w₂ = (.ok (), v) ∧
      w₁.view.Sealed n ∧ w₂.view.Sealed n ∧
      w.Preserves w₁ ∧ w₁.Preserves w₂ ∧ w₂.Preserves v := by
  rw [openLibraries_eq] at ok
  obtain ⟨_, w₁, first, ok⟩ := run_bind_eq_ok.mp ok
  obtain ⟨_, w₂, second, third⟩ := run_bind_eq_ok.mp ok
  have sealed₁ := group_sealed sealed_ (openBuiltins_sealed sealed_) first
  have step₁ := group_preserves (preserves_openBuiltins sealed_ context) first
  have context₁ := step₁.context.trans context
  have sealed₂ := group_sealed sealed₁ (openClasses_sealed sealed₁) second
  have step₂ := group_preserves (preserves_openClasses sealed₁ context₁) second
  have context₂ := step₂.context.trans context₁
  have step₃ := group_preserves (preserves_openEnums sealed₂ context₂) third
  exact ⟨w₁, w₂, first, second, third, sealed₁, sealed₂, step₁, step₂, step₃⟩

end Groups

end ScriptM

namespace World

theorem sealed_withContext (w : World) (host registry : Nat) :
    (w.withContext host registry).view.Sealed w.tables.size :=
  w.sealed_new _

/-- Libraries are all that a state with bindings has more than a new one. -/
theorem withRuntime_preserves {w v : World} {setup : Setup} {host i : Nat}
    (ready : w.withRuntime setup host i = .ok v) :
    openLibraries setup (w.withContext host i) = (.ok (), v) ∧
      (w.withContext host i).Preserves v := by
  have opened := withRuntime_eq_ok.mp ready
  obtain ⟨_, _, -, -, -, -, -, first, second, third⟩ :=
    openLibraries_groups (w.sealed_withContext host i) rfl opened
  exact ⟨opened, first.trans (second.trans third)⟩

end World

end ScriptBind
