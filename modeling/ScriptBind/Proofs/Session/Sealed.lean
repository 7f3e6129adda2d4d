import ScriptBind.Proofs.Session.Frozen
import ScriptBind.Proofs.Session.Furnished

/-!
# What is built stays

A state with bindings is built in a row of new tables. The first of them is the table of its globals;
all others are locked when the building is over, and nothing in the row refers to a table outside of
it, nor back to the globals. So everything that scripts find in a new state is locked, and none of it
changes in any later run that takes no lock away.

Main results:

* `View.Sealed.grows` — what is opened on top of a sealed state leaves it sealed.
* `World.withRuntime_sealed` — a state with any groups of libraries.
* `Session.locked_tables_stay` — what runs leaves locked tables as they are.
-/

namespace ScriptBind

open ScriptM

/-! ## Sealed tables -/

/-- The tables from `n` on are those of one state: its globals, and tables that are locked. Neither
they nor the registered metatables lead out of the row or back to the globals. -/
structure View.Sealed (n : Nat) (a : View) : Prop where
  ready : a.Ready
  globals : a.state.globals = ⟨n⟩
  locked {t : TableId} (own : n < t.index) (made : t.index < a.size) : (a.table t).readonly = true
  registered {name : String} {mt : TableId}
    (known : Keyed.get? name a.state.metatables = some mt) : n < mt.index ∧ mt.index < a.size
  refers {t u : TableId} (own : n ≤ t.index) (h : (a.table t).Refers u) :
    n < u.index ∧ u.index < a.size

/-- New tables have been made, and one of them has been entered among the globals. They are locked,
and refer to each other only. -/
structure View.Grows (a b : View) (name : String) (entry : TableId) : Prop where
  ready : b.Ready
  more : a.size ≤ b.size
  globals : b.state.globals = a.state.globals
  kept {t : TableId} (old : t.index < a.size) (other : t ≠ a.state.globals) : b.table t = a.table t
  entered : b.table a.state.globals = (a.table a.state.globals).entered name (.table entry)
  entry_new : a.size ≤ entry.index ∧ entry.index < b.size
  locked {t : TableId} (new : a.size ≤ t.index) (made : t.index < b.size) :
    (b.table t).readonly = true
  registered {name : String} {mt : TableId} (known : Keyed.get? name b.state.metatables = some mt) :
    Keyed.get? name a.state.metatables = some mt ∨ a.size ≤ mt.index ∧ mt.index < b.size
  refers {t u : TableId} (new : a.size ≤ t.index) (h : (b.table t).Refers u) :
    a.size ≤ u.index ∧ u.index < b.size

namespace View.Sealed

variable {n : Nat} {a b : View}

/-- What is registered is locked. -/
theorem registered_locked (sealed_ : a.Sealed n) {name : String} {mt : TableId}
    (known : Keyed.get? name a.state.metatables = some mt) : (a.table mt).readonly = true :=
  sealed_.locked (sealed_.registered known).1 (sealed_.registered known).2

/-- What grows stays sealed. -/
theorem grows (sealed_ : a.Sealed n) {name : String} {entry : TableId}
    (h : a.Grows b name entry) : b.Sealed n := by
  have low : n < a.size := by
    have inside := sealed_.ready.inside
    rwa [sealed_.globals] at inside
  have old {u : TableId} (own : n < u.index ∧ u.index < a.size) : n < u.index ∧ u.index < b.size :=
    ⟨own.1, Nat.lt_of_lt_of_le own.2 h.more⟩
  have new {u : TableId} (made : a.size ≤ u.index ∧ u.index < b.size) :
      n < u.index ∧ u.index < b.size :=
    ⟨Nat.lt_of_lt_of_le low made.1, made.2⟩
  refine ⟨h.ready, h.globals.trans sealed_.globals, fun {t} own made => ?_,
    fun known => (h.registered known).elim (fun known => old (sealed_.registered known)) new,
    fun {t u} own refers => ?_⟩
  -- a table was there before and has stayed, or is new and locked
  · rcases Nat.lt_or_ge t.index a.size with early | late
    · have apart : t ≠ a.state.globals := by
        rintro rfl
        rw [sealed_.globals] at own
        exact Nat.lt_irrefl n own
      rw [h.kept early apart, sealed_.locked own early]
    · exact h.locked late made
  · rcases Nat.lt_or_ge t.index a.size with early | late
    -- the globals refer to what they did and to the entry, and to nothing that is older than both
    · by_cases same : t = a.state.globals
      · subst same
        rw [h.entered] at refers
        rcases refers.of_entered with refers | entered
        · exact old (sealed_.refers own refers)
        · cases entered
          exact new h.entry_new
      · rw [h.kept early same] at refers
        exact old (sealed_.refers own refers)
    · exact new (h.refers late refers)

end View.Sealed

namespace ScriptM

variable {n : Nat} {a b : View} {w v : World} {isObject : Bool}

/-! ## Libraries and enums -/

/-- A library is new tables, of which it is the one among the globals. -/
theorem Furnishes.grows {name : String} (f : Furnishes a name isObject b) (ready : a.Ready)
    (fresh : ∀ {t : TableId}, b.size ≤ t.index → b.table t = Table.empty) :
    a.Grows b name ⟨a.size + 1⟩ := by
  have inside (i : Nat) (small : i < 3) : a.size ≤ a.size + i ∧ a.size + i < b.size :=
    ⟨Nat.le_add_right .., f.size ▸ Nat.add_lt_add_left small a.size⟩
  refine ⟨f.ready ready fresh, f.size ▸ Nat.le_add_right .., f.globals_eq, f.kept, f.globals,
    inside 1 (by decide), f.locked, fun {other mt} known => ?_, fun new h => ?_⟩
  · rw [f.state] at known
    -- the one new name stands for the first of the new tables
    by_cases same : other = name
    · subst same
      rw [Keyed.get?_put_self] at known
      cases known
      exact .inr (inside 0 (by decide))
    · rw [Keyed.get?_put_ne same] at known
      exact .inl known
  · rw [f.refers new h]
    exact inside 2 (by decide)

/-- A library is opened only if its name is new. -/
theorem Opens.furnishes {α : Type} {act : α → ScriptM Unit} {nameOf : α → String}
    (opens : Opens act nameOf isObject) {x : α} (sealed_ : w.view.Sealed n)
    (ok : act x w = (.ok (), v)) :
    Keyed.get? (nameOf x) w.state.metatables = none ∧
      Furnishes w.view (nameOf x) isObject v.view := by
  cases known : Keyed.get? (nameOf x) w.state.metatables with
  | some mt =>
    exact absurd ok (opens.refuses sealed_.ready.framed known (sealed_.registered_locked known))
  | none =>
    obtain ⟨b, turns, furnishes⟩ := opens.opens sealed_.ready known
    obtain ⟨u, first, rfl⟩ := turns w rfl
    obtain rfl : u = v := (Prod.mk.inj (first.symm.trans ok)).2
    exact ⟨rfl, furnishes⟩

/-- A loop that opens libraries ends well only if their names are new. The induction is on the
libraries that are still to be opened. -/
theorem Opens.sealed {α : Type} {act : α → ScriptM Unit} {nameOf : α → String}
    (opens : Opens act nameOf isObject) {xs : List α} (sealed_ : w.view.Sealed n)
    (ok : xs.forM act w = (.ok (), v)) : v.view.Sealed n := by
  induction xs generalizing w with
  | nil =>
    cases ok
    exact sealed_
  | cons x rest ih =>
    obtain ⟨_, u, first, others⟩ := run_bind_eq_ok.mp ok
    obtain ⟨-, furnishes⟩ := opens.furnishes sealed_ first
    exact ih (sealed_.grows (furnishes.grows sealed_.ready World.table_empty)) others

/-- The enums can only be entered where nothing has their name. -/
theorem nil_of_enumTable {t : TableId} (sealed_ : w.view.Sealed n)
    (found : enumTable w = (.ok t, v)) : (w.table w.state.globals).field enumGlobal = .nil := by
  cases entry : (w.table w.state.globals).field enumGlobal with
  | nil => rfl
  | table lib =>
    have own : n ≤ w.state.globals.index :=
      Nat.le_of_eq (congrArg TableId.index sealed_.globals).symm
    obtain ⟨low, high⟩ := sealed_.refers own (.of_get entry)
    exact absurd found (enumTable_refused entry (sealed_.locked low high))
  | _ =>
    unfold enumTable at found
    rw [run_bind, run_get] at found
    dsimp only at found
    rw [entry] at found
    cases found

/-- The enums are new tables, of which the one that lists them all is the one among the globals. -/
theorem fillEnums_grows {c : Context} (sealed_ : w.view.Sealed n)
    (ok : fillEnums c w = (.ok (), v)) :
    w.view.Grows v.view enumGlobal ⟨w.tables.size⟩ ∧ v.state = w.state ∧
      v.registries = w.registries ∧
      ∀ name, ∀ e ∈ Keyed.last? name ((w.registry c.registry).enums.map fun e => (e.name, e)),
        ∃ t, w.tables.size ≤ t.index ∧ t.index < v.tables.size ∧
          Turns.Lists v.table ⟨w.tables.size⟩ name e t := by
  obtain ⟨t, u, found, -⟩ := run_bind_eq_ok.mp ok
  obtain ⟨b, turns, state, registries, more, kept, entered, locked, refers, lists⟩ :=
    turns_fillEnums sealed_.ready c (nil_of_enumTable sealed_ found)
  obtain ⟨u', filled, rfl⟩ := turns w rfl
  obtain rfl : u' = v := (Prod.mk.inj (filled.symm.trans ok)).2
  -- the globals have a table more, and are as free as before
  have ready : u'.view.Ready := by
    refine ⟨?_, ?_, ?_, fun outside => World.table_empty outside⟩
    · rw [state]
      exact sealed_.ready.framed
    · rw [state]
      exact Nat.lt_trans sealed_.ready.inside more
    · rw [state, entered]
      exact sealed_.ready.free
  refine ⟨⟨ready, Nat.le_of_lt more, congrArg State.globals state,
    fun old other => kept _ other old, entered, ⟨Nat.le_refl _, more⟩, locked _,
    fun known => .inl ?_, refers _ _⟩, state, registries, lists⟩
  rwa [state] at known

theorem fillEnums_sealed {c : Context} (sealed_ : w.view.Sealed n)
    (ok : fillEnums c w = (.ok (), v)) : v.view.Sealed n :=
  sealed_.grows (fillEnums_grows sealed_ ok).1

/-! ## The three groups -/

/-- A group opens only in a state that has been given a registry. -/
theorem context_of_ok {rest : Context → ScriptM Nat}
    (ok : (discard (ScriptM.context >>= rest) : ScriptM Unit) w = (.ok (), v)) :
    ∃ c, w.state.context = some c := by
  cases context : w.state.context with
  | none =>
    rw [discard_bind, run_bind, run_context, context] at ok
    cases ok
  | some c => exact ⟨c, rfl⟩

theorem openBuiltins_sealed (sealed_ : w.view.Sealed n) (ok : discard openBuiltins w = (.ok (), v)) :
    v.view.Sealed n := by
  obtain ⟨c, context⟩ := context_of_ok ok
  rw [run_openBuiltins context] at ok
  exact opens_builtin.sealed sealed_ ok

theorem openClasses_sealed (sealed_ : w.view.Sealed n) (ok : discard openClasses w = (.ok (), v)) :
    v.view.Sealed n := by
  obtain ⟨c, context⟩ := context_of_ok ok
  rw [run_openClasses context] at ok
  exact opens_class.sealed sealed_ ok

theorem openEnums_sealed (sealed_ : w.view.Sealed n) (ok : discard openEnums w = (.ok (), v)) :
    v.view.Sealed n := by
  obtain ⟨c, context⟩ := context_of_ok ok
  rw [run_openEnums context] at ok
  exact fillEnums_sealed sealed_ ok

/-- A group is opened, or left out. -/
theorem group_sealed {open_ : Bool} {act : ScriptM Unit} (sealed_ : w.view.Sealed n)
    (opens : ∀ {v}, act w = (.ok (), v) → v.view.Sealed n)
    (ok : (if open_ then act else pure ()) w = (.ok (), v)) : v.view.Sealed n := by
  cases open_ with
  | true => exact opens ok
  | false =>
    cases ok
    exact sealed_

theorem openLibraries_eq (setup : Setup) :
    openLibraries setup =
      (if setup.builtins then discard openBuiltins else pure ()) >>= fun _ =>
        (if setup.classes then discard openClasses else pure ()) >>= fun _ =>
          if setup.enums then discard openEnums else pure () := by
  unfold openLibraries
  cases setup.builtins <;> cases setup.classes <;> cases setup.enums <;> rfl

theorem openLibraries_sealed {setup : Setup} (sealed_ : w.view.Sealed n)
    (ok : openLibraries setup w = (.ok (), v)) : v.view.Sealed n := by
  rw [openLibraries_eq] at ok
  obtain ⟨_, w₁, first, ok⟩ := run_bind_eq_ok.mp ok
  obtain ⟨_, w₂, second, third⟩ := run_bind_eq_ok.mp ok
  have sealed₁ := group_sealed sealed_ (fun ok => openBuiltins_sealed sealed_ ok) first
  have sealed₂ := group_sealed sealed₁ (fun ok => openClasses_sealed sealed₁ ok) second
  exact group_sealed sealed₂ (fun ok => openEnums_sealed sealed₂ ok) third

end ScriptM

/-! ## What a state leads to -/

namespace World

/-- The tables that scripts find in the current state: what the globals have, which are the libraries
and the table of enums, the registered metatables, and whatever these have as entries and as
metatables in turn. -/
inductive Reaches (w : World) : TableId → Prop
  | global {t : TableId} (h : (w.table w.state.globals).Refers t) : w.Reaches t
  | registered {name : String} {mt : TableId} (h : w.metatableNamed name = some mt) : w.Reaches mt
  | onward {t u : TableId} (h : w.Reaches t) (refers : (w.table t).Refers u) : w.Reaches u

theorem Reaches.own {w : World} {n : Nat} {t : TableId} (h : w.Reaches t)
    (sealed_ : w.view.Sealed n) : n < t.index ∧ t.index < w.tables.size := by
  induction h with
  | global h =>
    exact sealed_.refers (Nat.le_of_eq (congrArg TableId.index sealed_.globals).symm) h
  | registered h => exact sealed_.registered h
  | onward _ refers ih => exact sealed_.refers (Nat.le_of_lt ih.1) refers

theorem Reaches.locked {w : World} {n : Nat} {t : TableId} (h : w.Reaches t)
    (sealed_ : w.view.Sealed n) : (w.table t).readonly = true :=
  sealed_.locked (h.own sealed_).1 (h.own sealed_).2

/-- A new state has nothing yet. -/
theorem sealed_new (w : World) (context : Option Context) :
    { w.withNewState with state := { w.withNewState.state with context } }.view.Sealed
      w.tables.size := by
  have size : (w.tables.push Table.empty).size = w.tables.size + 1 := Array.size_push ..
  refine ⟨(w.furnishing_new context).ready, rfl, fun {t} own made => ?_, fun known => ?_,
    fun {t u} own h => ?_⟩
  · have made : t.index < (w.tables.push Table.empty).size := made
    omega
  · cases known
  · have same : { w with tables := w.tables.push Table.empty }.table t = w.table t :=
      congrFun w.table_push_empty t
    have empty := same.trans (table_empty own)
    exact absurd (show Table.empty.Refers u from empty ▸ h) (Table.not_refers_empty u)

/-- A state with any groups of libraries is sealed once it is built. -/
theorem withRuntime_sealed {w v : World} {setup : Setup} {host registry : Nat}
    (ready : w.withRuntime setup host registry = .ok v) : v.view.Sealed w.tables.size :=
  openLibraries_sealed (w.sealed_new (some ⟨host, registry⟩)) (withRuntime_eq_ok.mp ready)

end World

/-! ## Runs -/

namespace Session

/-- A setup that succeeds builds a state that is sealed. -/
theorem sealed_of_setUp {s : Session} {setup : Setup} {reply : Reply}
    (ok : (s.setUp setup).1 = .ok reply) : ∃ n, (s.setUp setup).2.world.view.Sealed n := by
  obtain ⟨_, ended⟩ | ⟨_, ended⟩ | ⟨_, _, _, _, _, -, ready, ended⟩ := s.setUp_cases setup
  · rw [ended] at ok
    cases ok
  · rw [ended] at ok
    cases ok
  · rw [ended]
    exact ⟨_, World.withRuntime_sealed ready⟩

/-- Locked tables stay as they are, with their entries, their metatable and their lock. No operation
changes one, whatever the functions do that it calls, as long as these change none and the operation
does not take this very lock away; no activity and no run does at any moment as long as no
instruction in it takes the lock away. What a new state with bindings has at hand is locked, and so
stays. -/
theorem locked_tables_stay :
    (∀ (run : Runner) (i : Instr) (w : World) (t : TableId), ¬ i.Unlocks w t →
      Trusts (Spares t) (fun run => ScriptM.perform run i) run w →
        Spares t w (ScriptM.perform run i w).2) ∧
    (∀ (n : Nat) (a : Activity) (w v : World) (t : TableId),
      Allows (fun i x => ¬ i.Unlocks x t) n a w → Passes n a w v → Spares t w v) ∧
    (∀ (before later : List Event) (v : World) (t : TableId),
      Seals before later t → Since before later v → Spares t (after before).world v) ∧
    ∀ (before : List Event) (setup : Setup) (reply : Reply),
      ((after before).perform (.newRuntime setup)).1 = .ok reply →
        let built := before ++ [.command (.newRuntime setup)]
        ∀ t, (after built).world.Reaches t → ((after built).world.table t).readonly = true ∧
          ∀ later, Seals built later t → ∀ v, Since built later v →
            v.table t = (after built).world.table t := by
  refine ⟨fun run i w t other trusts => (bounds_spares t).after other trusts,
    fun n a w v t allows passes => (bounds_spares t).passes passes allows,
    fun before later v t seals since => spares_since seals since,
    ?_⟩
  intro before setup reply ok built t reaches
  obtain ⟨n, sealed_⟩ := sealed_of_setUp ok
  -- after the setup only the log has been given out
  have world : (after built).world =
      { ((after before).setUp setup).2.world with trace := #[] }.reportAll := by
    rw [show built = before ++ [.command (.newRuntime setup)] from rfl, after_append]
    rfl
  have sealed_ : (after built).world.view.Sealed n := by
    rw [world]
    exact sealed_
  have locked := reaches.locked sealed_
  exact ⟨locked, fun later seals v since => spares_since seals since locked⟩

/-- A setup that opens the library of one builtin type, and one enum. -/
def smallSetup : Setup where
  api := some (.document ("\x7b\"header\":\x7b\x7d,\"builtin_classes\":[" ++
    "\x7b\"name\":\"Vector2i\"\x7d],\"global_enums\":[" ++
    "\x7b\"name\":\"Axis\",\"values\":[]\x7d]\x7d"))
  shared := false
  host := some (.fresh .plain)
  builtins := true
  classes := true
  enums := true

/-- The library of the type is locked, and stays as it is. -/
theorem locked_tables_stay_library :
    let built := [.command (.newRuntime smallSetup)]
    let w := (after built).world
    ∃ lib, (w.table w.state.globals).field "Vector2i" = .table lib ∧
      (w.table lib).readonly = true ∧
        ∀ later, Seals built later lib → ∀ v, Since built later v → v.table lib = w.table lib := by
  have facts :
      let w := (after [.command (.newRuntime smallSetup)]).world
      ((after []).perform (.newRuntime smallSetup)).1.isOk = true ∧
        ((w.table w.state.globals).field "Vector2i").asTable.isSome = true := by
    decide +kernel
  obtain ⟨ok, library⟩ := facts
  obtain ⟨-, -, -, stays⟩ := locked_tables_stay
  have stays := stays [] smallSetup
  dsimp only [List.nil_append] at stays ⊢
  -- from here on it does not matter what the world is like
  generalize ((after []).perform (.newRuntime smallSetup)).1 = ended at ok stays
  generalize (after [.command (.newRuntime smallSetup)]).world = w at library stays ⊢
  cases ended with
  | error e => cases ok
  | ok reply =>
    cases entry : (w.table w.state.globals).field "Vector2i" with
    | table lib =>
      obtain ⟨locked, onward⟩ := stays reply rfl lib (.global (.of_get entry))
      exact ⟨lib, rfl, locked, onward⟩
    | _ =>
      rw [entry] at library
      cases library

end Session

end ScriptBind
