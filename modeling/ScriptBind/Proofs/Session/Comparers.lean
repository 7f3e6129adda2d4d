import ScriptBind.Proofs.Session.Brackets
import ScriptBind.Proofs.Session.ClassLibraries
import ScriptBind.Proofs.Session.Preserved
import ScriptBind.Proofs.Session.Upkeep

/-!
# Metatables that compare

To open the library of a builtin type or of a class is to enter a function for comparisons into its
metatable, and to lock that. The constants of a class are entered into the library above it, so no
constant takes the place of the function, whatever its name is.

Main results:

* `World.withRuntime_compares` — the metatables of a state with bindings.
* `World.Compares.later` — they compare for good.
-/

namespace ScriptBind

open ScriptM

namespace World

/-- The metatable is locked, it has the mark of objects or not, and it compares by a handler. -/
structure ComparesBy (w : World) (mt : TableId) (h : Handler) (isObject : Bool) : Prop where
  locked : (w.table mt).readonly = true
  marked : w.isObjectMetatable mt = isObject
  bears : w.Bears mt "__eq" h

/-- The metatable of a name compares by a handler. -/
def Compares (w : World) (name : String) (h : Handler) (isObject : Bool) : Prop :=
  ∃ mt, w.metatableNamed name = some mt ∧ w.ComparesBy mt h isObject

variable {w v : World} {name : String} {h : Handler} {isObject : Bool}

theorem Compares.of_spared (compares : w.Compares name h isObject)
    (named : ∀ mt, w.metatableNamed name = some mt → v.metatableNamed name = some mt)
    (handlers : ∀ f k, w.handler? f = some k → v.handler? f = some k)
    (spared : ∀ t, Spares t w v) : v.Compares name h isObject := by
  obtain ⟨mt, known, locked, marked, f, entry, runs⟩ := compares
  have same := spared mt locked
  rw [isObjectMetatable, ← same] at marked
  exact ⟨mt, named mt known, same ▸ locked, marked, f, same ▸ entry, handlers f h runs⟩

theorem Compares.later (compares : w.Compares name h isObject) (upholds : w.Upholds v) :
    v.Compares name h isObject :=
  compares.of_spared (fun _ => upholds.named) (fun _ _ => upholds.handler) upholds.spared

theorem Preserves.compares (preserves : w.Preserves v) (compares : w.Compares name h isObject) :
    v.Compares name h isObject :=
  compares.of_spared (fun _ => preserves.evolves.metatable_kept) preserves.functions
    preserves.spared

end World

namespace ScriptM

variable {n : Nat} {w v : World} {below : List Value} {mt lib : TableId}

/-! ## Entries above a metatable -/

/-- An integer is entered into the library on top, and into no other table. -/
theorem installInteger_other {k : String × Int64} (low : w.state.base ≤ below.length)
    (stack : w.state.stack = below ++ [.table mt, .table lib])
    (ok : installInteger (-2) k w = (.ok (), v)) {t : TableId} (other : t ≠ lib) :
    v.state = w.state ∧ v.functions = w.functions ∧ v.table t = w.table t := by
  have framed : w.state.Framed := by
    show w.state.base ≤ w.state.stack.length
    rw [stack, List.length_append]
    omega
  let x : Value := .number (Number.ofInt64 k.2)
  have above : (w.state.push x).stack = below ++ [.table mt] ++ .table lib :: [x] := by
    simp [State.push, stack]
  have found : (w.state.push x).checkTable (-2) = .ok lib :=
    State.checkTable_below above (by
      rw [List.length_append]
      exact Nat.le_add_right_of_le low) rfl
  -- the number is pushed and taken again, which leaves the entry as the only change
  have entered : setText lib k.1 x w = (.ok (), v) := by
    rw [← ok]
    exact (run_setField (w := { w with state := w.state.push x }) framed rfl found).symm
  rw [run_setText] at entered
  split at entered
  · cases entered
  · cases entered
    refine ⟨rfl, rfl, (w.table_modify t lib _).trans (if_neg fun here => ?_)⟩
    exact other (congrArg TableId.mk here.1.symm)

/-- So it is with integers one after the other. -/
theorem forM_installInteger_other {ks : List (String × Int64)}
    (low : w.state.base ≤ below.length)
    (stack : w.state.stack = below ++ [.table mt, .table lib])
    (ok : ks.forM (installInteger (-2)) w = (.ok (), v)) {t : TableId} (other : t ≠ lib) :
    v.functions = w.functions ∧ v.table t = w.table t := by
  induction ks generalizing w with
  | nil =>
    cases ok
    exact ⟨rfl, rfl⟩
  | cons k rest ih =>
    obtain ⟨_, u, first, others⟩ := run_bind_eq_ok.mp ok
    obtain ⟨state, functions, table⟩ := installInteger_other low stack first other
    obtain ⟨functions', table'⟩ := ih (state ▸ low) (state ▸ stack) others
    exact ⟨functions'.trans functions, table'.trans table⟩

/-- A handler in the metatable stays there. -/
theorem installed_forM_installInteger {ks : List (String × Int64)} {field : String} {h : Handler}
    (low : w.state.base ≤ below.length)
    (stack : w.state.stack = below ++ [.table mt, .table lib]) (apart : mt ≠ lib)
    (bears : w.Bears mt field h) (ok : ks.forM (installInteger (-2)) w = (.ok (), v)) :
    v.Bears mt field h := by
  obtain ⟨functions, table⟩ := forM_installInteger_other low stack ok apart
  obtain ⟨f, entry, known⟩ := bears
  refine ⟨f, table ▸ entry, ?_⟩
  rw [World.handler?, functions]
  exact known

/-! ## What opening enters -/

/-- A new library lies on top of its metatable. -/
theorem newLibrary_new {name : String} (ready : w.view.Ready)
    (new : Keyed.get? name w.state.metatables = none)
    (made : newLibrary name name w = (.ok (), v)) :
    v.state.base ≤ w.state.stack.length ∧
      v.state.stack = w.state.stack ++ [.table ⟨w.tables.size⟩, .table ⟨w.tables.size + 1⟩] ∧
      w.tables.size < v.tables.size := by
  obtain ⟨b, turns, making, -⟩ := stocking_newLibrary ready new
  obtain ⟨u, made', rfl⟩ := turns w rfl
  cases made.symm.trans made'
  have state : v.state = _ := making.state
  refine ⟨?_, ?_, ?_⟩
  · rw [state]
    exact ready.framed
  · rw [state]
    simp [State.push, World.view]
  · have size : v.tables.size = w.tables.size + 3 := making.size
    omega

section Opening

/-- Tables stay while a handler is entered. -/
theorem size_installHandler {index : Int} {field name : String} {h : Handler}
    {upvalues : List Value} (ok : installHandler index field name h upvalues w = (.ok (), v)) :
    w.tables.size ≤ v.tables.size :=
  ((Evolving.installHandler index field name h upvalues).ran ok).size_tables

/-- A metatable that is furnished with the function compares by it. -/
theorem Furnishes.compares {name : String} {h : Handler} {isObject : Bool}
    (furnishes : Furnishes w.view name isObject v.view) (bears : v.Bears ⟨w.tables.size⟩ "__eq" h) :
    v.Compares name h isObject := by
  obtain ⟨mt, -, named, locked, marked, -⟩ := furnishes.furnished
  have here : v.metatableNamed name = some ⟨w.tables.size⟩ := by
    show Keyed.get? name v.view.state.metatables = _
    rw [furnishes.state]
    exact Keyed.get?_put_self ..
  -- the name leads to the table that was made first, which is the one with the function
  obtain rfl := Option.some.inj (here.symm.trans named)
  exact ⟨_, here, locked, marked, bears⟩

variable (sealed_ : w.view.Sealed n)
include sealed_

/-- The library of a builtin type. -/
theorem compares_openBuiltin {b : Registry.Builtin} (ok : openBuiltin b w = (.ok (), v)) :
    v.Compares b.name .builtinEqual false := by
  obtain ⟨new, furnishes⟩ := opens_builtin.furnishes sealed_ ok
  refine furnishes.compares ?_
  obtain ⟨_, u₀, created, ok⟩ := run_bind_eq_ok.mp ok
  obtain ⟨low, stack, made⟩ := newLibrary_new sealed_.ready new created
  obtain ⟨_, u₁, namecall, ok⟩ := run_bind_eq_ok.mp ok
  obtain ⟨_, u₂, index, ok⟩ := run_bind_eq_ok.mp ok
  obtain ⟨_, u₃, text, ok⟩ := run_bind_eq_ok.mp ok
  obtain ⟨_, u₄, equality, ok⟩ := run_bind_eq_ok.mp ok
  obtain ⟨_, u₅, constructor, finished⟩ := run_bind_eq_ok.mp ok
  have state : u₃.state = u₀.state := by
    rw [state_of_installHandler text, state_of_installHandler index,
      state_of_installHandler namecall]
  have made₃ : w.tables.size < u₃.tables.size :=
    calc w.tables.size < u₀.tables.size := made
      _ ≤ u₁.tables.size := size_installHandler namecall
      _ ≤ u₂.tables.size := size_installHandler index
      _ ≤ u₃.tables.size := size_installHandler text
  -- entered into the fourth world; the constructor has another name
  have at₄ : World.Installed ⟨w.tables.size⟩ "__eq" .builtinEqual false u₄ :=
    ⟨bears_installHandler (state ▸ low) (state ▸ stack) made₃ equality, nofun⟩
  have at₅ := (Keeps.installHandler (-2) "new" (.inr (by decide)) _ _ _).after constructor at₄
  exact ((Keeps.finishLibrary false (.inr (by decide)) (.inr (by decide))).after finished at₅).bears

/-- The library of a class, whatever its constants are called. -/
theorem compares_openClass {k : Registry.Class} (ok : openClass k w = (.ok (), v)) :
    v.Compares k.name .objectEqual true := by
  obtain ⟨new, furnishes⟩ := opens_class.furnishes sealed_ ok
  refine furnishes.compares ?_
  rw [openClass_eq] at ok
  obtain ⟨_, u₀, created, ok⟩ := run_bind_eq_ok.mp ok
  obtain ⟨low, stack, made⟩ := newLibrary_new sealed_.ready new created
  obtain ⟨_, u₁, namecall, ok⟩ := run_bind_eq_ok.mp ok
  obtain ⟨_, u₂, text, ok⟩ := run_bind_eq_ok.mp ok
  obtain ⟨_, u₃, equality, ok⟩ := run_bind_eq_ok.mp ok
  obtain ⟨_, _, _, u₄, -, constructor, ok⟩ := installConstructor_ok ok
  obtain ⟨_, u₅, entered, finished⟩ := run_bind_eq_ok.mp ok
  have state₂ : u₂.state = u₀.state := by
    rw [state_of_installHandler text, state_of_installHandler namecall]
  have state₄ : u₄.state = u₀.state := by
    rw [state_of_installHandler constructor, state_of_installHandler equality, state₂]
  have made₂ : w.tables.size < u₂.tables.size :=
    calc w.tables.size < u₀.tables.size := made
      _ ≤ u₁.tables.size := size_installHandler namecall
      _ ≤ u₂.tables.size := size_installHandler text
  have at₃ : World.Installed ⟨w.tables.size⟩ "__eq" .objectEqual false u₃ :=
    ⟨bears_installHandler (state₂ ▸ low) (state₂ ▸ stack) made₂ equality, nofun⟩
  have at₄ := (Keeps.installHandler (-2) "new" (.inr (by decide)) _ _ _).after constructor at₃
  -- a constant may have any name, but goes into the library
  have at₅ : World.Installed ⟨w.tables.size⟩ "__eq" .objectEqual false u₅ :=
    ⟨installed_forM_installInteger (state₄ ▸ low) (state₄ ▸ stack) (by simp) at₄.bears entered,
      nofun⟩
  exact ((Keeps.finishLibrary true (.inr (by decide)) (.inr (by decide))).after finished at₅).bears

end Opening

end ScriptM

/-- In a state with bindings the metatables of the builtin types and of the classes compare. -/
theorem World.withRuntime_compares {w v : World} {setup : Setup} {host i : Nat}
    (ready : w.withRuntime setup host i = .ok v) :
    (setup.builtins = true →
      ∀ b ∈ libraryTypes (w.registry i), v.Compares b.name .builtinEqual false) ∧
    (setup.classes = true → ∀ k ∈ (w.registry i).classes, v.Compares k.name .objectEqual true) := by
  have sealed_ := w.sealed_withContext host i
  obtain ⟨opened, -⟩ := withRuntime_preserves ready
  obtain ⟨w₁, w₂, builtins, classes, -, sealed₁, -, first, second, last⟩ :=
    openLibraries_groups sealed_ rfl opened
  constructor
  -- what a library has when it is opened it keeps while the later ones are
  · intro asked b mem
    rw [if_pos asked, run_openBuiltins rfl] at builtins
    obtain ⟨u, u', -, sealed', opens, after⟩ :=
      (opens_builtin.preserves_forM Evolving.openBuiltin sealed_ builtins).2 b mem
    exact (after.trans (second.trans last)).compares (compares_openBuiltin sealed' opens)
  · intro asked k mem
    have context : w₁.state.context = some ⟨host, i⟩ := first.context
    have registry : w₁.registry i = w.registry i := first.registry i
    rw [if_pos asked, run_openClasses context, registry] at classes
    obtain ⟨u, u', -, sealed', opens, after⟩ :=
      (opens_class.preserves_forM Evolving.openClass sealed₁ classes).2 k mem
    exact (after.trans last).compares (compares_openClass sealed' opens)

end ScriptBind
