import ScriptBind.Proofs.Session.Declared
import ScriptBind.Proofs.Session.EnumTables
import ScriptBind.Proofs.Session.Hosts

/-!
# Names read from libraries

A script that reads a name from a library gets the entry of the library, if there is one. Otherwise
the function that the metatable of the library has looks the name up in the binding of the type. A
class has no such binding, unless a builtin type has its name.

Main results:

* `World.Answers` — that the outcome of a reading is what is served.
* `answers_entry`, `answers_binding`, `answers_nothing` — the three ways in which a reading ends.
* `groups_withRuntime` — a state with bindings has opened all groups.
* `library_lookups` — what scripts read when all groups have been opened.
-/

namespace ScriptBind

open ScriptM

namespace World

/-- The outcome of a reading is what the library serves. A constant is read through its accessor, in
the frame of the function that looks names up. -/
def Answers (w : World) (lib : TableId) (type key : String)
    (read : Except ScriptError Value × World) : Found → Prop
  | .held h => ∃ v, h.Is w.functions v ∧ read = (.ok v, w)
  | .constant c => ∃ f, w.functions[f.index]? = some lookUpFunction ∧
    read = firstResult (fun _ => pushConstant c) f [.table lib, .string key] w
  | .made g =>
    read = (.ok (.function ⟨w.functions.size⟩), { w with functions := w.functions.push g })
  | .nothing => read = (.error (invalidMember key type), w)

end World

namespace ScriptM

/-! ## One function call -/

section Results

variable {run run' : Runner} {w : World} {f : FunctionId} {args : List Value}

/-- Only what is run in the frame of the call matters. -/
theorem firstResult_congr (ran : run f (w.callFrame f args) = run' f (w.callFrame f args)) :
    firstResult run f args w = firstResult run' f args w := by
  unfold firstResult
  rw [ran]

/-- Nothing is left of a call that fails at once. -/
theorem firstResult_fails {e : ScriptError} (room : w.state.frames.length < maxCallDepth)
    (ran : run f (w.callFrame f args) = (.error e, w.callFrame f args)) :
    firstResult run f args w = (.error e, w) := by
  have below : (w.callFrame f args).state.stack.take w.state.stack.length = w.state.stack :=
    List.take_left
  rw [firstResult, if_neg (Nat.not_le_of_lt room), ran]
  dsimp only
  rw [World.left, below, List.append_nil]
  rfl

/-- Of a call that makes a function and pushes it the function is left. -/
theorem firstResult_makes {n : Nat} {g : Function} (framed : w.state.Framed)
    (room : w.state.frames.length < maxCallDepth)
    (ran : runAt n f (w.callFrame f args) =
      (.ok 1, { w.callFrame f args with
        functions := w.functions.push g
        state := (w.callFrame f args).state.push (.function ⟨w.functions.size⟩) })) :
    firstResult (runAt n) f args w =
      (.ok (.function ⟨w.functions.size⟩), { w with functions := w.functions.push g }) := by
  have framed' : { w with functions := w.functions.push g }.state.Framed := framed
  rw [← run_firstResult n framed, run_bind, run_call_withCall _ _ framed,
    run_invoke_pushes room ran]
  exact run_popValue_top framed' _

end Results

/-! ## Reading a library -/

section Library

variable {w : World} {lib libMt : TableId} {type : String} {entries : String → Option Held}
  {c : Context} (library : w.view.Library lib libMt type entries) (framed : w.state.Framed)
  {key : String}
include library framed

/-- An entry is read as it is. -/
theorem answers_entry (n : Nat) {h : Held} (entry : entries key = some h) :
    w.Answers lib type key (indexValue (runAt n) (.table lib) (.string key) w) (.held h) := by
  have held := library.serves.entry key
  rw [entry] at held
  -- neither integers nor functions are nil, so the reading stops here
  have something : w.rawGet lib (.string key) ≠ .nil := by
    intro nil
    have nil : (w.view.table lib).field key = .nil := nil
    rw [nil] at held
    cases h with
    | integer n => cases held
    | function g =>
      obtain ⟨f, isFunction, -⟩ := held
      cases isFunction
  exact ⟨_, held, indexChain_stop n framed (k := .string key) rfl (.entry something) 99⟩

variable (absent : entries key = none) (context : w.state.context = some c)
include absent context

/-- Where there is no entry, the name is looked up in the frame of a call. -/
theorem reading_looks_up (n : Nat) :
    ∃ f : FunctionId, w.functions[f.index]? = some lookUpFunction ∧
      indexValue (runAt (n + 1)) (.table lib) (.string key) w =
        firstResult (runAt (n + 1)) f [.table lib, .string key] w ∧
      runAt (n + 1) f (w.callFrame f [.table lib, .string key]) =
        match (w.registry c.registry).builtin? type with
        | some b => pushLibraryEntry c b type key (w.callFrame f [.table lib, .string key])
        | none => (.error (invalidMember key type), w.callFrame f [.table lib, .string key]) := by
  have nil : Held.Entry _ _ (entries key) := library.serves.entry key
  rw [absent] at nil
  have lacks : w.Lacks (.string key) (.table lib) := fun u same => by
    cases same
    exact nil
  -- the metatable of the library has a function to go on with
  obtain ⟨f, index, known⟩ := library.serves.lookup
  have tag : (w.table lib).metatable = some libMt := library.serves.tag
  have next : w.metafield (.table lib) "__index" = some (.function f) := by
    have index : (w.table libMt).field "__index" = .function f := index
    rw [World.metafield, World.metatable, tag]
    dsimp only
    rw [index]
  have handler : (w.callFrame f [.table lib, .string key]).handler? f = some .builtinGlobalIndex :=
    World.handler?_eq_some.mpr ⟨_, known, rfl⟩
  exact ⟨f, known, indexChain_stop (n + 1) framed (k := .string key) rfl (.handler lacks next) 99,
    (runAt_handler handler).trans (run_lookUpName tag library.serves.label context)⟩

variable (room : w.state.frames.length < maxCallDepth)
include room

/-- What the binding of the type has under the name is found. The cases are those of the binding. -/
theorem answers_binding (n : Nat) {b : Registry.Builtin}
    (binding : (w.registry c.registry).builtin? type = some b) :
    w.Answers lib type key (indexValue (runAt (n + 1)) (.table lib) (.string key) w)
      (b.lookedUp c.registry key) := by
  obtain ⟨f, known, read, ran⟩ := reading_looks_up library framed absent context n
  rw [binding] at ran
  dsimp only at ran
  rw [pushLibraryEntry] at ran
  unfold Registry.Builtin.lookedUp
  rw [read]
  -- a constant is pushed by its accessor, and an integer or a function as it is
  cases constant : Constant.declared? c.registry b key with
  | some k =>
    rw [constant] at ran
    let pushes : Runner := fun _ => pushConstant k
    have same : runAt (n + 1) f (w.callFrame f [.table lib, .string key]) =
        pushes f (w.callFrame f [.table lib, .string key]) := ran
    exact ⟨f, known, firstResult_congr same⟩
  | none =>
    rw [constant] at ran
    dsimp only at ran ⊢
    cases value : b.enumValue? key with
    | some m =>
      rw [value] at ran
      exact ⟨_, rfl, firstResult_pushes room ran⟩
    | none =>
      rw [value] at ran
      dsimp only at ran ⊢
      cases method : staticMethod? b key with
      | some m =>
        rw [method] at ran
        exact firstResult_makes framed room ran
      | none =>
        rw [method] at ran
        exact firstResult_fails room ran

/-- Nothing is found where no builtin type has the name of the library. -/
theorem answers_nothing (n : Nat) (unbound : (w.registry c.registry).builtin? type = none) :
    w.Answers lib type key (indexValue (runAt (n + 1)) (.table lib) (.string key) w) .nothing := by
  obtain ⟨f, -, read, ran⟩ := reading_looks_up library framed absent context n
  rw [unbound] at ran
  exact read.trans (firstResult_fails room ran)

end Library

/-! ## The groups -/

/-- A group of libraries of a registry was opened in `w`, which led to `v`. What has been opened then
is still there in `z`. -/
structure GroupOpen (group : ScriptM Nat) (r : Registry) (w v z : World) : Prop where
  orderly : w.Orderly
  opened : ∃ c count, w.state.context = some c ∧ w.registries[c.registry]? = some r ∧
    group w = (.ok count, v) ∧ v.Retains z c.registry

namespace GroupOpen

variable {group : ScriptM Nat} {r : Registry} {w v z : World} {c : Context}

/-- The state still works with the registry. -/
theorem registry (open_ : GroupOpen group r w v z) (evolving : Evolving group)
    (context : z.state.context = some c) : z.registry c.registry = r := by
  obtain ⟨c₀, count, -, known, ran, retained⟩ := open_.opened
  obtain ⟨c', context', same⟩ := retained.context
  cases context.symm.trans context'
  exact same.trans (World.registry_eq ((evolving.ran ran).registry_known known))

/-- The libraries are still there. -/
theorem library (open_ : GroupOpen group r w v z) {lib libMt : TableId} {type : String}
    {entries : String → Option Held} (library : v.view.Library lib libMt type entries) :
    z.view.Library lib libMt type entries := by
  obtain ⟨_, _, -, -, -, retained⟩ := open_.opened
  exact library.later (fun _ _ known => retained.later.function_known known) retained.spared

theorem framed (open_ : GroupOpen group r w v z) : z.state.Framed := by
  obtain ⟨_, _, -, -, -, retained⟩ := open_.opened
  exact retained.framed

theorem room (open_ : GroupOpen group r w v z) : z.state.frames.length < maxCallDepth := by
  obtain ⟨_, _, -, -, -, retained⟩ := open_.opened
  exact retained.room

end GroupOpen

theorem discard_eq_ok {α : Type} {act : ScriptM α} {w v : World} :
    (discard act : ScriptM Unit) w = (.ok (), v) ↔ ∃ x, act w = (.ok x, v) := by
  rw [run_discard]
  rcases act w with ⟨e | x, u⟩
  · exact ⟨nofun, nofun⟩
  · exact ⟨fun ok => ⟨x, by cases ok; rfl⟩, fun ⟨_, ok⟩ => by cases ok; rfl⟩

/-- What has been opened is still there if all that was opened afterwards has preserved it. -/
theorem preserves_retains {w v : World} {c : Context} (preserves : w.Preserves v)
    (framed : w.state.Framed) (room : w.state.frames.length < maxCallDepth)
    (context : w.state.context = some c) : w.Retains v c.registry where
  later := .evolves preserves.evolves
  spared := preserves.spared
  framed := preserves.evolves.framed framed
  room := preserves.evolves.frames_eq ▸ room
  context := ⟨c, preserves.context.trans context, preserves.registry c.registry⟩

/-- A new state is in order. -/
theorem orderly_withContext (w : World) (host i : Nat) : (w.withContext host i).Orderly where
  framed := Nat.le_refl 0
  housed := .new ⟨w.tables.size⟩
  rooted := .new (by simp [World.withContext, World.withNewState, State.new])

/-- The tables that a sealed state refers to come after that of its globals. -/
theorem enumsAside_of_sealed {n : Nat} {w : World} (sealed_ : w.view.Sealed n) : w.EnumsAside := by
  intro t found
  have globals : w.state.globals.index = n := congrArg TableId.index sealed_.globals
  obtain ⟨own, made⟩ := sealed_.refers (Nat.le_of_eq globals.symm) (.of_get found)
  refine ⟨made, ?_⟩
  rintro rfl
  omega

/-- A state with bindings has opened the groups one after the other, and there was no table of enums
before but one of its own. -/
theorem groups_withRuntime {w z : World} {setup : Setup} {host i : Nat} {r : Registry}
    (known : w.registries[i]? = some r) (builtins : setup.builtins = true)
    (classes : setup.classes = true) (enums : setup.enums = true)
    (ready : w.withRuntime setup host i = .ok z) :
    ∃ v₁ v₂, GroupOpen openBuiltins r (w.withContext host i) v₁ z ∧
      GroupOpen openClasses r v₁ v₂ z ∧ GroupOpen openEnums r v₂ z z ∧ v₂.EnumsAside := by
  have orderly := orderly_withContext w host i
  obtain ⟨opened, -⟩ := World.withRuntime_preserves ready
  obtain ⟨v₁, v₂, first, second, third, -, sealed_, step₁, step₂, step₃⟩ :=
    openLibraries_groups (w.sealed_withContext host i) rfl opened
  rw [builtins, if_pos rfl] at first
  rw [classes, if_pos rfl] at second
  rw [enums, if_pos rfl] at third
  -- each of the worlds works with the registry and can go on
  have room {x : World} (preserves : (w.withContext host i).Preserves x) :
      x.state.frames.length < maxCallDepth := by
    rw [preserves.evolves.frames_eq]
    exact Nat.zero_lt_succ _
  have orderly₁ := step₁.evolves.orderly orderly
  have orderly₂ := step₂.evolves.orderly orderly₁
  have until₂ := step₁.trans step₂
  have all := until₂.trans step₃
  have registry {x : World} (preserves : (w.withContext host i).Preserves x) :
      x.registries[i]? = some r := by
    rw [preserves.registries]
    exact known
  obtain ⟨n₁, first⟩ := discard_eq_ok.mp first
  obtain ⟨n₂, second⟩ := discard_eq_ok.mp second
  obtain ⟨n₃, third⟩ := discard_eq_ok.mp third
  -- what one group has opened the next ones leave alone
  refine ⟨v₁, v₂, ⟨orderly, ⟨host, i⟩, n₁, rfl, known, first, ?_⟩,
    ⟨orderly₁, ⟨host, i⟩, n₂, step₁.context, registry step₁, second, ?_⟩,
    ⟨orderly₂, ⟨host, i⟩, n₃, until₂.context, registry until₂, third, ?_⟩,
    enumsAside_of_sealed sealed_⟩
  · exact preserves_retains (step₂.trans step₃) orderly₁.framed (room step₁) step₁.context
  · exact preserves_retains step₃ orderly₂.framed (room until₂) until₂.context
  · exact preserves_retains (.refl z) (step₃.evolves.orderly orderly₂).framed (room all)
      all.context

section Parts

variable {d : Api.Document} {r : Registry} (built : Registry.ofApi d = .ok r) {w v z : World}
  {c : Context} (context : z.state.context = some c) (n : Nat)
include built context

/-- What is read from the library of a builtin type. -/
theorem builtin_lookup (open_ : GroupOpen openBuiltins r w v z) {a : Api.BuiltinType} {t : Tag}
    (mem : a ∈ d.builtins) (tag : a.tag = .ok t) (foreign : t.isScriptNative = false) :
    ∃ lib, (v.table v.state.globals).field a.name = .table lib ∧
      ∀ key, HashesApart (key :: a.looked) →
        z.Answers lib a.name key (indexValue (runAt (n + 1)) (.table lib) (.string key) z)
          (a.served c.registry t key) := by
  have registry := open_.registry Evolving.openBuiltins context
  obtain ⟨c₀, count, context₀, known, ran, -⟩ := open_.opened
  obtain ⟨b, hb, made⟩ := Registry.exists_builtin built mem
  obtain ⟨name, tag'⟩ := Registry.Builtin.of_ofApi made
  obtain rfl : b.tag = t := Except.ok.inj (tag'.symm.trans tag)
  have binding : (z.registry c.registry).builtin? a.name = some b := by
    rw [registry, ← name, ← ((Registry.named_builtins built).1 b hb).tag]
    exact Registry.builtin?_tag built hb
  have registered : w.registry c₀.registry = r := World.registry_eq known
  have listed : b ∈ libraryTypes (w.registry c₀.registry) := by
    rw [registered]
    exact List.mem_filter.mpr ⟨hb, by rw [foreign]; rfl⟩
  obtain ⟨lib, libMt, library, global⟩ :=
    libraries_openBuiltins open_.orderly context₀ (registered.symm ▸ built) ran b listed
  rw [name] at library global
  refine ⟨lib, global, fun key apart => ?_⟩
  have library := open_.library library
  -- the library has one entry, and the binding has what is looked up
  unfold Api.BuiltinType.served
  cases entry : Held.ofBuiltin a.name key with
  | some h => exact answers_entry library open_.framed (n + 1) entry
  | none =>
    dsimp only
    rw [← Registry.Builtin.lookedUp_of_ofApi made apart]
    exact answers_binding library open_.framed entry context open_.room n binding

/-- What is read from the library of a class. -/
theorem class_lookup (open_ : GroupOpen openClasses r w v z) {e : Api.ClassEntry}
    (mem : e ∈ d.classes) :
    ∃ lib, (v.table v.state.globals).field e.name = .table lib ∧
      ((e.name ∉ d.builtins.map fun b => b.name) →
        HashesApart (e.name :: d.builtins.map fun b => b.name) → ∀ key,
          z.Answers lib e.name key (indexValue (runAt (n + 1)) (.table lib) (.string key) z)
            (e.served key)) := by
  have registry := open_.registry Evolving.openClasses context
  obtain ⟨c₀, count, context₀, known, ran, -⟩ := open_.opened
  obtain ⟨k, hk, made⟩ := Registry.exists_class built mem
  have registered : w.registry c₀.registry = r := World.registry_eq known
  obtain ⟨lib, libMt, library, global⟩ :=
    libraries_openClasses open_.orderly context₀ (registered.symm ▸ built) ran k
      (registered.symm ▸ hk)
  have instantiable : k.isInstantiable = e.isInstantiable := by
    obtain ⟨_, -, made⟩ := Registry.bind_eq_ok.mp made
    cases made
    rfl
  rw [(Registry.Class.of_ofApi made).1] at library global
  rw [Registry.Class.constants_of_ofApi made, instantiable] at library
  refine ⟨lib, global, fun other apart key => ?_⟩
  have library := open_.library library
  -- what is no entry is looked up in a builtin type of the name, and there is none
  unfold Api.ClassEntry.served
  cases entry : Held.ofClass e.name e.isInstantiable e.integers key with
  | some h => exact answers_entry library open_.framed (n + 1) entry
  | none =>
    have unbound : (z.registry c.registry).builtin? e.name = none := by
      rw [registry]
      exact Registry.builtin?_undeclared built other apart
    exact answers_nothing library open_.framed entry context open_.room n unbound

omit context in
/-- What is read from the table of enums. -/
theorem enum_lookup (open_ : GroupOpen openEnums r w v z) (aside : w.EnumsAside) :
    ∃ enums, (v.table v.state.globals).field enumGlobal = .table enums ∧
      ∀ name e, Keyed.last? name (d.enums.map fun e => (e.name, e)) = some e →
        ∃ t, indexValue (runAt n) (.table enums) (.string name) z = (.ok (.table t), z) ∧
          ∀ k, (z.table t).get k = e.value k := by
  obtain ⟨c₀, count, context₀, known, ran, retained⟩ := open_.opened
  have registered : w.registry c₀.registry = r := World.registry_eq known
  obtain ⟨enums, global, locked, tables⟩ :=
    enumTables_openEnums open_.orderly context₀ (registered.symm ▸ built) aside ran
  refine ⟨enums, global, fun name e last => ?_⟩
  obtain ⟨t, entry, table⟩ := tables name e last
  -- both tables are locked, so they are as they were
  have same : z.table t = .listing e.integers := by
    rw [retained.spared t (by rw [table]; rfl), table]
  rw [← retained.spared enums locked] at entry
  refine ⟨t, ?_, fun k => by rw [same, Table.get_listing]⟩
  have raw : z.rawGet enums (.string name) = .table t := entry
  have own : z.rawGet enums (.string name) ≠ .nil := by
    rw [raw]
    nofun
  rw [← raw]
  exact indexChain_stop n retained.framed (k := .string name) rfl (.entry own) 99

end Parts

/-- When all groups of an accepted description have been opened, and as long as what has been opened
is still there, scripts read from a library exactly the names that the description declares for its
type. What is asked of the worlds in which the groups were opened holds wherever a run has got to
(`Moment.orderly`), and a table that a script has left under the name of the enums must be one that
exists and is not that of the globals. A state with bindings has opened all groups in this way
(`groups_withRuntime`).

* The library of a builtin type has the constructor, the constants, the last integer of each name and
  the static methods, and what comes first hides what comes later. None of the names may have the
  digest of another one.
* The library of a class that is called like no builtin type has the last integer of each name, and
  then the constructor. What its ancestors declare makes no difference.
* The table of enums leads from each name to a table with the integers of the last enum of this name,
  and with nothing else. -/
theorem library_lookups {d : Api.Document} {r : Registry} (built : Registry.ofApi d = .ok r)
    {w₁ v₁ w₂ v₂ w₃ v₃ z : World} (builtins : GroupOpen openBuiltins r w₁ v₁ z)
    (classes : GroupOpen openClasses r w₂ v₂ z) (enums : GroupOpen openEnums r w₃ v₃ z)
    (aside : w₃.EnumsAside) {c : Context} (context : z.state.context = some c) (n : Nat) :
    (∀ a ∈ d.builtins, ∀ t, a.tag = .ok t → t.isScriptNative = false →
      ∃ lib, (v₁.table v₁.state.globals).field a.name = .table lib ∧
        ∀ key, HashesApart (key :: a.looked) →
          z.Answers lib a.name key (indexValue (runAt (n + 1)) (.table lib) (.string key) z)
            (a.served c.registry t key)) ∧
    (∀ e ∈ d.classes, ∃ lib, (v₂.table v₂.state.globals).field e.name = .table lib ∧
      ((e.name ∉ d.builtins.map fun b => b.name) →
        HashesApart (e.name :: d.builtins.map fun b => b.name) → ∀ key,
          z.Answers lib e.name key (indexValue (runAt (n + 1)) (.table lib) (.string key) z)
            (e.served key))) ∧
    ∃ enums, (v₃.table v₃.state.globals).field enumGlobal = .table enums ∧
      ∀ name e, Keyed.last? name (d.enums.map fun e => (e.name, e)) = some e →
        ∃ t, indexValue (runAt n) (.table enums) (.string name) z = (.ok (.table t), z) ∧
          ∀ k, (z.table t).get k = e.value k := by
  refine ⟨fun a mem t tag foreign => ?_, fun e mem => ?_, ?_⟩
  · exact builtin_lookup built context n builtins mem tag foreign
  · exact class_lookup built context n classes mem
  · exact enum_lookup built n enums aside

end ScriptM

/-- A type with an integer of the name of a constant, and with a method that is not static. -/
def gaugeType : Api.BuiltinType where
  name := "Vector2"
  constants := [⟨"ZERO", "Vector2", "Vector2(0, 0)"⟩]
  constructors := []
  methods := [⟨"length", some "float", false, true, false, []⟩]
  members := []
  enums := [⟨"Axis", false, [⟨"AXIS_Y", 1⟩, ⟨"ZERO", 7⟩]⟩]

/-- A class that has a constant, and another class with a constant above it. -/
def gaugeDocument : Api.Document where
  header := .empty
  builtins := [gaugeType]
  classes := [⟨"Object", none, true, false, "core", [⟨"FAR", 9⟩], [], []⟩,
    ⟨"Node", some "Object", true, false, "core", [⟨"NEAR", 3⟩], [], []⟩]
  enums := [⟨"Mask", true, [⟨"ALL", 3⟩]⟩, ⟨"Mask", true, [⟨"ONE", 1⟩]⟩]

def gaugeState (r : Registry) : Except SetupError World :=
  { Session.emptyWorld with registries := #[r] }.withRuntime maskSetup 0 0

namespace ScriptM

theorem library_lookups_gauge :
    ∃ r z lib libC enums t, Registry.ofApi gaugeDocument = .ok r ∧ gaugeState r = .ok z ∧
      indexValue (runAt 1) (.table lib) (.string "AXIS_Y") z =
        (.ok (.number (Number.ofInt64 1)), z) ∧
      indexValue (runAt 1) (.table lib) (.string "length") z =
        (.error (invalidMember "length" "Vector2"), z) ∧
      indexValue (runAt 1) (.table libC) (.string "NEAR") z =
        (.ok (.number (Number.ofInt64 3)), z) ∧
      indexValue (runAt 1) (.table libC) (.string "FAR") z =
        (.error (invalidMember "FAR" "Node"), z) ∧
      indexValue (runAt 0) (.table enums) (.string "Mask") z = (.ok (.table t), z) ∧
      (z.table t).get (.string "ALL") = .nil ∧
      (z.table t).get (.string "ONE") = .number (Number.ofInt64 1) := by
  obtain ⟨r, built⟩ : Registry.Succeeds (Registry.ofApi gaugeDocument) :=
    Registry.succeeds_of_isOk (by decide +kernel)
  obtain ⟨z, ready⟩ : Registry.Succeeds (gaugeState r) :=
    Registry.succeeds_of_computed (by decide +kernel) built
  obtain ⟨v₁, v₂, builtins, classes, enums, aside⟩ :=
    groups_withRuntime (r := r) rfl rfl rfl rfl ready
  obtain ⟨ofBuiltins, ofClasses, table, -, ofEnums⟩ :=
    library_lookups built builtins classes enums aside
      (World.withRuntime_preserves ready).2.context 0
  have node : gaugeDocument.classes[1] ∈ gaugeDocument.classes := List.getElem_mem _
  obtain ⟨lib, -, reads⟩ := ofBuiltins gaugeType (List.mem_singleton.mpr rfl) .vector2
    (by decide +kernel) rfl
  obtain ⟨libC, -, readsC⟩ := ofClasses _ node
  have readsC := readsC (by decide +kernel) (by decide +kernel)
  obtain ⟨t, entry, values⟩ := ofEnums "Mask" ⟨"Mask", true, [⟨"ONE", 1⟩]⟩ (by decide +kernel)
  obtain ⟨_, rfl, axis⟩ := reads "AXIS_Y" (by decide +kernel)
  obtain ⟨_, rfl, near⟩ := readsC "NEAR"
  exact ⟨r, z, lib, libC, table, t, built, ready, axis, reads "length" (by decide +kernel), near,
    readsC "FAR", entry, values _, values _⟩

end ScriptM

end ScriptBind
