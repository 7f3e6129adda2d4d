import ScriptBind.Proofs.Session.Preserved
import ScriptBind.Proofs.Session.Fields
import ScriptBind.Proofs.Session.Integers
import ScriptBind.Proofs.Registry.Integers
import ScriptBind.Proofs.Number.Conversion

/-!
# Declared integers in libraries

The integers of a description stand in locked tables, or are looked up by a function that stands in
one. `World.Shows` says that a table shows an integer in one of these ways. What is shown once is
shown as long as the locks are not taken away, so it is enough that the opening of a group shows the
integers of this group, and leaves the globals of the other groups where they are.

Main results:

* `World.Shows.follow` — scripts read what is shown.
* `World.withRuntime_offers` — a state with bindings shows all declared integers.
* `declared_integers_read` — what scripts read for a declared integer, and when it is this integer.
-/

namespace ScriptBind

open ScriptM

/-! ## What tables show -/

/-- The value that a number of fields in turn lead to. -/
def ScriptM.follow (run : Runner) : List String → Value → ScriptM Value
  | [], v => return v
  | key :: rest, v => do follow run rest (← indexValue run v (.string key))

namespace World

/-- `w.Shows r n t keys`: locked tables lead from `t` to an integer, which is an entry, or a value of
a builtin type that the library of this type looks up in the registry. -/
inductive Shows (w : World) (r : Registry) (n : Int64) : TableId → List String → Prop
  | entry {t : TableId} {key : String} (locked : (w.table t).readonly = true)
      (held : (w.table t).field key = .number (Number.ofInt64 n)) : Shows w r n t [key]
  | inner {t u : TableId} {key : String} {rest : List String}
      (locked : (w.table t).readonly = true) (held : (w.table t).field key = .table u)
      (shows : Shows w r n u rest) : Shows w r n t (key :: rest)
  | lookup {t mt : TableId} {f : FunctionId} {b : Registry.Builtin} {type key : String}
      (locked : (w.table t).readonly = true) (mt_locked : (w.table mt).readonly = true)
      (absent : (w.table t).field key = .nil) (tag : (w.table t).metatable = some mt)
      (label : (w.table mt).field typeField = .string type)
      (index : (w.table mt).field "__index" = .function f)
      (known : w.handler? f = some .builtinGlobalIndex) (binding : r.builtin? type = some b)
      (constant : b.constant? key = none) (value : b.enumValue? key = some n) :
      Shows w r n t [key]

variable {w v : World} {r : Registry} {n : Int64} {t : TableId} {keys : List String}

theorem Shows.later (shows : w.Shows r n t keys)
    (functions : ∀ f h, w.handler? f = some h → v.handler? f = some h)
    (spared : ∀ t, Spares t w v) : v.Shows r n t keys := by
  induction shows with
  | @entry t key locked held =>
    have same := spared t locked
    exact .entry (same ▸ locked) (same ▸ held)
  | @inner t u key rest locked held _ ih =>
    have same := spared t locked
    exact .inner (same ▸ locked) (same ▸ held) ih
  | @lookup t mt f b type key locked mt_locked absent tag label index known binding constant value =>
    have same := spared t locked
    have same' := spared mt mt_locked
    exact .lookup (same ▸ locked) (same' ▸ mt_locked) (same ▸ absent) (same ▸ tag) (same' ▸ label)
      (same' ▸ index) (functions f _ known) binding constant value

end World

/-! ## What scripts read -/

namespace ScriptM

section Reading

variable {w : World} {c : Context} {r : Registry} {n : Int64} {t mt : TableId} {f : FunctionId}
  {b : Registry.Builtin} {type key : String}

/-- The function of a library looks a name up in the binding of the type, if there is one. -/
theorem run_lookUpName (tag : (w.table t).metatable = some mt)
    (label : (w.table mt).field World.typeField = .string type)
    (context : w.state.context = some c) :
    builtinGlobalIndex (w.callFrame f [.table t, .string key]) =
      match (w.registry c.registry).builtin? type with
      | some b => pushLibraryEntry c b type key (w.callFrame f [.table t, .string key])
      | none => (.error (invalidMember key type), w.callFrame f [.table t, .string key]) := by
  have text : (w.callFrame f [.table t, .string key]).state.checkText 2 = .ok key := by
    have second : (w.callFrame f [.table t, .string key]).state.value? 2 = some (.string key) :=
      value?_callFrame 1
    rw [State.checkText, State.toText?, second]
    rfl
  -- the library is recognised by the name that stands in its metatable
  have library : (w.callFrame f [.table t, .string key]).libraryType 1 = some type := by
    have first : (w.callFrame f [.table t, .string key]).state.value? 1 = some (.table t) :=
      value?_callFrame 0
    have tag' : ((w.callFrame f [.table t, .string key]).table t).metatable = some mt := tag
    have label' : ((w.callFrame f [.table t, .string key]).table mt).field World.typeField =
      .string type := label
    rw [World.libraryType, State.toTable?, first]
    simp only [Option.bind_eq_bind, Option.bind_some, Value.asTable, tag', label']
  rw [run_builtinGlobalIndex, text, library]
  dsimp only
  rw [show (w.callFrame f [.table t, .string key]).state.context = some c from context]
  rfl

/-- The function of a library looks an integer up. -/
theorem run_lookUp (tag : (w.table t).metatable = some mt)
    (label : (w.table mt).field World.typeField = .string type)
    (context : w.state.context = some c)
    (binding : (w.registry c.registry).builtin? type = some b)
    (constant : b.constant? key = none) (value : b.enumValue? key = some n) :
    builtinGlobalIndex (w.callFrame f [.table t, .string key]) =
      (.ok 1, (w.callFrame f [.table t, .string key]).withStack
        ((w.callFrame f [.table t, .string key]).state.stack ++ [.number (Number.ofInt64 n)])) := by
  rw [run_lookUpName tag label context, binding]
  dsimp only
  rw [pushLibraryEntry, Constant.declared?, constant, value]
  rfl

end Reading

/-- Nothing is left of a call that pushes one value but this value. -/
theorem firstResult_pushes {run : Runner} {w : World} {f : FunctionId} {args : List Value} {x : Value}
    (room : w.state.frames.length < maxCallDepth)
    (ran : run f (w.callFrame f args) =
      (.ok 1, (w.callFrame f args).withStack ((w.callFrame f args).state.stack ++ [x]))) :
    firstResult run f args w = (.ok x, w) := by
  let results := w.state.stack ++ .function f :: args ++ [x]
  have length : results.length = w.state.stack.length + args.length + 2 := by
    simp [results]
    omega
  have enough : ¬results.length - (w.state.stack.length + 1) < 1 := by omega
  have last : results.drop (results.length - 1) = [x] := by
    have front : results.length - 1 = (w.state.stack ++ .function f :: args).length := by
      simp [results]
    rw [front]
    exact List.drop_left
  -- below the function nothing has changed, so the stack that is left is the one from before
  have below : results.take w.state.stack.length ++ [] = w.state.stack := by
    simp [results]
  rw [firstResult, if_neg (Nat.not_le_of_lt room), ran]
  refine (if_neg enough).trans ?_
  show (Except.ok ((results.drop (results.length - 1)).headD .nil), { w with state := { w.state with
    stack := results.take w.state.stack.length ++ [] } }) = _
  rw [last, below]
  rfl

end ScriptM

namespace World

variable {w : World} {r : Registry} {n : Int64} {t : TableId} {keys : List String}

/-- What is shown is what scripts read, and reading changes nothing. -/
theorem Shows.follow (shows : w.Shows r n t keys) (m : Nat) (framed : w.state.Framed)
    (room : w.state.frames.length < maxCallDepth)
    (context : ∃ c, w.state.context = some c ∧ w.registry c.registry = r) :
    ScriptM.follow (runAt (m + 1)) keys (.table t) w = (.ok (.number (Number.ofInt64 n)), w) := by
  obtain ⟨c, context, registry⟩ := context
  have entry : ∀ {t : TableId} {key : String} {x : Value}, (w.table t).field key = x → x ≠ .nil →
      indexValue (runAt (m + 1)) (.table t) (.string key) w = (.ok x, w) := by
    rintro t key x rfl something
    exact indexChain_stop (m + 1) framed (k := .string key) rfl (.entry something) 99
  -- on how the number is shown: by an entry, further in, or by the function that looks names up
  induction shows with
  | entry _ held =>
    show (indexValue _ _ _ >>= fun v => ScriptM.follow _ [] v) w = _
    rw [run_bind, entry held nofun]
    rfl
  | inner _ held _ ih =>
    show (indexValue _ _ _ >>= fun v => ScriptM.follow _ _ v) w = _
    rw [run_bind, entry held nofun]
    exact ih
  | @lookup t mt f b type key _ _ absent tag label index known binding constant value =>
    have lacks : w.Lacks (.string key) (.table t) := fun u same => by
      cases same
      exact absent
    have next : w.metafield (.table t) "__index" = some (.function f) := by
      rw [World.metafield, World.metatable, tag]
      dsimp only
      rw [index]
    have read : indexValue (runAt (m + 1)) (.table t) (.string key) w =
        firstResult (runAt (m + 1)) f [.table t, .string key] w :=
      indexChain_stop (m + 1) framed (k := .string key) rfl (.handler lacks next) 99
    show (indexValue _ _ _ >>= fun v => ScriptM.follow _ [] v) w = _
    have ran := run_lookUp (f := f) tag label context (registry ▸ binding) constant value
    have handler : (w.callFrame f [.table t, .string key]).handler? f = some .builtinGlobalIndex :=
      known
    rw [run_bind, read, firstResult_pushes room ((runAt_handler handler).trans ran)]
    rfl

end World

/-! ## What states with bindings offer -/

namespace World

variable {w v : World} {r : Registry} {root : String} {keys : List String} {n : Int64}

/-- The library of a name leads to an integer. -/
def Offers (w : World) (r : Registry) (root : String) (keys : List String) (n : Int64) : Prop :=
  ∃ lib, (w.table w.state.globals).field root = .table lib ∧ w.Shows r n lib keys

/-- What is offered under a registered name is offered later on. -/
theorem Preserves.offers (h : w.Preserves v) (offers : w.Offers r root keys n)
    (registered : (Keyed.get? root w.state.metatables).isSome) : v.Offers r root keys n := by
  obtain ⟨lib, entry, shows⟩ := offers
  exact ⟨lib, (h.taken root lib ⟨entry, registered⟩).entry, shows.later h.functions h.spared⟩

end World

namespace ScriptM

variable {n : Nat} {w v : World} {d : Api.Document}

/-- A library that has just been opened is among the globals. -/
theorem Stocks.taken {name : String} {isObject : Bool} {entries : String → Value}
    (stocks : Stocks w.view name isObject entries v.view) : v.Taken name ⟨w.tables.size + 1⟩ := by
  have globals : v.table w.state.globals = _ := stocks.furnishes.globals
  have same : v.state.globals = w.state.globals := stocks.furnishes.globals_eq
  refine ⟨?_, ?_⟩
  · rw [same, globals, Table.field_entered rfl]
    rfl
  · rw [show v.state = _ from stocks.furnishes.state]
    exact Option.isSome_of_eq_some (Keyed.get?_put_self ..)

variable {c : Context} (sealed_ : w.view.Sealed n) (context : w.state.context = some c)
  (built : Registry.ofApi d = .ok (w.registry c.registry))
include sealed_ context

include built

/-- The library of a builtin type looks its integers up. -/
theorem offers_builtin (ok : discard openBuiltins w = (.ok (), v)) {a : Api.BuiltinType} {t : Tag}
    {name : String} {m : Int64} (mem : a ∈ d.builtins) (tag : a.tag = .ok t)
    (foreign : t.isScriptNative = false) (alone : a.Alone name)
    (value : Keyed.last? name a.integers = some m) :
    v.Offers (w.registry c.registry) a.name [name] m ∧
      (Keyed.get? a.name v.state.metatables).isSome := by
  rw [run_openBuiltins context] at ok
  obtain ⟨b, hb, made⟩ := Registry.exists_builtin built mem
  obtain ⟨same, tag'⟩ := Registry.Builtin.of_ofApi made
  have foreign' : b.tag.isScriptNative = false := by
    rw [← foreign, Except.ok.inj (tag'.symm.trans tag)]
  obtain ⟨u, u', -, sealed₁, opened, after⟩ :=
    (opens_builtin.preserves_forM Evolving.openBuiltin sealed_ ok).2 b
      (List.mem_filter.mpr ⟨hb, by rw [foreign']; rfl⟩)
  obtain ⟨new, -⟩ := opens_builtin.furnishes sealed₁ opened
  obtain ⟨_, entries, turns, stocks, nothing⟩ := openBuiltin_stocks sealed₁.ready new
  obtain ⟨x, ran, rfl⟩ := turns u rfl
  obtain rfl : x = u' := (Prod.mk.inj (ran.symm.trans opened)).2
  have binding : (w.registry c.registry).builtin? b.name = some b :=
    ((Registry.named_builtins built).1 b hb).tag ▸ Registry.builtin?_tag built hb
  -- the three tables of a library are locked when it is finished
  have locked (i : Nat) (small : i < 3) : (x.table ⟨u.tables.size + i⟩).readonly = true :=
    stocks.furnishes.locked (Nat.le_add_right ..)
      (Nat.lt_of_lt_of_eq (Nat.add_lt_add_left small _) stocks.furnishes.size.symm)
  have shows : x.Shows (w.registry c.registry) m ⟨u.tables.size + 1⟩ [name] :=
    .lookup (locked 1 (by decide)) (locked 2 (by decide))
      ((stocks.entry name).trans (nothing name alone.not_new)) stocks.tag stocks.label stocks.lookup
      (World.handler?_eq_some.mpr ⟨_, stocks.known, rfl⟩) binding
      (Registry.Builtin.constant?_undeclared made alone)
      ((Registry.Builtin.enumValue?_declared made alone).trans value)
  have taken := after.taken _ _ stocks.taken
  rw [← same]
  exact ⟨⟨_, taken.entry, shows.later after.functions after.spared⟩, taken.registered⟩

/-- The library of a class has its integers as entries. -/
theorem offers_class (ok : discard openClasses w = (.ok (), v)) {e : Api.ClassEntry} {name : String}
    {m : Int64} (mem : e ∈ d.classes) (value : Keyed.last? name e.integers = some m) :
    v.Offers (w.registry c.registry) e.name [name] m ∧
      (Keyed.get? e.name v.state.metatables).isSome := by
  rw [run_openClasses context] at ok
  obtain ⟨k, hk, made⟩ := Registry.exists_class built mem
  obtain ⟨u, u', -, sealed₁, opened, after⟩ :=
    (opens_class.preserves_forM Evolving.openClass sealed_ ok).2 k hk
  obtain ⟨new, -⟩ := opens_class.furnishes sealed₁ opened
  obtain ⟨_, entries, turns, stocks, integers⟩ := openClass_stocks sealed₁.ready new
  obtain ⟨x, ran, rfl⟩ := turns u rfl
  obtain rfl : x = u' := (Prod.mk.inj (ran.symm.trans opened)).2
  have found : m ∈ Keyed.last? name k.constants :=
    (congrArg (Keyed.last? name) (Registry.Class.constants_of_ofApi made)).trans value
  -- the library is locked when it is finished, and its entries are the integers
  have locked : (x.table ⟨u.tables.size + 1⟩).readonly = true :=
    stocks.furnishes.locked (Nat.le_succ _)
      (Nat.lt_of_lt_of_eq (Nat.add_lt_add_left (by decide) _) stocks.furnishes.size.symm)
  have shows : x.Shows (w.registry c.registry) m ⟨u.tables.size + 1⟩ [name] :=
    .entry locked ((stocks.entry name).trans (integers name m found))
  have taken := after.taken _ _ stocks.taken
  rw [← (Registry.Class.of_ofApi made).1]
  exact ⟨⟨_, taken.entry, shows.later after.functions after.spared⟩, taken.registered⟩

/-- The table of enums has a table for each enum, with its integers as entries. -/
theorem offers_enum (ok : discard openEnums w = (.ok (), v)) {e : Api.EnumEntry}
    {enum name : String} {m : Int64}
    (last : Keyed.last? enum (d.enums.map fun e => (e.name, e)) = some e)
    (value : Keyed.last? name e.integers = some m) :
    v.Offers (w.registry c.registry) enumGlobal [enum, name] m := by
  rw [run_openEnums context] at ok
  obtain ⟨grows, state, -, lists⟩ := fillEnums_grows sealed_ ok
  obtain ⟨k, found, values⟩ := Registry.last?_enums built last
  obtain ⟨t, low, high, entry, entries⟩ := lists enum k found
  refine ⟨⟨w.tables.size⟩, ?_, .inner (grows.locked (Nat.le_refl _) grows.entry_new.2) entry
    (.entry (grows.locked low high) (entries name m ?_))⟩
  · have globals : v.table w.state.globals = _ := grows.entered
    rw [state, globals]
    exact Table.field_entered rfl _
  · rw [values, value]
    rfl

/-- The groups are opened one after the other, and what one of them offers the next ones leave. -/
theorem offers_openLibraries {setup : Setup} (ok : openLibraries setup w = (.ok (), v))
    {root : String} {keys : List String} {m : Int64} (declared : d.Declares setup root keys m) :
    v.Offers (w.registry c.registry) root keys m := by
  obtain ⟨w₁, w₂, first, second, third, sealed₁, sealed₂, step₁, step₂, step₃⟩ :=
    openLibraries_groups sealed_ context ok
  have context₁ := step₁.context.trans context
  have context₂ := step₂.context.trans context₁
  have registry₁ := step₁.registry c.registry
  have registry₂ := (step₂.registry c.registry).trans registry₁
  -- each group finds its registry as it was, and has the later groups after it
  cases declared with
  | builtin opened mem tag foreign alone value =>
    rw [if_pos opened] at first
    obtain ⟨offers, registered⟩ :=
      offers_builtin sealed_ context built first mem tag foreign alone value
    exact (step₂.trans step₃).offers offers registered
  | ofClass opened mem value =>
    rw [if_pos opened] at second
    obtain ⟨offers, registered⟩ :=
      offers_class sealed₁ context₁ (registry₁ ▸ built) second mem value
    exact registry₁ ▸ step₃.offers offers registered
  | enumeration opened last value =>
    rw [if_pos opened] at third
    exact registry₂ ▸ offers_enum sealed₂ context₂ (registry₂ ▸ built) third last value

end ScriptM

namespace World

/-- What has been opened is still there: locked tables are as they were, and the state works with
the registry that it worked with. There is room for one more call. -/
structure Retains (w v : World) (i : Nat) : Prop where
  later : Leads w v
  spared : ∀ t, Spares t w v
  framed : v.state.Framed
  room : v.state.frames.length < maxCallDepth
  context : ∃ c, v.state.context = some c ∧ v.registry c.registry = w.registry i

/-- A state with bindings retains what has been opened, and offers all integers that are declared. -/
theorem withRuntime_offers {w v : World} {setup : Setup} {host i : Nat} {d : Api.Document}
    (built : Registry.ofApi d = .ok (w.registry i)) (ready : w.withRuntime setup host i = .ok v)
    {root : String} {keys : List String} {n : Int64} (declared : d.Declares setup root keys n) :
    v.registry i = w.registry i ∧ v.Retains v i ∧ v.Offers (w.registry i) root keys n := by
  have framed := (withRuntime_sealed ready).ready.framed
  obtain ⟨opened, preserves⟩ := withRuntime_preserves ready
  have offers := offers_openLibraries (w.sealed_withContext host i) rfl built opened declared
  refine ⟨preserves.registry i, ⟨.state v v.state, fun _ _ => rfl, framed, ?_, _,
    preserves.context, rfl⟩, offers⟩
  rw [preserves.evolves.frames_eq]
  exact Nat.zero_lt_succ _

end World

/-! ## Integers read back -/

/-- An integer that scripts have read is the same one in native code exactly if its digits fit into
the number, or if it is the largest one, which stands for all numbers above. -/
theorem integerAt?_ofInt64 {w : World} {index : Int} {n : Int64}
    (read : w.state.value? index = some (.number (Number.ofInt64 n))) :
    w.integerAt? index = some n ↔ Number.Representable n.toInt ∨ n = Int64.maxValue := by
  have number : w.state.toNumber? index = some (Number.ofInt64 n) := by
    rw [State.toNumber?, read]
    rfl
  rw [World.integerAt?_iff]
  constructor
  -- a number stands for the integer it is, or for the bound of the integers that it lies beyond
  · rintro ⟨_, ⟨x, found, is⟩, k, rfl, stands⟩
    cases number.symm.trans found
    rcases stands with rfl | ⟨-, most⟩ | ⟨small, rfl⟩
    · exact .inl (Number.representable_of_is is)
    · exact .inr most
    · exact .inl ⟨1, 63, by decide, rfl⟩
  · rintro (representable | rfl)
    · have small : n.toInt.natAbs ≤ 2 ^ 63 := by
        have := n.le_toInt
        have := n.toInt_lt
        omega
      exact ⟨_, ⟨_, number, Number.is_ofInt small representable⟩, _, rfl, .exact rfl⟩
    · have value : Number.Binary.value ⟨false, 2 ^ 52, 11⟩ = ((2 ^ 63 : ℤ) : ℚ) := by
        norm_num [Number.Binary.value, Number.Binary.magnitude]
      exact ⟨_, ⟨_, number, _, rfl, value⟩, _, rfl, .above (Int.le_refl _) rfl⟩

/-- In a state with bindings of an accepted description, every declared integer is there for scripts
under its name, in the library of its builtin type, in the library of its class or in the table of
its enum: as a number, which they read in every later world in which what has been opened is still
there. In native code this number is the declared integer exactly if the digits of the integer fit
into it, or if it is the largest integer. -/
theorem declared_integers_read {w v : World} {setup : Setup} {host i : Nat} {d : Api.Document}
    (built : Registry.ofApi d = .ok (w.registry i)) (ready : w.withRuntime setup host i = .ok v)
    {root : String} {keys : List String} {n : Int64} (declared : d.Declares setup root keys n) :
    v.Retains v i ∧
    (∃ lib, (v.table v.state.globals).field root = .table lib ∧
      ∀ z, v.Retains z i → ∀ m, follow (runAt (m + 1)) keys (.table lib) z =
        (.ok (.number (Number.ofInt64 n)), z)) ∧
    ∀ (z : World) (index : Int), z.state.value? index = some (.number (Number.ofInt64 n)) →
      (z.nativeAt? index .int64 = some (.int64 n) ↔
        Number.Representable n.toInt ∨ n = Int64.maxValue) := by
  obtain ⟨registry, retains, lib, entry, shows⟩ := World.withRuntime_offers built ready declared
  refine ⟨retains, ⟨lib, entry, fun z later m => ?_⟩, fun z index read => ?_⟩
  · have shows := shows.later (fun f h known => later.later.handler_kept known) later.spared
    obtain ⟨c, context, same⟩ := later.context
    exact shows.follow m later.framed later.room ⟨c, context, same.trans registry⟩
  · rw [← integerAt?_ofInt64 read]
    exact ⟨fun found => by simpa using Option.map_eq_some_iff.mp found, fun found => by
      rw [World.nativeAt?, found]; rfl⟩

/-- A type with an integer whose digits fit into a number, and with two names that share a digest. -/
def maskType : Api.BuiltinType where
  name := "Vector2"
  constants := []
  constructors := []
  methods := []
  members := []
  enums := [⟨"Mask", true, [⟨"x", 1⟩, ⟨"jvcGGLhUeyoT", 2⟩, ⟨"HIGH", 4611686018427387904⟩]⟩]

/-- An enum with an integer whose digits do not fit. -/
def maskEnum : Api.EnumEntry := ⟨"Mask", true, [⟨"ALL", 9007199254740993⟩]⟩

def maskDocument : Api.Document := ⟨.empty, [maskType], [], [maskEnum]⟩

def maskSetup : Setup := ⟨none, false, none, true, true, true⟩

/-- A state of its own for a description. -/
def maskState (r : Registry) : Except SetupError World :=
  { Session.emptyWorld with registries := #[r] }.withRuntime maskSetup 0 0

theorem declares_mask_high :
    maskDocument.Declares maskSetup maskType.name ["HIGH"] 4611686018427387904 :=
  have alone : maskType.Alone "HIGH" := ⟨by decide, nofun, by decide +kernel⟩
  .builtin rfl (List.mem_singleton.mpr rfl) (show maskType.tag = .ok .vector2 by decide +kernel) rfl
    alone (by decide +kernel)

theorem declares_mask_all :
    maskDocument.Declares maskSetup enumGlobal ["Mask", "ALL"] 9007199254740993 :=
  have last : Keyed.last? "Mask" (maskDocument.enums.map fun e => (e.name, e)) = some maskEnum := by
    decide +kernel
  .enumeration rfl last (by decide +kernel)

theorem declared_integers_read_high :
    ∃ r v lib, Registry.ofApi maskDocument = .ok r ∧ maskState r = .ok v ∧
      (v.table v.state.globals).field maskType.name = .table lib ∧
      follow (runAt 1) ["HIGH"] (.table lib) v =
        (.ok (.number (Number.ofInt64 4611686018427387904)), v) ∧
      ∀ (z : World) (index : Int),
        z.state.value? index = some (.number (Number.ofInt64 4611686018427387904)) →
          z.nativeAt? index .int64 = some (.int64 4611686018427387904) := by
  obtain ⟨r, built⟩ : Registry.Succeeds (Registry.ofApi maskDocument) :=
    Registry.succeeds_of_isOk (by decide +kernel)
  obtain ⟨v, ready⟩ : Registry.Succeeds (maskState r) :=
    Registry.succeeds_of_computed (by decide +kernel) built
  obtain ⟨retains, ⟨lib, entry, reads⟩, back⟩ :=
    declared_integers_read (w := { Session.emptyWorld with registries := #[r] }) (i := 0) built
      ready declares_mask_high
  exact ⟨r, v, lib, built, ready, entry, reads v retains 0, fun z index read =>
    (back z index read).mpr (.inl ⟨1, 62, by decide, rfl⟩)⟩

/-- What scripts find under names, starting from the globals. -/
def maskRead (names : List String) : Option Value :=
  match (Registry.ofApi maskDocument).toOption.bind fun r => (maskState r).toOption with
  | some v => (follow (runAt 1) names (.table v.state.globals) v).1.toOption
  | none => none

/-- The number for an integer of 54 digits is the one for the integer below it, and a name is read as
another one that shares its digest. -/
theorem declared_integers_read_rounded :
    maskDocument.Declares maskSetup enumGlobal ["Mask", "ALL"] 9007199254740993 ∧
    maskRead [enumGlobal, "Mask", "ALL"] = some (.number (Number.ofInt64 9007199254740992)) ∧
    (∀ (z : World) (index : Int),
      z.state.value? index = some (.number (Number.ofInt64 9007199254740992)) →
        z.nativeAt? index .int64 = some (.int64 9007199254740992)) ∧
    Keyed.last? "x" maskType.integers = some 1 ∧
    maskRead [maskType.name, "x"] = some (.number (Number.ofInt64 2)) := by
  refine ⟨declares_mask_all, by decide +kernel, fun z index read => ?_, by decide +kernel,
    by decide +kernel⟩
  rw [World.nativeAt?, (integerAt?_ofInt64 read).mpr (.inl ⟨2 ^ 52, 1, by decide, rfl⟩)]
  rfl

end ScriptBind
