import ScriptBind.Proofs.Binding.Served
import ScriptBind.Proofs.Session.Brackets
import ScriptBind.Proofs.Session.ClassLibraries

/-!
# Libraries and their entries

Wherever a library is opened, the library and its own metatable are new tables, and they are locked in
the end. So it is known which entries the library has, whatever has become of the metatable that it
is for, and no matter what else is opened afterwards. `View.Serves` says what scripts can find in a
library, `View.Laying` how things are while it is filled, and `View.Library` what is left of it.

A library becomes a global under the name of its type. The globals are never registered as a metatable
(`World.Rooted`), so nothing else is entered among them while the library is filled.

Main results:

* `laying_newLibrary` — a library that is made has no entries yet.
* `Laying.installEntry`, `Laying.forM_installInteger` — the entries that it gets.
* `lays_builtin`, `lays_class` — what is left of the libraries of builtin types and classes.
* `Lays.forM` — and of all libraries of a group.
-/

namespace ScriptBind

open ScriptM

/-! ## Entries -/

/-- Every function of one array is in the other one, in the same place. -/
def Grown (functions more : Array Function) : Prop :=
  ∀ (i : Nat) (g : Function), functions[i]? = some g → more[i]? = some g

/-- A function that is added at the end leaves the others in their places. -/
theorem grown_push (functions : Array Function) (g : Function) :
    Grown functions (functions.push g) := fun _ _ known => getElem?_push_kept known g

/-- The value is what is held. -/
def Held.Is (functions : Array Function) (v : Value) : Held → Prop
  | integer n => v = .number (Number.ofInt64 n)
  | function g => ∃ f : FunctionId, v = .function f ∧ functions[f.index]? = some g

/-- The value is the entry, nil if there is none. -/
def Held.Entry (functions : Array Function) (v : Value) : Option Held → Prop
  | none => v = .nil
  | some h => h.Is functions v

/-- An entry is still there when more functions have been made. -/
theorem Held.Entry.mono {functions more : Array Function} {v : Value} {o : Option Held}
    (entry : Entry functions v o) (grown : Grown functions more) : Entry more v o := by
  cases o with
  | none => exact entry
  | some h =>
    cases h with
    | integer n => exact entry
    | function g =>
      obtain ⟨f, rfl, known⟩ := entry
      exact ⟨f, rfl, grown _ _ known⟩

namespace View

/-- A library has some entries, and in its metatable the name of a type and the function that looks
up all other names. -/
structure Serves (a : View) (lib libMt : TableId) (type : String) (entries : String → Option Held) :
    Prop where
  tag : (a.table lib).metatable = some libMt
  label : (a.table libMt).field World.typeField = .string type
  lookup : ∃ f : FunctionId, (a.table libMt).field "__index" = .function f ∧
    a.functions[f.index]? = some lookUpFunction
  entry (key : String) : Held.Entry a.functions ((a.table lib).field key) (entries key)

/-- A library that is locked together with its metatable. -/
structure Library (a : View) (lib libMt : TableId) (type : String)
    (entries : String → Option Held) : Prop where
  serves : a.Serves lib libMt type entries
  locked : (a.table lib).readonly = true
  sealed_ : (a.table libMt).readonly = true

variable {a b : View} {lib libMt : TableId} {type : String} {entries : String → Option Held}

/-- What is looked at is all that matters. -/
theorem Serves.mono (serves : a.Serves lib libMt type entries) (grown : Grown a.functions b.functions)
    (tag : (b.table lib).metatable = (a.table lib).metatable)
    (entry : ∀ key, (b.table lib).field key = (a.table lib).field key)
    (own : ∀ key ≠ "__metatable", (b.table libMt).field key = (a.table libMt).field key) :
    b.Serves lib libMt type entries := by
  obtain ⟨f, index, known⟩ := serves.lookup
  refine ⟨tag.trans serves.tag, (own _ (by decide)).trans serves.label,
    ⟨f, (own _ (by decide)).trans index, grown _ _ known⟩, fun key => ?_⟩
  rw [entry key]
  exact (serves.entry key).mono grown

/-- A library stays as long as nobody takes the locks away. -/
theorem Library.later (library : a.Library lib libMt type entries)
    (grown : Grown a.functions b.functions)
    (spared : ∀ t, (a.table t).readonly = true → b.table t = a.table t) :
    b.Library lib libMt type entries := by
  -- both tables are locked, so neither of them has changed
  have lib_same := spared lib library.locked
  have libMt_same := spared libMt library.sealed_
  refine ⟨library.serves.mono grown ?_ ?_ ?_, ?_, ?_⟩
  · rw [lib_same]
  · exact fun key => by rw [lib_same]
  · exact fun key _ => by rw [libMt_same]
  · rw [lib_same, library.locked]
  · rw [libMt_same, library.sealed_]

end View

/-! ## Worlds in order -/

/-- The running frame lies within the stack, the globals and the registered metatables are tables that
exist, and the globals are none of these metatables. -/
structure World.Orderly (w : World) : Prop where
  framed : w.state.Framed
  housed : w.Houses w.state
  rooted : w.Rooted w.state

/-- Elementary changes keep a world in order. -/
theorem Evolves.orderly {w v : World} (h : Evolves w v) (orderly : w.Orderly) : v.Orderly where
  framed := h.framed orderly.framed
  housed := h.houses orderly.housed
  rooted := h.rooted orderly.rooted

/-- Functions are only added. -/
theorem Evolves.grown {w v : World} (h : Evolves w v) : Grown w.functions v.functions :=
  fun _ _ known => h.function_known known

/-- Worlds are in order wherever a run has got to. -/
theorem Session.Moment.orderly {es : List Session.Event} {w : World} (moment : Session.Moment es w) :
    w.Orderly :=
  ⟨moment.framed, moment.houses, moment.rooted⟩

/-! ## Filling a library -/

namespace ScriptM

/-- A library of number `n` and its metatable are new, and lie on the stack above the metatable that
they are for. None of the three is locked, and none is the table of the globals. The globals were `g`,
and have the library now. -/
structure Laying (s : State) (mt : TableId) (n : Nat) (g : Table) (type : String)
    (entries : String → Option Held) (b : View) : Prop where
  state : b.state = (s.push (.table mt)).push (.table ⟨n⟩)
  size : b.size = n + 2
  apart {t : TableId} (own : t = mt ∨ t = ⟨n⟩ ∨ t = ⟨n + 1⟩) : s.globals ≠ t
  global : b.table s.globals = g.entered type (.table ⟨n⟩)
  free {t : TableId} (own : t = mt ∨ t = ⟨n⟩ ∨ t = ⟨n + 1⟩) : (b.table t).readonly = false
  serves : b.Serves ⟨n⟩ ⟨n + 1⟩ type entries

section Laying

variable {s : State} {mt : TableId} {n : Nat} {g : Table} {type : String}
  {entries : String → Option Held} {b : View}

section Laid

variable {T : Shelf} {t : TableId} {f : FunctionId} {name metatable : String}

/-- What is laid out takes no lock away. -/
theorem readonly_laidShelf : (laidShelf T mt n f name metatable t).readonly = (T t).readonly := by
  simp [laidShelf]

/-- No table but the metatable and the two new ones is touched. -/
theorem laidShelf_apart (not_mt : t ≠ mt) (not_lib : t ≠ ⟨n⟩) (not_libMt : t ≠ ⟨n + 1⟩) :
    laidShelf T mt n f name metatable t = T t := by
  rw [laidShelf, Shelf.attach_other not_lib, Shelf.enter_other not_libMt,
    Shelf.enter_other not_libMt, Shelf.enter_other not_mt]

end Laid

/-- The library is laid out above an unlocked metatable. -/
theorem turns_makeLibrary {T : Shelf} {F : Array Function} {R : Array Registry}
    (framed : s.Framed) (old : mt.index < n) (not_globals : mt ≠ s.globals)
    (globals_old : s.globals.index < n) (mt_free : (T mt).readonly = false)
    (free : (T s.globals).readonly = false)
    (fresh : ∀ {t : TableId}, n ≤ t.index → T t = Table.empty) (name metatable : String) :
    ∃ b, Turns (layLibrary name metatable >>= fun _ => setGlobal name)
        ⟨s.push (.table mt), n, T, F, R⟩ b ∧
      Laying s mt n (T s.globals) name (fun _ => none) b := by
  have unlocked {t : TableId} (new : n ≤ t.index) : (T t).readonly = false := by
    rw [fresh new]
    rfl
  have apart : (⟨n⟩ : TableId) ≠ mt := (TableId.ne_add old 0).symm
  have other : (⟨n⟩ : TableId) ≠ s.globals := (TableId.ne_add globals_old 0).symm
  have other' : (⟨n + 1⟩ : TableId) ≠ s.globals := (TableId.ne_add globals_old 1).symm
  have second : (⟨n⟩ : TableId) ≠ ⟨n + 1⟩ := TableId.ne_add (Nat.lt_succ_self n) 0
  have framed₂ := State.framed_push (State.framed_push framed (.table mt)) (.table ⟨n⟩)
  have laid : Turns (layLibrary name metatable) ⟨s.push (.table mt), n, T, F, R⟩ _ :=
    turns_layLibrary framed old mt_free fresh name metatable
  refine ⟨_, laid.bind (Turns.setGlobal framed₂ (Nat.lt_add_right 2 globals_old) ?_),
    ⟨rfl, rfl, fun own => ?_, ?_, fun {t} own => ?_, ?_, ?_,
      ⟨⟨F.size⟩, ?_, Array.getElem?_push_size⟩, fun key => ?_⟩⟩
  · exact readonly_laidShelf.trans free
  · rcases own with rfl | rfl | rfl
    · exact not_globals.symm
    · exact other.symm
    · exact other'.symm
  -- the library is all that is entered among the globals
  · show (laidShelf T mt n ⟨F.size⟩ name metatable).enter s.globals name _ _ = _
    rw [Shelf.enter_self, laidShelf_apart not_globals.symm other.symm other'.symm]
  · show ((laidShelf T mt n ⟨F.size⟩ name metatable).enter s.globals name _ t).readonly = _
    rw [Shelf.readonly_enter, readonly_laidShelf]
    rcases own with rfl | rfl | rfl
    · exact mt_free
    · exact unlocked (Nat.le_refl n)
    · exact unlocked (Nat.le_succ n)
  · show ((laidShelf T mt n ⟨F.size⟩ name metatable).enter s.globals name _ _).metatable = _
    rw [Shelf.metatable_enter, laidShelf, Shelf.metatable_attach]
  · show ((laidShelf T mt n ⟨F.size⟩ name metatable).enter s.globals name _ _).field _ = _
    rw [Shelf.enter_other other', laidShelf, Shelf.field_attach,
      Shelf.field_enter fun _ => by decide, Shelf.enter_self, Table.field_entered rfl]
  · show ((laidShelf T mt n ⟨F.size⟩ name metatable).enter s.globals name _ _).field _ = _
    rw [Shelf.enter_other other', laidShelf, Shelf.field_attach, Shelf.enter_self,
      Table.field_entered rfl]
  · show ((laidShelf T mt n ⟨F.size⟩ name metatable).enter s.globals name _ _).field _ = _
    rw [Shelf.enter_other other, laidShelf, Shelf.field_attach, Shelf.enter_other second,
      Shelf.enter_other second, Shelf.enter_other apart, fresh (Nat.le_refl n)]
    rfl

namespace Laying

variable (framed : s.Framed) (old : mt.index < n) (laying : Laying s mt n g type entries b)
include framed old laying

/-- The metatable lies third from the top when a value is entered, and the library second. -/
theorem turns_setField {index : Int} {t : TableId}
    (place : index = -3 ∧ t = mt ∨ index = -2 ∧ t = ⟨n⟩) (key : String) (x : Value) :
    Turns (ScriptM.setField index key) { b with state := b.state.push x }
      { b with table := b.table.enter t key x } := by
  obtain ⟨_, _, T, functions, R⟩ := b
  obtain rfl := laying.state
  obtain rfl := laying.size
  have framed₁ := State.framed_push framed (.table mt)
  have framed₂ := State.framed_push framed₁ (.table ⟨n⟩)
  -- below the value are the library and the metatable
  rcases place with ⟨rfl, rfl⟩ | ⟨rfl, rfl⟩
  · have inside : t.index < n + 2 := by omega
    exact Turns.setField framed₂ (State.checkTable_third framed _ _ x) inside
      (laying.free (.inl rfl))
  · have inside : (⟨n⟩ : TableId).index < n + 2 := by simp
    exact Turns.setField framed₂ (State.checkTable_second framed₁ _ x) inside
      (laying.free (.inr (.inl rfl)))

omit framed old in
/-- A new function is no part of the library until it is entered. -/
theorem allocFunction (f : Function) :
    Laying s mt n g type entries { b with functions := b.functions.push f } :=
  ⟨laying.state, laying.size, laying.apart, laying.global, laying.free,
    laying.serves.mono (grown_push _ f) rfl (fun _ => rfl) fun _ _ => rfl⟩

/-- What is entered into the metatable is no entry of the library. -/
theorem installMetatable (key called : String) (h : Handler) (upvalues : List Value) :
    ∃ c, Turns (installHandler (-3) key called h upvalues) b c ∧ Laying s mt n g type entries c := by
  have more := laying.allocFunction ⟨called, .handler h, upvalues⟩
  have apart : (⟨n⟩ : TableId) ≠ mt := (TableId.ne_add old 0).symm
  have apart' : (⟨n + 1⟩ : TableId) ≠ mt := (TableId.ne_add old 1).symm
  obtain ⟨_, _, T, functions, R⟩ := b
  refine ⟨_, (Turns.pushHandler called h upvalues).bind
    (more.turns_setField framed old (.inl ⟨rfl, rfl⟩) key (.function ⟨functions.size⟩)),
    more.state, more.size, more.apart,
    (Shelf.enter_other (more.apart (.inl rfl))).trans more.global,
    fun own => Shelf.readonly_enter.trans (more.free own),
    more.serves.mono (fun _ _ known => known) Shelf.metatable_enter (fun k => ?_) fun k _ => ?_⟩
  · exact congrArg (fun t => Table.field t k) (Shelf.enter_other apart)
  · exact congrArg (fun t => Table.field t k) (Shelf.enter_other apart')

/-- What is entered into the library is an entry. -/
theorem setEntry (key : String) {x : Value} {h : Held} (is : h.Is b.functions x)
    (something : x.isNil = false) :
    Turns (setField (-2) key) { b with state := b.state.push x }
        { b with table := b.table.enter ⟨n⟩ key x } ∧
      Laying s mt n g type (Function.update entries key (some h))
        { b with table := b.table.enter ⟨n⟩ key x } := by
  have second : (⟨n + 1⟩ : TableId) ≠ ⟨n⟩ := (TableId.ne_add (Nat.lt_succ_self n) 0).symm
  obtain ⟨f, index, known⟩ := laying.serves.lookup
  refine ⟨laying.turns_setField framed old (.inr ⟨rfl, rfl⟩) key x, laying.state, laying.size,
    laying.apart, (Shelf.enter_other (laying.apart (.inr (.inl rfl)))).trans laying.global,
    fun own => Shelf.readonly_enter.trans (laying.free own),
    Shelf.metatable_enter.trans laying.serves.tag, ?_, ⟨f, ?_, known⟩, fun k => ?_⟩
  · exact (congrArg (fun t => Table.field t _) (Shelf.enter_other second)).trans laying.serves.label
  · exact (congrArg (fun t => Table.field t _) (Shelf.enter_other second)).trans index
  -- the entry is new, and all others are those from before
  · show Held.Entry b.functions ((b.table.enter ⟨n⟩ key x ⟨n⟩).field k) _
    rw [Shelf.enter_self]
    by_cases same : k = key
    · subst same
      rw [Table.field_entered something, Function.update_self]
      exact is
    · rw [Table.field_entered_other (Ne.symm same), Function.update_of_ne same]
      exact laying.serves.entry k

/-- A function that is made and entered is an entry. -/
theorem installEntry (key called : String) (h : Handler) (upvalues : List Value) :
    ∃ c, Turns (installHandler (-2) key called h upvalues) b c ∧
      Laying s mt n g type
        (Function.update entries key (some (.function ⟨called, .handler h, upvalues⟩))) c := by
  have more := laying.allocFunction ⟨called, .handler h, upvalues⟩
  obtain ⟨_, _, T, functions, R⟩ := b
  obtain ⟨turns, entered⟩ := more.setEntry framed old key (x := .function ⟨functions.size⟩)
    (h := .function ⟨called, .handler h, upvalues⟩) ⟨_, rfl, Array.getElem?_push_size⟩ rfl
  exact ⟨_, (Turns.pushHandler called h upvalues).bind turns, entered⟩

/-- Integers that are entered one after the other: the last one of a name stays. The induction is on
those that are still to be entered. -/
theorem forM_installInteger (ks : List (String × Int64)) :
    ∃ c, Turns (ks.forM (installInteger (-2))) b c ∧
      Laying s mt n g type (fun key => ((Keyed.last? key ks).map .integer).or (entries key)) c := by
  induction ks generalizing b entries with
  | nil => exact ⟨b, .pure, laying⟩
  | cons k rest ih =>
    obtain ⟨turns, entered⟩ := laying.setEntry framed old k.1
      (x := .number (Number.ofInt64 k.2)) (h := .integer k.2) rfl rfl
    obtain ⟨c, others, all⟩ := ih entered
    refine ⟨c, ((Turns.push _).bind turns).bind others, ?_⟩
    -- the first integer stays only if the rest have none of its name
    convert all using 2 with key
    rw [Keyed.last?]
    cases Keyed.last? key rest with
    | some n => rfl
    | none =>
      by_cases same : k.1 = key
      · subst same
        simp
      · simp [same, Ne.symm same]

/-- The library is locked, and keeps its entries. -/
theorem finish (isObject : Bool) :
    ∃ c, Turns (finishLibrary isObject) b c ∧ c.Library ⟨n⟩ ⟨n + 1⟩ type entries ∧
      c.table c.state.globals = g.entered type (.table ⟨n⟩) := by
  obtain ⟨_, _, T, functions, R⟩ := b
  obtain rfl := laying.state
  obtain rfl := laying.size
  have apart : (⟨n⟩ : TableId) ≠ mt := (TableId.ne_add old 0).symm
  have apart' : (⟨n + 1⟩ : TableId) ≠ mt := (TableId.ne_add old 1).symm
  have second : (⟨n⟩ : TableId) ≠ ⟨n + 1⟩ := TableId.ne_add (Nat.lt_succ_self n) 0
  refine ⟨_, turns_finishLibrary framed (Nat.lt_add_right 2 old)
    (Nat.lt_succ_of_lt (Nat.lt_succ_self n)) (Nat.lt_succ_self _) (laying.free (.inl rfl))
    (laying.free (.inr (.inr rfl))) laying.serves.tag isObject,
    ⟨laying.serves.mono (fun _ _ known => known) ?_ (fun key => ?_) fun key own => ?_,
      readonly_lockedShelf (.inr (.inl rfl)), readonly_lockedShelf (.inr (.inr rfl))⟩,
    ?_⟩
  · refine metatable_lockedShelf.trans ?_
    rw [markedShelf_other apart]
  · refine (lockedShelf_other apart fun same => absurd same second).trans ?_
    rw [markedShelf_other apart]
  · refine (lockedShelf_other apart' fun _ => Ne.symm own).trans ?_
    rw [markedShelf_other apart']
  · have not_mt := laying.apart (.inl rfl)
    have not_lib := laying.apart (.inr (.inl rfl))
    have not_libMt := laying.apart (.inr (.inr rfl))
    refine (lockedShelf_apart not_mt not_lib not_libMt).trans ?_
    rw [markedShelf_other not_mt]
    exact laying.global

end Laying

end Laying

/-! ## Opening a library -/

section Opening

variable {w u : World} {s : State} {mt : TableId}

/-- What is laid out above a metatable becomes a global only if the globals are not locked. -/
theorem laying_makeLibrary (framed : s.Framed) (top : w.state = s.push (.table mt))
    (mt_made : mt.index < w.tables.size) (mt_free : (w.table mt).readonly = false)
    (not_globals : mt ≠ s.globals) (globals_made : s.globals.index < w.tables.size)
    {name metatable : String}
    (ok : (layLibrary name metatable >>= fun _ => setGlobal name) w = (.ok (), u)) :
    Laying s mt w.tables.size (w.table s.globals) name (fun _ => none) u.view := by
  have free : (w.table s.globals).readonly = false := by
    refine Bool.eq_false_iff.mpr fun locked => ?_
    obtain ⟨_, _, _, -, -, refused, -⟩ :=
      run_makeLibrary framed top mt_made mt_free globals_made name metatable
    cases ok.symm.trans (refused locked)
  obtain ⟨b, turns, laying⟩ := turns_makeLibrary (F := w.functions) (R := w.registries) framed
    mt_made not_globals globals_made mt_free free (fun new => World.table_empty new) name metatable
  obtain ⟨v, ran, rfl⟩ := turns w (by rw [World.view, top])
  obtain rfl : v = u := (Prod.mk.inj (ran.symm.trans ok)).2
  exact laying

/-- A library that is made is a new table, whether or not the metatable that it is for is. -/
theorem laying_newLibrary (orderly : w.Orderly) {name metatable : String}
    (ok : newLibrary name metatable w = (.ok (), u)) :
    ∃ s mt n, s.Framed ∧ mt.index < n ∧
      Laying s mt n (w.table w.state.globals) name (fun _ => none) u.view := by
  have free {x : World} {s : State} {mt : TableId}
      (above : discard (newMetatable metatable) w = (.ok (), x)) (framed : s.Framed)
      (top : x.state = s.push (.table mt)) : (x.table mt).readonly = false ∧
        (layLibrary name metatable >>= fun _ => setGlobal name) x = (.ok (), u) := by
    rw [run_newLibrary above framed top] at ok
    split at ok
    · cases ok
    next free => exact ⟨Bool.eq_false_iff.mpr free, ok⟩
  cases registered : w.metatableNamed metatable with
  | some mt =>
    obtain ⟨mt_free, ok⟩ := free (run_newMetatable_registered registered) orderly.framed rfl
    have mt_made := orderly.housed.of_named registered
    exact ⟨w.state, mt, w.tables.size, orderly.framed, mt_made,
      laying_makeLibrary (w := { w with state := w.state.push (.table mt) }) orderly.framed rfl
        mt_made mt_free (orderly.rooted.ne_globals registered) orderly.rooted.made ok⟩
  -- the metatable is made first, and the library comes after it
  | none =>
    let x := w.registering metatable
    have framed : x.state.Framed := orderly.framed
    have pushed : discard (newMetatable metatable) w =
        (.ok (), { x with state := x.state.push (.table ⟨w.tables.size⟩) }) := by
      rw [run_discard, run_newMetatable, registered]
    have size : x.tables.size = w.tables.size + 1 := Array.size_push ..
    have mt_made : w.tables.size < x.tables.size := by omega
    have globals_made : w.state.globals.index < w.tables.size := orderly.rooted.made
    obtain ⟨mt_free, ok⟩ := free pushed framed rfl
    have laying := laying_makeLibrary
      (w := { x with state := x.state.push (.table ⟨w.tables.size⟩) }) framed rfl mt_made mt_free
      (TableId.ne_add globals_made 0).symm (Nat.lt_trans globals_made mt_made) ok
    rw [← w.table_push_empty]
    exact ⟨x.state, ⟨w.tables.size⟩, x.tables.size, framed, mt_made, laying⟩

/-- What an operation that succeeds for sure has done. -/
theorem Turns.after {act : ScriptM Unit} {b : View} (turns : Turns act w.view b)
    (ok : act w = (.ok (), u)) : u.view = b := by
  obtain ⟨v, ran, view⟩ := turns w rfl
  rw [← view, (Prod.mk.inj (ran.symm.trans ok)).2]

end Opening

/-- A way to open libraries, each under a name of its own and with entries of its own. -/
structure Lays {α : Type} (act : α → ScriptM Unit) (nameOf : α → String)
    (entriesOf : α → String → Option Held) : Prop where
  evolving (x : α) : Evolving (act x)
  spares (x : α) (t : TableId) (c : Table) : Keeps (World.Frozen t c) (act x)
  leaves {w v : World} {x : α} (orderly : w.Orderly) (ok : act x w = (.ok (), v)) :
    ∃ lib libMt, v.view.Library lib libMt (nameOf x) (entriesOf x) ∧
      v.table v.state.globals = (w.table w.state.globals).entered (nameOf x) (.table lib)

section Lays

variable {α : Type} {act : α → ScriptM Unit} {nameOf : α → String}
  {entriesOf : α → String → Option Held} (lays : Lays act nameOf entriesOf) {w v : World}
  (orderly : w.Orderly) {xs : List α}
include lays orderly

/-- A library is not touched while others are opened, and stays under its name. -/
theorem Lays.keeps {lib libMt : TableId} {name : String} {entries : String → Option Held}
    (library : w.view.Library lib libMt name entries)
    (global : (w.table w.state.globals).field name = .table lib) (new : name ∉ xs.map nameOf)
    (ok : xs.forM act w = (.ok (), v)) :
    v.view.Library lib libMt name entries ∧
      (v.table v.state.globals).field name = .table lib := by
  induction xs generalizing w with
  | nil =>
    cases ok
    exact ⟨library, global⟩
  | cons x rest ih =>
    rw [List.map_cons, List.mem_cons, not_or] at new
    obtain ⟨_, u, first, others⟩ := run_bind_eq_ok.mp ok
    have evolves := (lays.evolving x).ran first
    obtain ⟨lib', -, -, entered⟩ := lays.leaves orderly first
    -- the library is locked, and another name is entered among the globals
    refine ih (evolves.orderly orderly) (library.later evolves.grown fun t locked => ?_) ?_ new.2
      others
    · exact (Keeps.after (P := World.Frozen t _) (lays.spares x t _) first ⟨locked, rfl⟩).2
    · rw [entered, Table.field_entered_other (Ne.symm new.1), global]

/-- Libraries of different names are opened one after the other. The induction is on those that are
still to be opened. -/
theorem Lays.forM (nodup : (xs.map nameOf).Nodup) (ok : xs.forM act w = (.ok (), v)) :
    ∀ x ∈ xs, ∃ lib libMt, v.view.Library lib libMt (nameOf x) (entriesOf x) ∧
      (v.table v.state.globals).field (nameOf x) = .table lib := by
  induction xs generalizing w with
  | nil => exact fun x hx => absurd hx List.not_mem_nil
  | cons y rest ih =>
    rw [List.map_cons, List.nodup_cons] at nodup
    obtain ⟨_, u, first, others⟩ := run_bind_eq_ok.mp ok
    have orderly' := ((lays.evolving y).ran first).orderly orderly
    intro x hx
    rcases List.mem_cons.mp hx with rfl | hx
    -- the first library is there at once, and the rest leave it alone
    · obtain ⟨lib, libMt, library, entered⟩ := lays.leaves orderly first
      have global : (u.table u.state.globals).field (nameOf x) = .table lib := by
        rw [entered, Table.field_entered rfl]
      exact ⟨lib, libMt, lays.keeps orderly' library global nodup.1 others⟩
    · exact ih orderly' nodup.2 others x hx

end Lays

/-! ## Builtin types and classes -/

/-- The opening of a builtin type once its library has been made. -/
def furnishBuiltin (b : Registry.Builtin) : ScriptM Unit := do
  installHandler (-3) "__namecall" "builtin_namecall" .builtinNamecall []
  installHandler (-3) "__index" "builtin_member_index" .builtinMemberIndex []
  installHandler (-3) "__tostring" "builtin_tostring" .builtinText []
  installHandler (-3) "__eq" "builtin_eq" .builtinEqual []
  installHandler (-2) "new" "builtin_ctor" .builtinCtor [.string b.name]
  finishLibrary false

section Furnish

variable {s : State} {mt : TableId} {n : Nat} {g : Table} {name : String} {a : View}
  (framed : s.Framed) (old : mt.index < n) (laying : Laying s mt n g name (fun _ => none) a)
include framed old laying

/-- The library of a builtin type has the constructor for its one entry. -/
theorem turns_furnishBuiltin (b : Registry.Builtin) :
    ∃ c, Turns (furnishBuiltin b) a c ∧ c.Library ⟨n⟩ ⟨n + 1⟩ name (Held.ofBuiltin b.name) ∧
      c.table c.state.globals = g.entered name (.table ⟨n⟩) := by
  obtain ⟨_, turns₁, laying⟩ := laying.installMetatable framed old "__namecall"
    "builtin_namecall" .builtinNamecall []
  obtain ⟨_, turns₂, laying⟩ := laying.installMetatable framed old "__index"
    "builtin_member_index" .builtinMemberIndex []
  obtain ⟨_, turns₃, laying⟩ := laying.installMetatable framed old "__tostring"
    "builtin_tostring" .builtinText []
  obtain ⟨_, turns₄, laying⟩ := laying.installMetatable framed old "__eq"
    "builtin_eq" .builtinEqual []
  obtain ⟨_, turns₅, laying⟩ := laying.installEntry framed old "new" "builtin_ctor"
    .builtinCtor [.string b.name]
  obtain ⟨c, turns₆, library, global⟩ := laying.finish framed old false
  refine ⟨c, turns₁.bind (turns₂.bind (turns₃.bind (turns₄.bind (turns₅.bind turns₆)))), ?_, global⟩
  -- its one entry is the constructor
  convert library using 1
  funext key
  rw [Held.ofBuiltin, Function.update_apply]

/-- The library of a class has the constructor, unless an integer of the same name takes its place.
-/
theorem turns_furnishClass (k : Registry.Class) :
    ∃ c, Turns (furnishClass k) a c ∧
      c.Library ⟨n⟩ ⟨n + 1⟩ name (Held.ofClass k.name k.isInstantiable k.constants) ∧
      c.table c.state.globals = g.entered name (.table ⟨n⟩) := by
  obtain ⟨_, turns₁, laying⟩ := laying.installMetatable framed old "__namecall"
    "class_namecall" .classNamecall []
  obtain ⟨_, turns₂, laying⟩ := laying.installMetatable framed old "__tostring"
    "object_tostring" .objectText []
  obtain ⟨_, turns₃, laying⟩ := laying.installMetatable framed old "__eq"
    "object_eq" .objectEqual []
  -- the integers come after the constructor, and may take its place
  unfold furnishClass
  cases k.isInstantiable with
  | true =>
    obtain ⟨_, turns₄, laying⟩ := laying.installEntry framed old "new" "class_ctor" .classCtor
      [.string k.name]
    obtain ⟨_, turns₅, laying⟩ := laying.forM_installInteger framed old k.constants
    obtain ⟨c, turns₆, library, global⟩ := laying.finish framed old true
    refine ⟨c, turns₁.bind (turns₂.bind (turns₃.bind (turns₄.bind (turns₅.bind turns₆)))), ?_, global⟩
    convert library using 1
    funext key
    rw [Held.ofClass, Function.update_apply]
    rfl
  | false =>
    obtain ⟨_, turns₄, laying⟩ := laying.installEntry framed old "new" "class_no_ctor" .classNoCtor
      [.string k.name]
    obtain ⟨_, turns₅, laying⟩ := laying.forM_installInteger framed old k.constants
    obtain ⟨c, turns₆, library, global⟩ := laying.finish framed old true
    refine ⟨c, turns₁.bind (turns₂.bind (turns₃.bind (turns₄.bind (turns₅.bind turns₆)))), ?_, global⟩
    convert library using 1
    funext key
    rw [Held.ofClass, Function.update_apply]
    rfl

end Furnish

/-- A library is left if what follows once it has been made leaves one. -/
theorem leaves_library {name : String} {entries : String → Option Held} {furnish : ScriptM Unit}
    (turns : ∀ {s : State} {mt : TableId} {n : Nat} {g : Table} {a : View}, s.Framed →
      mt.index < n → Laying s mt n g name (fun _ => none) a →
        ∃ c, Turns furnish a c ∧ c.Library ⟨n⟩ ⟨n + 1⟩ name entries ∧
          c.table c.state.globals = g.entered name (.table ⟨n⟩))
    {w v : World} (orderly : w.Orderly)
    (ok : (newLibrary name name >>= fun _ => furnish) w = (.ok (), v)) :
    ∃ lib libMt, v.view.Library lib libMt name entries ∧
      v.table v.state.globals = (w.table w.state.globals).entered name (.table lib) := by
  obtain ⟨_, u, made, furnished⟩ := run_bind_eq_ok.mp ok
  obtain ⟨s, mt, n, framed, old, laying⟩ := laying_newLibrary orderly made
  obtain ⟨c, turns, library, global⟩ := turns framed old laying
  obtain rfl := turns.after furnished
  exact ⟨_, _, library, global⟩

/-- Builtin types are opened one by one, each with its constructor. -/
theorem lays_builtin : Lays openBuiltin (fun b => b.name) fun b => Held.ofBuiltin b.name where
  evolving := Evolving.openBuiltin
  spares b _ _ := Sparing.openBuiltin b
  leaves {_ _ b} orderly ok :=
    leaves_library (fun framed old laying => turns_furnishBuiltin framed old laying b) orderly ok

/-- Classes are opened one by one, each with its constructor and its integers. -/
theorem lays_class :
    Lays openClass (fun k => k.name) fun k => Held.ofClass k.name k.isInstantiable k.constants where
  evolving := Evolving.openClass
  spares k _ _ := Sparing.openClass k
  leaves {_ _ k} orderly ok :=
    leaves_library (fun framed old laying => turns_furnishClass framed old laying k) orderly ok

/-! ## The groups -/

section Groups

variable {w v : World} {c : Context} {d : Api.Document} {count : Nat} (orderly : w.Orderly)
  (context : w.state.context = some c) (built : Registry.ofApi d = .ok (w.registry c.registry))
include orderly context built

/-- Once the builtin types have been opened, each of them that has a library has it. -/
theorem libraries_openBuiltins (ok : openBuiltins w = (.ok count, v)) :
    ∀ b ∈ libraryTypes (w.registry c.registry), ∃ lib libMt,
      v.view.Library lib libMt b.name (Held.ofBuiltin b.name) ∧
        (v.table v.state.globals).field b.name = .table lib := by
  have opened : (libraryTypes (w.registry c.registry)).forM openBuiltin w = (.ok (), v) := by
    rw [← run_openBuiltins context, run_discard, ok]
  exact lays_builtin.forM orderly ((Registry.nodup_builtin_names built).sublist
    (List.filter_sublist.map _)) opened

/-- Once the classes have been opened, each of them has its library. -/
theorem libraries_openClasses (ok : openClasses w = (.ok count, v)) :
    ∀ k ∈ (w.registry c.registry).classes, ∃ lib libMt,
      v.view.Library lib libMt k.name (Held.ofClass k.name k.isInstantiable k.constants) ∧
        (v.table v.state.globals).field k.name = .table lib := by
  have opened : (w.registry c.registry).classes.forM openClass w = (.ok (), v) := by
    rw [← run_openClasses context, run_discard, ok]
  exact lays_class.forM orderly (Registry.ordered_classes built).name_nodup opened

end Groups

end ScriptM

end ScriptBind
