import ScriptBind.Proofs.Session.Views

/-!
# Libraries that open

A library of a name that has no metatable yet can always be opened. `Making` says how things are
from when the library is there until it is finished: what is entered meanwhile changes only tables
that are new, and `Stocking` says which entries the library has by then. `Furnishes` and `Stocks` say
the same of the finished library.

Main results:

* `stocking_newLibrary` — a library of a new name can be made.
* `Stocking.finish` — what has been made can be finished.
* `openBuiltin_stocks`, `openClass_stocks` — the library of a type or class opens, with its entries.
-/

namespace ScriptBind

open ScriptM

/-! ## Libraries in the making -/

/-- A view in which a library can be made: there are globals, and values can be entered there. -/
structure View.Ready (a : View) : Prop where
  framed : a.state.Framed
  inside : a.state.globals.index < a.size
  free : (a.table a.state.globals).readonly = false
  fresh {t : TableId} (new : a.size ≤ t.index) : a.table t = Table.empty

namespace ScriptM

/-- The library of a name is being made: its metatable, the library and the metatable of the library
are new and not locked, and the first two stand ready on the stack. -/
structure Making (a : View) (name : String) (b : View) : Prop where
  state : b.state =
    ({ a.state with metatables := Keyed.put name ⟨a.size⟩ a.state.metatables }.push
      (.table ⟨a.size⟩)).push (.table ⟨a.size + 1⟩)
  size : b.size = a.size + 3
  registries : b.registries = a.registries
  kept {t : TableId} (old : t.index < a.size) (other : t ≠ a.state.globals) : b.table t = a.table t
  globals : b.table a.state.globals =
    (a.table a.state.globals).entered name (.table ⟨a.size + 1⟩)
  free {t : TableId} (new : a.size ≤ t.index) : (b.table t).readonly = false
  tag : (b.table ⟨a.size + 1⟩).metatable = some ⟨a.size + 2⟩
  refers {t u : TableId} (new : a.size ≤ t.index) (h : (b.table t).Refers u) : u = ⟨a.size + 2⟩
  unmarked : (b.table ⟨a.size⟩).field objectMark = .nil

/-- What follows once the metatable lies on top of the stack. -/
theorem run_newLibrary {w u : World} {s : State} {mt : TableId} {metatable : String}
    (above : discard (newMetatable metatable) w = (.ok (), u)) (framed : s.Framed)
    (top : u.state = s.push (.table mt)) (name : String) :
    newLibrary name metatable w =
      if (u.table mt).readonly then
        (.error (.runtime ("library '" ++ name ++ "' is already open")), { u with state := s })
      else (layLibrary name metatable >>= fun _ => setGlobal name) u := by
  have lock : u.isReadonly (-1) = (u.table mt).readonly := by
    rw [World.isReadonly, top, State.toTable?, State.value?_push framed]
    rfl
  rw [newLibrary_eq, run_bind, above]
  dsimp only
  rw [run_bind, run_get]
  dsimp only
  rw [lock]
  split
  · rw [run_bind, pop, run_onState, top, State.pop_push framed]
    rfl
  · rfl

/-- A metatable that has been registered comes on top of the stack. -/
theorem run_newMetatable_registered {w : World} {mt : TableId} {metatable : String}
    (registered : w.metatableNamed metatable = some mt) :
    discard (newMetatable metatable) w = (.ok (), { w with state := w.state.push (.table mt) }) := by
  rw [run_discard, run_newMetatable, registered]

/-- Nothing happens where the metatable is locked. -/
theorem newLibrary_of_locked {w : World} {mt : TableId} {metatable : String}
    (framed : w.state.Framed) (registered : w.metatableNamed metatable = some mt)
    (locked : (w.table mt).readonly = true) (name : String) :
    newLibrary name metatable w =
      (.error (.runtime ("library '" ++ name ++ "' is already open")), w) :=
  (run_newLibrary (run_newMetatable_registered registered) framed rfl name).trans (if_pos locked)

/-- The tables once a library has been laid out; `n` is the first free number. -/
def laidShelf (T : Shelf) (mt : TableId) (n : Nat) (f : FunctionId) (name metatable : String) :
    Shelf :=
  (((T.enter mt World.typeField (.string metatable)).enter ⟨n + 1⟩ World.typeField
    (.string name)).enter ⟨n + 1⟩ "__index" (.function f)).attach ⟨n⟩ ⟨n + 1⟩

/-- The function that looks names up in a library. -/
def lookUpFunction : Function := ⟨"builtin_global_index", .handler .builtinGlobalIndex, []⟩

/-- Above an unlocked metatable a library can be laid out. -/
theorem turns_layLibrary {s : State} {n : Nat} {T : Shelf} {functions : Array Function}
    {R : Array Registry} {mt : TableId} (framed : s.Framed) (inside : mt.index < n)
    (free : (T mt).readonly = false)
    (fresh : ∀ {t : TableId}, n ≤ t.index → T t = Table.empty) (name metatable : String) :
    Turns (layLibrary name metatable) ⟨s.push (.table mt), n, T, functions, R⟩
      ⟨((s.push (.table mt)).push (.table ⟨n⟩)).push (.table ⟨n⟩), n + 2,
        laidShelf T mt n ⟨functions.size⟩ name metatable, functions.push lookUpFunction, R⟩ := by
  have unlocked {t : TableId} (new : n ≤ t.index) : (T t).readonly = false := by
    rw [fresh new]
    rfl
  have framed₁ := State.framed_push framed (.table mt)
  have framed₂ := State.framed_push framed₁ (.table ⟨n⟩)
  have framed₃ := State.framed_push framed₂ (.table ⟨n + 1⟩)
  -- the name of the type, in the metatable that stays on the stack
  refine (Turns.push _).bind ((Turns.setField framed₁ (State.checkTable_second framed _ _) inside
    free).bind ?_)
  -- the library and its own metatable, with a name and a handler
  refine Turns.pushNewTable.bind (Turns.pushNewTable.bind ((Turns.push _).bind ?_))
  refine (Turns.setField framed₃ (State.checkTable_second framed₂ _ _) (Nat.lt_succ_self _)
    ?_).bind ((Turns.pushHandler _ _ _).bind ?_)
  · rw [Shelf.readonly_enter, unlocked (Nat.le_add_right n 1)]
  refine (Turns.setField framed₃ (State.checkTable_second framed₂ _ _) (Nat.lt_succ_self _)
    ?_).bind ((Turns.setMetatable framed₂ (State.value?_second framed₁ _ _)
      (Nat.lt_succ_of_lt (Nat.lt_succ_self _)) ?_).bind ?_)
  · rw [Shelf.readonly_enter, Shelf.readonly_enter, unlocked (Nat.le_add_right n 1)]
  · rw [Shelf.readonly_enter, Shelf.readonly_enter, Shelf.readonly_enter, unlocked (Nat.le_refl n)]
  exact Turns.onState (State.pushValue_top framed₁ _)

/-- The tables once a library of a name is there. -/
def libraryShelf (T : Shelf) (n : Nat) (f : FunctionId) (globals : TableId) (name : String) : Shelf :=
  ((((T.enter ⟨n⟩ World.typeField (.string name)).enter ⟨n + 2⟩ World.typeField
    (.string name)).enter ⟨n + 2⟩ "__index" (.function f)).attach ⟨n + 1⟩
      ⟨n + 2⟩).enter globals name (.table ⟨n + 1⟩)

/-- A library of a new name can be made. -/
theorem turns_newLibrary {s : State} {n : Nat} {T : Shelf} {functions : Array Function}
    {R : Array Registry} {name : String} (ready : View.Ready ⟨s, n, T, functions, R⟩)
    (new : Keyed.get? name s.metatables = none) :
    Turns (newLibrary name name) ⟨s, n, T, functions, R⟩
      ⟨({ s with metatables := Keyed.put name ⟨n⟩ s.metatables }.push (.table ⟨n⟩)).push
        (.table ⟨n + 1⟩), n + 3, libraryShelf T n ⟨functions.size⟩ s.globals name,
        functions.push lookUpFunction, R⟩ := by
  obtain ⟨framed, inside, free, fresh⟩ := ready
  dsimp only at framed inside free fresh
  have unlocked {t : TableId} (new : n ≤ t.index) : (T t).readonly = false := by
    rw [fresh new]
    rfl
  let s₁ : State := { s with metatables := Keyed.put name ⟨n⟩ s.metatables }
  have framed₁ : s₁.Framed := framed
  have framed₂ := State.framed_push framed₁ (.table ⟨n⟩)
  have framed₃ := State.framed_push framed₂ (.table ⟨n + 1⟩)
  rw [newLibrary_eq]
  refine (Turns.newMetatable new).bind (Turns.get fun w hw => ?_)
  -- the metatable has just been made
  have fresh_metatable : w.isReadonly (-1) ≠ true := by
    have state : w.state = s₁.push (.table ⟨n⟩) := congrArg View.state hw
    have tables : w.table = T := congrArg View.table hw
    rw [World.isReadonly, state, State.toTable?, State.value?_push framed₁]
    show ¬(w.table ⟨n⟩).readonly = true
    rw [tables, unlocked (Nat.le_refl n)]
    exact Bool.false_ne_true
  rw [if_neg fresh_metatable]
  refine (turns_layLibrary framed₁ (Nat.lt_succ_self n) (unlocked (Nat.le_refl n))
    (fun new => fresh (Nat.le_of_succ_le new)) name name).bind (Turns.setGlobal framed₃
      (show s.globals.index < n + 3 by omega) ?_)
  rw [laidShelf, Shelf.readonly_attach, Shelf.readonly_enter, Shelf.readonly_enter,
    Shelf.readonly_enter]
  exact free

/-- What a library that is being made has for scripts: its entries, and in its metatable the name of
its type and the function that looks up all other names. -/
structure Stocking (a : View) (name : String) (entries : String → Value) (b : View) : Prop where
  making : Making a name b
  entry (key : String) : (b.table ⟨a.size + 1⟩).field key = entries key
  label : (b.table ⟨a.size + 2⟩).field World.typeField = .string name
  lookup : (b.table ⟨a.size + 2⟩).field "__index" = .function ⟨a.functions.size⟩
  known : b.functions[a.functions.size]? = some lookUpFunction

/-- A library of a new name has no entries at first. -/
theorem stocking_newLibrary {a : View} {name : String} (ready : a.Ready)
    (new : Keyed.get? name a.state.metatables = none) :
    ∃ b, Turns (newLibrary name name) a b ∧ Stocking a name (fun _ => .nil) b := by
  obtain ⟨s, n, T, functions, R⟩ := a
  refine ⟨_, turns_newLibrary ready new, ?_⟩
  obtain ⟨framed, inside, free, fresh⟩ := ready
  dsimp only at framed inside free fresh new
  have unlocked {t : TableId} (new : n ≤ t.index) : (T t).readonly = false := by
    rw [fresh new]
    rfl
  -- of the old tables only that of the globals has changed
  have kept {t : TableId} (old : t.index < n) :
      ((((T.enter ⟨n⟩ World.typeField (.string name)).enter ⟨n + 2⟩ World.typeField
        (.string name)).enter ⟨n + 2⟩ "__index" (.function ⟨functions.size⟩)).attach ⟨n + 1⟩
          ⟨n + 2⟩) t = T t := by
    rw [Shelf.attach_other (TableId.ne_add old 1), Shelf.enter_other (TableId.ne_add old 2),
      Shelf.enter_other (TableId.ne_add old 2)]
    exact Shelf.enter_other (TableId.ne_add old 0)
  have other (i : Nat) : (⟨n + i⟩ : TableId) ≠ s.globals := (TableId.ne_add inside i).symm
  have second : (⟨n + 1⟩ : TableId) ≠ ⟨n⟩ := (TableId.ne_add (Nat.lt_succ_self n) 0).symm
  have third : (⟨n + 1⟩ : TableId) ≠ ⟨n + 2⟩ := TableId.ne_add (Nat.lt_succ_self (n + 1)) 0
  refine ⟨⟨rfl, rfl, rfl, fun old other => ?_, ?_, fun new => ?_, ?_, fun new h => ?_, ?_⟩,
    fun key => ?_, ?_, ?_, Array.getElem?_push_size⟩
  · exact (Shelf.enter_other other).trans (kept old)
  · refine Shelf.enter_self.trans ?_
    rw [kept inside]
  · simp [libraryShelf, unlocked new]
  · simp [libraryShelf]
  -- the library refers to its metatable, and the new tables have no other tables
  · rcases Shelf.refers_enter h with h | ⟨rfl, -⟩
    · rcases Shelf.refers_attach h with h | ⟨-, rfl⟩
      · have empty := Shelf.refers_text (Shelf.refers_text (Shelf.refers_function h))
        rw [fresh new] at empty
        exact absurd empty (Table.not_refers_empty _)
      · rfl
    · exact absurd inside (Nat.not_lt.mpr new)
  · have global : (⟨n⟩ : TableId) ≠ s.globals := other 0
    rw [libraryShelf, Shelf.field_enter fun same => absurd same global, Shelf.field_attach,
      Shelf.field_enter fun _ => by decide, Shelf.field_enter fun _ => by decide,
      Shelf.field_enter fun _ => by decide, fresh (Nat.le_refl n)]
    rfl
  · show (libraryShelf T n ⟨functions.size⟩ s.globals name ⟨n + 1⟩).field key = .nil
    rw [libraryShelf, Shelf.enter_other (other 1), Shelf.field_attach, Shelf.enter_other third,
      Shelf.enter_other third, Shelf.enter_other second, fresh (Nat.le_add_right n 1)]
    rfl
  · show (libraryShelf T n ⟨functions.size⟩ s.globals name ⟨n + 2⟩).field World.typeField = .string name
    rw [libraryShelf, Shelf.enter_other (other 2), Shelf.field_attach,
      Shelf.field_enter fun _ => by decide, Shelf.enter_self, Table.field_entered rfl]
  · show (libraryShelf T n ⟨functions.size⟩ s.globals name ⟨n + 2⟩).field "__index" = _
    rw [libraryShelf, Shelf.enter_other (other 2), Shelf.field_attach, Shelf.enter_self,
      Table.field_entered rfl]

namespace Making

variable {a b : View} {name : String} (ready : a.Ready) (making : Making a name b)
include ready making

/-- Entries into new tables are free, but for the mark of object metatables. -/
theorem enter {t : TableId} (new : a.size ≤ t.index) {key : String}
    (spared : t = ⟨a.size⟩ → key ≠ objectMark) {x : Value} (plain : ∀ u, x ≠ .table u) :
    Making a name { b with table := b.table.enter t key x } where
  state := making.state
  size := making.size
  registries := making.registries
  -- a new table is none of the old ones, that of the globals included
  kept old other := by
    refine (Shelf.enter_other ?_).trans (making.kept old other)
    rintro rfl
    exact absurd old (Nat.not_lt.mpr new)
  globals := by
    refine (Shelf.enter_other ?_).trans making.globals
    intro same
    exact absurd ready.inside (Nat.not_lt.mpr (same ▸ new))
  free new' := Shelf.readonly_enter.trans (making.free new')
  tag := Shelf.metatable_enter.trans making.tag
  refers new' h := making.refers new' (Shelf.refers_plain plain h)
  unmarked := (Shelf.field_enter fun here => spared here.symm).trans making.unmarked

/-- The metatable lies third from the top when a value is entered, and the library second. -/
theorem turns_setField {index : Int} {i : Nat} (place : index = -3 ∧ i = 0 ∨ index = -2 ∧ i = 1)
    (key : String) (x : Value) :
    Turns (ScriptM.setField index key) { b with state := b.state.push x }
      { b with table := b.table.enter ⟨a.size + i⟩ key x } := by
  obtain ⟨s, n, T, functions, R⟩ := b
  obtain rfl := making.state
  obtain rfl := making.size
  have framed : ({ a.state with
    metatables := Keyed.put name ⟨a.size⟩ a.state.metatables } : State).Framed := ready.framed
  have framed' := State.framed_push framed (.table ⟨a.size⟩)
  have framed'' := State.framed_push framed' (.table ⟨a.size + 1⟩)
  rcases place with ⟨rfl, rfl⟩ | ⟨rfl, rfl⟩
  · exact Turns.setField framed'' (State.checkTable_third framed _ _ x)
      (Nat.lt_add_of_pos_right (by decide)) (making.free (Nat.le_refl _))
  · exact Turns.setField framed'' (State.checkTable_second framed' _ x)
      (Nat.lt_succ_of_lt (Nat.lt_succ_self _)) (making.free (Nat.le_succ _))

omit ready in
/-- A new function changes nothing. -/
theorem allocFunction (functions : Array Function) : Making a name { b with functions } :=
  ⟨making.state, making.size, making.registries, making.kept, making.globals, making.free,
    making.tag, making.refers, making.unmarked⟩

end Making

namespace Stocking

variable {a b : View} {name : String} {entries : String → Value} (ready : a.Ready)
  (stocking : Stocking a name entries b)
include ready stocking

/-- What is entered into the metatable of a library is none of its entries. -/
theorem installMetatable (key called : String) (h : Handler) (upvalues : List Value)
    (unmarked : key ≠ objectMark) :
    ∃ c, Turns (installHandler (-3) key called h upvalues) b c ∧ Stocking a name entries c := by
  obtain ⟨s, n, T, functions, R⟩ := b
  have making : Making a name ⟨s, n, T, functions.push ⟨called, .handler h, upvalues⟩, R⟩ :=
    stocking.making.allocFunction _
  have first (i : Nat) : (⟨a.size + (i + 1)⟩ : TableId) ≠ ⟨a.size⟩ :=
    (TableId.ne_add (show a.size < a.size + (i + 1) by omega) 0).symm
  refine ⟨_, (Turns.pushHandler called h upvalues).bind
    (making.turns_setField ready (.inl ⟨rfl, rfl⟩) key (.function ⟨functions.size⟩)),
    making.enter ready (Nat.le_refl _) (fun _ => unmarked) nofun, fun k => ?_, ?_, ?_,
    getElem?_push_kept stocking.known _⟩
  · exact (congrArg (fun t => Table.field t k) (Shelf.enter_other (first 0))).trans
      (stocking.entry k)
  · exact (congrArg (fun t => Table.field t _) (Shelf.enter_other (first 1))).trans stocking.label
  · exact (congrArg (fun t => Table.field t _) (Shelf.enter_other (first 1))).trans stocking.lookup

/-- A value that is entered into the library is an entry. -/
theorem setEntry (key : String) {x : Value} (something : x.isNil = false)
    (plain : ∀ u, x ≠ .table u) :
    Turns (setField (-2) key) { b with state := b.state.push x }
        { b with table := b.table.enter ⟨a.size + 1⟩ key x } ∧
      Stocking a name (Function.update entries key x)
        { b with table := b.table.enter ⟨a.size + 1⟩ key x } := by
  -- the three tables of a library are numbered one after the other
  have first : (⟨a.size + 1⟩ : TableId) ≠ ⟨a.size⟩ :=
    (TableId.ne_add (Nat.lt_succ_self a.size) 0).symm
  have second : (⟨a.size + 2⟩ : TableId) ≠ ⟨a.size + 1⟩ :=
    (TableId.ne_add (Nat.lt_succ_self (a.size + 1)) 0).symm
  refine ⟨stocking.making.turns_setField ready (.inr ⟨rfl, rfl⟩) key x,
    stocking.making.enter ready (Nat.le_succ _) (fun same => absurd same first) plain,
    fun k => ?_, ?_, ?_, stocking.known⟩
  · refine (congrArg (fun t => Table.field t k) Shelf.enter_self).trans ?_
    by_cases same : k = key
    · subst same
      rw [Table.field_entered something, Function.update_self]
    · rw [Table.field_entered_other (Ne.symm same), Function.update_of_ne same, stocking.entry]
  · exact (congrArg (fun t => Table.field t _) (Shelf.enter_other second)).trans stocking.label
  · exact (congrArg (fun t => Table.field t _) (Shelf.enter_other second)).trans stocking.lookup

theorem installEntry (key called : String) (h : Handler) (upvalues : List Value) :
    ∃ c f, Turns (installHandler (-2) key called h upvalues) b c ∧
      Stocking a name (Function.update entries key (.function f)) c := by
  obtain ⟨s, n, T, functions, R⟩ := b
  have more : Stocking a name entries ⟨s, n, T, functions.push ⟨called, .handler h, upvalues⟩, R⟩ :=
    ⟨stocking.making.allocFunction _, stocking.entry, stocking.label, stocking.lookup,
      getElem?_push_kept stocking.known _⟩
  obtain ⟨turns, entered⟩ := more.setEntry ready key (x := .function ⟨functions.size⟩) rfl nofun
  exact ⟨_, _, (Turns.pushHandler called h upvalues).bind turns, entered⟩

/-- Integers that are entered one after the other. -/
theorem forM_installInteger (ks : List (String × Int64)) :
    ∃ c, Turns (ks.forM (installInteger (-2))) b c ∧
      Stocking a name (fun key => ((Keyed.last? key ks).map fun n =>
        .number (Number.ofInt64 n)).getD (entries key)) c := by
  -- on the integers: the last one of a name is what remains under it
  induction ks generalizing b entries with
  | nil => exact ⟨b, .pure, stocking⟩
  | cons k rest ih =>
    obtain ⟨turns, entered⟩ := stocking.setEntry ready k.1 (x := .number (Number.ofInt64 k.2)) rfl
      nofun
    obtain ⟨c, others, all⟩ := ih entered
    refine ⟨c, ((Turns.push _).bind turns).bind others, ?_⟩
    convert all using 2 with key
    rw [Keyed.last?]
    cases Keyed.last? key rest with
    | some n => rfl
    | none =>
      by_cases same : k.1 = key
      · subst same
        simp
      · simp [same, Ne.symm same]

end Stocking

/-! ## Finished libraries -/

/-- A library of a name has been opened: it stands under the name and its metatable is registered
under it, all new tables are locked, and the metatable has the mark of objects if it is to have
it. -/
structure Furnishes (a : View) (name : String) (isObject : Bool) (b : View) : Prop where
  state : b.state = { a.state with metatables := Keyed.put name ⟨a.size⟩ a.state.metatables }
  size : b.size = a.size + 3
  registries : b.registries = a.registries
  kept {t : TableId} (old : t.index < a.size) (other : t ≠ a.state.globals) : b.table t = a.table t
  globals : b.table a.state.globals =
    (a.table a.state.globals).entered name (.table ⟨a.size + 1⟩)
  locked {t : TableId} (new : a.size ≤ t.index) (made : t.index < b.size) :
    (b.table t).readonly = true
  refers {t u : TableId} (new : a.size ≤ t.index) (h : (b.table t).Refers u) : u = ⟨a.size + 2⟩
  mark : ((b.table ⟨a.size⟩).field objectMark).isTruthy = isObject

/-- The tables once a library is locked together with its metatable and the metatable of the
library. -/
def lockedShelf (T : Shelf) (mt lib libMt : TableId) : Shelf :=
  ((((T.enter mt "__metatable" (.string lockedMetatable)).enter libMt "__metatable"
    (.string lockedMetatable)).lock libMt).lock mt).lock lib

theorem turns_lockLibrary {s : State} {n : Nat} {T : Shelf} {functions : Array Function}
    {R : Array Registry} {mt lib libMt : TableId} (framed : s.Framed) (mt_in : mt.index < n) (lib_in : lib.index < n)
    (libMt_in : libMt.index < n) (mt_free : (T mt).readonly = false)
    (libMt_free : (T libMt).readonly = false) (tag : (T lib).metatable = some libMt) :
    Turns (lockLibrary mt lib)
      ⟨(s.push (.table mt)).push (.table lib), n, T, functions, R⟩
      ⟨s, n, lockedShelf T mt lib libMt, functions, R⟩ := by
  refine (Turns.setText mt_in mt_free _ _).bind (Turns.get fun w hw => ?_)
  have tables := congrArg View.table hw
  have found : (w.table lib).metatable = some libMt := by
    rw [show w.table = _ from tables, Shelf.metatable_enter, tag]
  simp only [found]
  refine (Turns.setText libMt_in ?_ _ _).bind ((Turns.setReadonly libMt_in).bind
    ((Turns.setReadonly mt_in).bind ((Turns.setReadonly lib_in).bind
      (Turns.pop (State.pop_second framed _ _)))))
  rw [Shelf.readonly_enter, libMt_free]

theorem readonly_lockedShelf {T : Shelf} {mt lib libMt t : TableId}
    (made : t = mt ∨ t = lib ∨ t = libMt) : (lockedShelf T mt lib libMt t).readonly = true := by
  rcases made with rfl | rfl | rfl
  · exact Shelf.readonly_lock_of Shelf.readonly_lock
  · exact Shelf.readonly_lock
  · exact Shelf.readonly_lock_of (Shelf.readonly_lock_of Shelf.readonly_lock)

theorem metatable_lockedShelf {T : Shelf} {mt lib libMt t : TableId} :
    (lockedShelf T mt lib libMt t).metatable = (T t).metatable := by
  simp [lockedShelf]

/-- No table but the three is touched. -/
theorem lockedShelf_apart {T : Shelf} {mt lib libMt t : TableId} (not_mt : t ≠ mt)
    (not_lib : t ≠ lib) (not_libMt : t ≠ libMt) : lockedShelf T mt lib libMt t = T t := by
  rw [lockedShelf, Shelf.lock_other not_lib, Shelf.lock_other not_mt, Shelf.lock_other not_libMt,
    Shelf.enter_other not_libMt, Shelf.enter_other not_mt]

/-- The tables once a metatable has the mark of objects, if it is to have it. -/
def markedShelf (T : Shelf) (mt : TableId) (isObject : Bool) : Shelf :=
  if isObject then T.enter mt objectMark (.boolean true) else T

/-- A library can be finished as long as neither its metatable nor the one that it is for is
locked. The mark is entered before anything is locked. -/
theorem turns_finishLibrary {s : State} {n : Nat} {T : Shelf} {functions : Array Function}
    {R : Array Registry} {mt lib libMt : TableId} (framed : s.Framed) (mt_in : mt.index < n) (lib_in : lib.index < n)
    (libMt_in : libMt.index < n) (mt_free : (T mt).readonly = false)
    (libMt_free : (T libMt).readonly = false) (tag : (T lib).metatable = some libMt)
    (isObject : Bool) :
    Turns (finishLibrary isObject) ⟨(s.push (.table mt)).push (.table lib), n, T, functions, R⟩
      ⟨s, n, lockedShelf (markedShelf T mt isObject) mt lib libMt, functions, R⟩ := by
  refine Turns.check (State.checkTable_top (State.framed_push framed _) _) (Turns.check
    (State.checkTable_second framed _ _) ?_)
  cases isObject with
  | false => exact turns_lockLibrary framed mt_in lib_in libMt_in mt_free libMt_free tag
  | true =>
    exact (Turns.setText mt_in mt_free _ _).bind
      (turns_lockLibrary framed mt_in lib_in libMt_in (Shelf.readonly_enter.trans mt_free)
        (Shelf.readonly_enter.trans libMt_free) (Shelf.metatable_enter.trans tag))

theorem Making.furnishes {a b : View} {name : String} (ready : a.Ready) (making : Making a name b)
    {isObject : Bool} {T : Shelf} (others : ∀ t, t ≠ ⟨a.size⟩ → T t = b.table t)
    (refers : ∀ {t u : TableId}, a.size ≤ t.index → (T t).Refers u → u = ⟨a.size + 2⟩)
    (mark : ((T ⟨a.size⟩).field objectMark).isTruthy = isObject) :
    Furnishes a name isObject
      { b with
        state := { a.state with metatables := Keyed.put name ⟨a.size⟩ a.state.metatables }
        table := lockedShelf T ⟨a.size⟩ ⟨a.size + 1⟩ ⟨a.size + 2⟩ } := by
  have kept {t : TableId} (old : t.index < a.size) :
      lockedShelf T ⟨a.size⟩ ⟨a.size + 1⟩ ⟨a.size + 2⟩ t = b.table t := by
    have apart : t ≠ ⟨a.size⟩ := TableId.ne_add old 0
    rw [lockedShelf_apart apart (TableId.ne_add old 1) (TableId.ne_add old 2), others t apart]
  refine ⟨rfl, making.size, making.registries, fun old other => ?_, ?_, fun {t} new made => ?_,
    fun new h => ?_, ?_⟩
  · exact (kept old).trans (making.kept old other)
  · exact (kept ready.inside).trans making.globals
  -- three tables are new
  · have made : t.index < a.size + 3 := making.size ▸ made
    obtain ⟨index⟩ := t
    obtain rfl | rfl | rfl : index = a.size ∨ index = a.size + 1 ∨ index = a.size + 2 := by
      dsimp only at new made
      omega
    · exact readonly_lockedShelf (.inl rfl)
    · exact readonly_lockedShelf (.inr (.inl rfl))
    · exact readonly_lockedShelf (.inr (.inr rfl))
  · rw [lockedShelf, Shelf.refers_lock, Shelf.refers_lock, Shelf.refers_lock] at h
    exact refers new (Shelf.refers_text (Shelf.refers_text h))
  · show ((lockedShelf T ⟨a.size⟩ ⟨a.size + 1⟩ ⟨a.size + 2⟩ ⟨a.size⟩).field objectMark).isTruthy = _
    rw [lockedShelf, Shelf.field_lock, Shelf.field_lock, Shelf.field_lock,
      Shelf.field_enter fun _ => by decide, Shelf.field_enter fun _ => by decide, mark]

/-- A finished library of a name with its entries. -/
structure Stocks (a : View) (name : String) (isObject : Bool) (entries : String → Value) (b : View) :
    Prop where
  furnishes : Furnishes a name isObject b
  entry (key : String) : (b.table ⟨a.size + 1⟩).field key = entries key
  tag : (b.table ⟨a.size + 1⟩).metatable = some ⟨a.size + 2⟩
  label : (b.table ⟨a.size + 2⟩).field World.typeField = .string name
  lookup : (b.table ⟨a.size + 2⟩).field "__index" = .function ⟨a.functions.size⟩
  known : b.functions[a.functions.size]? = some lookUpFunction

/-- What stands in a library is not touched when it is locked. -/
theorem lockedShelf_other {T : Shelf} {mt lib libMt t : TableId} {key : String}
    (apart : t ≠ mt) (other : t = libMt → "__metatable" ≠ key) :
    (lockedShelf T mt lib libMt t).field key = (T t).field key := by
  rw [lockedShelf, Shelf.field_lock, Shelf.field_lock, Shelf.field_lock, Shelf.field_enter other,
    Shelf.enter_other apart]

theorem markedShelf_other {T : Shelf} {mt t : TableId} {isObject : Bool} (apart : t ≠ mt) :
    markedShelf T mt isObject t = T t := by
  cases isObject with
  | false => rfl
  | true => exact Shelf.enter_other apart

/-- What has been made can be finished. -/
theorem Stocking.finish {a b : View} {name : String} {entries : String → Value} (ready : a.Ready)
    (stocking : Stocking a name entries b) (isObject : Bool) :
    ∃ c, Turns (finishLibrary isObject) b c ∧ Stocks a name isObject entries c := by
  obtain ⟨making, entry, label, lookup, known⟩ := stocking
  obtain ⟨s, n, T, functions, R⟩ := b
  obtain rfl := making.state
  obtain rfl := making.size
  have framed : ({ a.state with
    metatables := Keyed.put name ⟨a.size⟩ a.state.metatables } : State).Framed := ready.framed
  have first (i : Nat) : (⟨a.size + (i + 1)⟩ : TableId) ≠ ⟨a.size⟩ :=
    (TableId.ne_add (show a.size < a.size + (i + 1) by omega) 0).symm
  have second : (⟨a.size + 1⟩ : TableId) ≠ ⟨a.size + 2⟩ := TableId.ne_add (Nat.lt_succ_self _) 0
  -- the mark goes into the metatable of instances, and locking changes no entries
  have furnishes : Furnishes a name isObject
      { state := { a.state with metatables := Keyed.put name ⟨a.size⟩ a.state.metatables }
        size := a.size + 3
        table := lockedShelf (markedShelf T ⟨a.size⟩ isObject) ⟨a.size⟩ ⟨a.size + 1⟩ ⟨a.size + 2⟩
        functions
        registries := R } := by
    refine making.furnishes ready (fun _ other => markedShelf_other other) (fun new h => ?_) ?_
    · cases isObject with
      | false => exact making.refers new h
      | true => exact making.refers new (Shelf.refers_plain (v := .boolean true) nofun h)
    · cases isObject with
      | false =>
        show ((T ⟨a.size⟩).field objectMark).isTruthy = false
        rw [making.unmarked]
        rfl
      | true =>
        show ((T.enter ⟨a.size⟩ objectMark (.boolean true) ⟨a.size⟩).field objectMark).isTruthy = true
        rw [Shelf.enter_self, Table.field_entered rfl]
        rfl
  refine ⟨_, turns_finishLibrary framed (Nat.lt_add_of_pos_right (by decide))
    (Nat.lt_succ_of_lt (Nat.lt_succ_self _)) (Nat.lt_succ_self _) (making.free (Nat.le_refl _))
    (making.free (Nat.le_add_right ..)) making.tag isObject, furnishes, fun key => ?_, ?_, ?_, ?_,
    known⟩
  · refine (lockedShelf_other (first 0) fun same => absurd same second).trans ?_
    rw [markedShelf_other (first 0)]
    exact entry key
  · refine metatable_lockedShelf.trans ?_
    rw [markedShelf_other (first 0)]
    exact making.tag
  · refine (lockedShelf_other (first 1) fun _ => by decide).trans ?_
    rw [markedShelf_other (first 1)]
    exact label
  · refine (lockedShelf_other (first 1) fun _ => by decide).trans ?_
    rw [markedShelf_other (first 1)]
    exact lookup

/-! ## One library -/

/-- The library of a builtin type has no entry but `new`. -/
theorem openBuiltin_stocks {a : View} (ready : a.Ready) {b : Registry.Builtin}
    (new : Keyed.get? b.name a.state.metatables = none) :
    ∃ c entries, Turns (openBuiltin b) a c ∧ Stocks a b.name false entries c ∧
      ∀ key ≠ "new", entries key = .nil := by
  obtain ⟨_, turns₀, stocking⟩ := stocking_newLibrary ready new
  obtain ⟨_, turns₁, stocking⟩ := stocking.installMetatable ready "__namecall" "builtin_namecall"
    .builtinNamecall [] (by decide)
  obtain ⟨_, turns₂, stocking⟩ := stocking.installMetatable ready "__index" "builtin_member_index"
    .builtinMemberIndex [] (by decide)
  obtain ⟨_, turns₃, stocking⟩ := stocking.installMetatable ready "__tostring" "builtin_tostring"
    .builtinText [] (by decide)
  obtain ⟨_, turns₄, stocking⟩ := stocking.installMetatable ready "__eq" "builtin_eq"
    .builtinEqual [] (by decide)
  obtain ⟨_, _, turns₅, stocking⟩ := stocking.installEntry ready "new" "builtin_ctor"
    .builtinCtor [.string b.name]
  obtain ⟨c, turns₆, stocks⟩ := stocking.finish ready false
  exact ⟨c, _, turns₀.bind (turns₁.bind (turns₂.bind (turns₃.bind (turns₄.bind
    (turns₅.bind turns₆))))), stocks, fun key other => Function.update_of_ne other ..⟩

/-- The end of a class library: its constants are entered before it is locked. -/
theorem Stocking.finishClass {a b : View} {name : String} {entries : String → Value}
    (ready : a.Ready) (stocking : Stocking a name entries b) (constants : List (String × Int64)) :
    ∃ c entries, Turns (constants.forM (installInteger (-2)) >>= fun _ => finishLibrary true) b c ∧
      Stocks a name true entries c ∧ ∀ key, ∀ n ∈ Keyed.last? key constants,
        entries key = .number (Number.ofInt64 n) := by
  obtain ⟨_, turns, stocking⟩ := stocking.forM_installInteger ready constants
  obtain ⟨c, turns', stocks⟩ := stocking.finish ready true
  refine ⟨c, _, turns.bind turns', stocks, fun key n found => ?_⟩
  rw [found]
  rfl

/-- The library of a class has its integers as entries. -/
theorem openClass_stocks {a : View} (ready : a.Ready) {k : Registry.Class}
    (new : Keyed.get? k.name a.state.metatables = none) :
    ∃ c entries, Turns (openClass k) a c ∧ Stocks a k.name true entries c ∧
      ∀ key, ∀ n ∈ Keyed.last? key k.constants, entries key = .number (Number.ofInt64 n) := by
  obtain ⟨_, turns₀, stocking⟩ := stocking_newLibrary ready new
  obtain ⟨_, turns₁, stocking⟩ := stocking.installMetatable ready "__namecall" "class_namecall"
    .classNamecall [] (by decide)
  obtain ⟨_, turns₂, stocking⟩ := stocking.installMetatable ready "__tostring" "object_tostring"
    .objectText [] (by decide)
  obtain ⟨_, turns₃, stocking⟩ := stocking.installMetatable ready "__eq" "object_eq"
    .objectEqual [] (by decide)
  unfold openClass
  -- a class without instances gets a function under `new` that refuses
  cases k.isInstantiable with
  | true =>
    obtain ⟨_, _, turns₄, stocking⟩ := stocking.installEntry ready "new" "class_ctor"
      .classCtor [.string k.name]
    obtain ⟨c, entries, turns₅, stocks⟩ := stocking.finishClass ready k.constants
    exact ⟨c, entries, turns₀.bind (turns₁.bind (turns₂.bind (turns₃.bind (turns₄.bind turns₅)))),
      stocks⟩
  | false =>
    obtain ⟨_, _, turns₄, stocking⟩ := stocking.installEntry ready "new" "class_no_ctor"
      .classNoCtor [.string k.name]
    obtain ⟨c, entries, turns₅, stocks⟩ := stocking.finishClass ready k.constants
    exact ⟨c, entries, turns₀.bind (turns₁.bind (turns₂.bind (turns₃.bind (turns₄.bind turns₅)))),
      stocks⟩

end ScriptM

end ScriptBind
