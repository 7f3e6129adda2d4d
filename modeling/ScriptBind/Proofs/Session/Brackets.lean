import ScriptBind.Proofs.Session.Libraries
import ScriptBind.Proofs.Session.Runs

/-!
# Making a library and finishing it

`newLibrary` leaves the library and the metatable that it is for on the stack, and `finishLibrary`
takes them away again, whatever has been entered into the two in the meantime. A library is not made
where the metatable is locked, and then nothing happens. Where the globals are locked, this is found
out only when the new library is to become one of them: `newLibrary` fails there too, but the library
and the metatable stay on the stack.

Main results:

* `newLibrary_outcome` — the ways in which `newLibrary` ends.
* `Filling.amid` — the library stays on top of its metatable while both are filled.
* `finishLibrary_ok_iff`, `finishLibrary_finished` — when a library can be finished, and what is
  left.
* `library_brackets` — all of this, wherever a run has got to.
-/

namespace ScriptBind

open ScriptM

/-! ## A library on the stack -/

namespace World

/-- The metatable of a name is locked, as it is once a library for it is open. -/
def MetatableLocked (w : World) (name : String) : Prop :=
  ∃ mt, w.metatableNamed name = some mt ∧ (w.table mt).readonly = true

/-- Nothing but the entries of tables is different. -/
structure BarEntries (w v : World) : Prop where
  state : v.state = w.state
  size : v.tables.size = w.tables.size
  table (t : TableId) : ∃ entries, v.table t = { w.table t with entries }

theorem BarEntries.metatable {w v : World} (same : w.BarEntries v) (t : TableId) :
    (v.table t).metatable = (w.table t).metatable := by
  obtain ⟨entries, table⟩ := same.table t
  rw [table]

theorem BarEntries.readonly {w v : World} (same : w.BarEntries v) (t : TableId) :
    (v.table t).readonly = (w.table t).readonly := by
  obtain ⟨entries, table⟩ := same.table t
  rw [table]

/-- A library and the metatable that it is for lie on top of the stack of a state, and the library
has a metatable of its own. -/
structure Amid (w : World) (s : State) (mt lib libMt : TableId) : Prop where
  stack : w.state.stack = s.stack ++ [.table mt, .table lib]
  frames : w.state.frames = s.frames
  mt_made : mt.index < w.tables.size
  lib_made : lib.index < w.tables.size
  libMt_made : libMt.index < w.tables.size
  tag : (w.table lib).metatable = some libMt

/-- A library has been taken from the stack of a state together with the metatable that it is for,
and both are locked, like the metatable of the library. -/
structure Finished (w : World) (s : State) (mt lib libMt : TableId) : Prop where
  stack : w.state.stack = s.stack
  frames : w.state.frames = s.frames
  tag : (w.table lib).metatable = some libMt
  locked {t : TableId} (made : t = mt ∨ t = lib ∨ t = libMt) : (w.table t).readonly = true

/-- Entries do not disturb a library on the stack. -/
theorem Amid.bar {w v : World} {s : State} {mt lib libMt : TableId} (amid : w.Amid s mt lib libMt)
    (same : w.BarEntries v) : v.Amid s mt lib libMt where
  stack := same.state ▸ amid.stack
  frames := same.state ▸ amid.frames
  mt_made := same.size ▸ amid.mt_made
  lib_made := same.size ▸ amid.lib_made
  libMt_made := same.size ▸ amid.libMt_made
  tag := (same.metatable lib).trans amid.tag

end World

namespace ScriptM

variable {w : World} {s : State} {mt lib libMt : TableId}

/-! ## Entries -/

theorem barEntries_setText (t : TableId) (name : String) (x : Value) (w : World) :
    w.BarEntries (setText t name x w).2 := by
  rw [run_setText]
  split
  · exact ⟨rfl, rfl, fun t => ⟨_, rfl⟩⟩
  refine ⟨rfl, Array.size_modify, fun t' => ?_⟩
  have changed := w.table_modify t' t fun _ => (w.table t).entered name x
  split at changed
  next here =>
    obtain rfl : t = t' := by
      cases t
      cases t'
      exact congrArg TableId.mk here.1
    exact ⟨_, changed⟩
  · exact ⟨_, changed⟩

/-- A table that takes an entry is not locked. -/
theorem unlocked_of_setText {t : TableId} {name : String} {x : Value} {v : World}
    (ok : setText t name x w = (.ok (), v)) : (w.table t).readonly = false ∧ w.BarEntries v := by
  have same := barEntries_setText t name x w
  rw [ok] at same
  rw [run_setText] at ok
  split at ok
  · cases ok
  next free => exact ⟨Bool.eq_false_iff.mpr free, same⟩

/-- The value on top of the stack is taken away, whether the table takes it or not. -/
theorem run_setField {index : Int} {key : String} {t : TableId} {x : Value} (framed : s.Framed)
    (top : w.state = s.push x) (found : w.state.checkTable index = .ok t) :
    setField index key w = setText t key x { w with state := s } := by
  unfold setField
  rw [run_bind, run_check, found]
  dsimp only
  rw [run_bind, run_popValue, top, State.popValue_push framed]

theorem run_setGlobal {name : String} {x : Value} (framed : s.Framed) (top : w.state = s.push x) :
    setGlobal name w = setText s.globals name x { w with state := s } := by
  unfold setGlobal
  rw [run_bind, run_popValue, top, State.popValue_push framed]
  rfl

/-! ## Making a library -/

/-- Above an unlocked metatable a library is laid out, which then lies on the stack twice. -/
theorem run_layLibrary (framed : s.Framed) (top : w.state = s.push (.table mt))
    (mt_made : mt.index < w.tables.size) (free : (w.table mt).readonly = false)
    (name metatable : String) :
    ∃ (lib libMt : TableId) (u : World), layLibrary name metatable w =
        (.ok (), { u with state := u.state.push (.table lib) }) ∧
      u.state = (s.push (.table mt)).push (.table lib) ∧ u.Amid s mt lib libMt ∧
      w.tables.size ≤ u.tables.size ∧ ∀ t, (u.table t).readonly = (w.table t).readonly := by
  let lib : TableId := ⟨w.tables.size⟩
  let libMt : TableId := ⟨w.tables.size + 1⟩
  obtain ⟨v, laid, view⟩ := turns_layLibrary framed mt_made free
    (fun new => World.table_empty new) name metatable w (by rw [World.view, top])
  have state : v.state = ((s.push (.table mt)).push (.table lib)).push (.table lib) :=
    congrArg View.state view
  have size : v.tables.size = w.tables.size + 2 := congrArg View.size view
  have table : v.table = laidShelf w.table mt w.tables.size ⟨w.functions.size⟩ name metatable :=
    congrArg View.table view
  -- the world without the second copy
  let u : World := { v with state := (s.push (.table mt)).push (.table lib) }
  have amid : u.Amid s mt lib libMt :=
    { stack := by simp [u, State.push]
      frames := rfl
      mt_made := show mt.index < v.tables.size by omega
      lib_made := show w.tables.size < v.tables.size by omega
      libMt_made := show w.tables.size + 1 < v.tables.size by omega
      tag := by
        show (v.table lib).metatable = _
        rw [table, laidShelf, Shelf.metatable_attach] }
  refine ⟨lib, libMt, u, ?_, rfl, amid, show w.tables.size ≤ v.tables.size by omega, fun t => ?_⟩
  · rw [laid, ← state]
  · show (v.table t).readonly = _
    rw [table]
    simp [laidShelf]

/-- A library is made on top of an unlocked metatable. It becomes a global unless the globals are
locked. -/
theorem run_makeLibrary (framed : s.Framed) (top : w.state = s.push (.table mt))
    (mt_made : mt.index < w.tables.size) (free : (w.table mt).readonly = false)
    (globals_made : s.globals.index < w.tables.size) (name metatable : String) :
    ∃ lib libMt v, v.state.metatables = s.metatables ∧ v.Amid s mt lib libMt ∧
      ((w.table s.globals).readonly = true →
        (layLibrary name metatable >>= fun _ => setGlobal name) w = (.error .readOnly, v)) ∧
      ((w.table s.globals).readonly = false →
        (layLibrary name metatable >>= fun _ => setGlobal name) w = (.ok (), v) ∧
          (v.table v.state.globals).field name = .table lib) := by
  obtain ⟨lib, libMt, u, laid, state, amid, size, locks⟩ :=
    run_layLibrary framed top mt_made free name metatable
  have ran : (layLibrary name metatable >>= fun _ => setGlobal name) w =
      setText s.globals name (.table lib) u := by
    have framed : u.state.Framed := by
      rw [state]
      exact State.framed_push (State.framed_push framed _) _
    rw [run_bind, laid]
    dsimp only
    rw [run_setGlobal framed rfl, show u.state.globals = s.globals by rw [state]; rfl]
  -- nothing has been locked on the way, so all is up to the last entry
  have same := barEntries_setText s.globals name (.table lib) u
  rw [ran]
  refine ⟨lib, libMt, _, ?_, amid.bar same, fun locked => ?_, fun unlocked => ?_⟩
  · rw [same.state, state]
    rfl
  · rw [run_setText, locks, if_pos locked]
  · have inside : s.globals.index < u.tables.size := Nat.lt_of_lt_of_le globals_made size
    have there : (setText s.globals name (.table lib) u).2.state.globals = s.globals := by
      rw [same.state, state]
      rfl
    rw [there, run_setText, locks, if_neg (Bool.eq_false_iff.mp unlocked)]
    refine ⟨rfl, ?_⟩
    dsimp only
    rw [World.table_putTable inside]
    exact Table.field_entered rfl name

/-- Where the metatable is locked nothing happens. Anywhere else the library is laid out on the
stack, and it is up to the globals whether it becomes one of them. -/
theorem newLibrary_outcome (framed : w.state.Framed) (housed : w.Houses w.state)
    (globals_made : w.state.globals.index < w.tables.size) (name metatable : String) :
    (w.MetatableLocked metatable → newLibrary name metatable w =
      (.error (.runtime ("library '" ++ name ++ "' is already open")), w)) ∧
    (¬ w.MetatableLocked metatable → ∃ mt lib libMt v,
      v.metatableNamed metatable = some mt ∧ v.Amid w.state mt lib libMt ∧
        ((w.table w.state.globals).readonly = true →
          newLibrary name metatable w = (.error .readOnly, v)) ∧
        ((w.table w.state.globals).readonly = false →
          newLibrary name metatable w = (.ok (), v) ∧
            (v.table v.state.globals).field name = .table lib)) := by
  refine ⟨fun ⟨mt, named, locked⟩ => newLibrary_of_locked framed named locked name,
    fun unlocked => ?_⟩
  cases registered : w.metatableNamed metatable with
  | some mt =>
    have free : (w.table mt).readonly = false :=
      Bool.eq_false_iff.mpr fun locked => unlocked ⟨mt, registered, locked⟩
    have ran := (run_newLibrary (run_newMetatable_registered registered) framed rfl name).trans
      (if_neg (Bool.eq_false_iff.mp free))
    obtain ⟨lib, libMt, v, metatables, amid, refused, made⟩ :=
      run_makeLibrary (w := { w with state := w.state.push (.table mt) }) framed rfl
        (housed.of_named registered) free globals_made name metatable
    refine ⟨mt, lib, libMt, v, ?_, amid, fun h => ran.trans (refused h), fun h => ?_⟩
    · rw [World.metatableNamed, metatables]
      exact registered
    · exact ⟨ran.trans (made h).1, (made h).2⟩
  -- a metatable that is new is not locked
  | none =>
    let u := w.registering metatable
    have pushed : discard (newMetatable metatable) w =
        (.ok (), { u with state := u.state.push (.table ⟨w.tables.size⟩) }) := by
      rw [run_discard, run_newMetatable, registered]
    have framed : u.state.Framed := framed
    have tables : u.table = w.table := w.table_push_empty
    have size : u.tables.size = w.tables.size + 1 := Array.size_push ..
    have free : (u.table ⟨w.tables.size⟩).readonly = false := by
      rw [tables, World.table_empty (w := w) (t := ⟨w.tables.size⟩) (Nat.le_refl _)]
      rfl
    have lock : (u.table u.state.globals).readonly = (w.table w.state.globals).readonly := by
      rw [tables]
      rfl
    have ran := (run_newLibrary pushed framed rfl name).trans (if_neg (Bool.eq_false_iff.mp free))
    obtain ⟨lib, libMt, v, metatables, amid, refused, made⟩ :=
      run_makeLibrary (w := { u with state := u.state.push (.table ⟨w.tables.size⟩) }) framed rfl
        (show w.tables.size < u.tables.size by omega) free
        (show w.state.globals.index < u.tables.size by omega) name metatable
    refine ⟨⟨w.tables.size⟩, lib, libMt, v, ?_,
      { amid with stack := amid.stack, frames := amid.frames },
      fun h => ran.trans (refused (lock.trans h)), fun h => ?_⟩
    · rw [World.metatableNamed, metatables]
      exact Keyed.get?_put_self ..
    · have made := made (lock.trans h)
      exact ⟨ran.trans made.1, made.2⟩

/-! ## Filling it -/

/-- Between the two brackets any number of values are entered into the metatable or the library,
whether these take them or not. Wherever a value comes from, it lies on top of the two when it is
entered. -/
inductive Filling (s : State) (mt lib : TableId) : World → World → Prop
  | start (w : World) : Filling s mt lib w w
  | enter {w u u' : World} {index : Int} {key : String} {x : Value} (before : Filling s mt lib w u)
      (supplied : Evolves u u') (kept : (u'.table lib).metatable = (u.table lib).metatable)
      (top : u'.state.stack = s.stack ++ [.table mt, .table lib, x])
      (target : u'.state.checkTable index = .ok mt ∨ u'.state.checkTable index = .ok lib) :
      Filling s mt lib w (setField index key u').2

/-- One entry. -/
theorem amid_setField {u u' : World} {index : Int} {key : String} {x : Value} (framed : s.Framed)
    (amid : u.Amid s mt lib libMt) (supplied : Evolves u u')
    (kept : (u'.table lib).metatable = (u.table lib).metatable)
    (top : u'.state.stack = s.stack ++ [.table mt, .table lib, x])
    {t : TableId} (target : u'.state.checkTable index = .ok t) :
    (setField index key u').2.Amid s mt lib libMt := by
  let s' : State := { u'.state with stack := s.stack ++ [Value.table mt, .table lib] }
  have frames : u'.state.frames = s.frames := supplied.frames_eq.trans amid.frames
  have size := supplied.size_tables
  have framed' : s'.Framed := by
    show s'.base ≤ (s.stack ++ [Value.table mt, .table lib]).length
    rw [State.base, show s'.frames = s.frames from frames, List.length_append]
    exact Nat.le_add_right_of_le framed
  have pushed : u'.state = s'.push x := by
    simp [s', State.push, ← top]
  have held : { u' with state := s' }.Amid s mt lib libMt :=
    { stack := rfl
      frames := frames
      mt_made := Nat.lt_of_lt_of_le amid.mt_made size
      lib_made := Nat.lt_of_lt_of_le amid.lib_made size
      libMt_made := Nat.lt_of_lt_of_le amid.libMt_made size
      tag := kept.trans amid.tag }
  -- by now the value is gone, whether or not it is taken
  rw [run_setField framed' pushed target]
  exact held.bar (barEntries_setText ..)

/-- The induction is on the entries. -/
theorem Filling.amid {u : World} (filling : Filling s mt lib w u) (framed : s.Framed)
    (amid : w.Amid s mt lib libMt) : u.Amid s mt lib libMt := by
  induction filling with
  | start => exact amid
  | enter before supplied kept top target ih =>
    rcases target with target | target
    · exact amid_setField framed ih supplied kept top target
    · exact amid_setField framed ih supplied kept top target

/-! ## Finishing it -/

/-- What is left of the state of a library in the making when the library is taken away. -/
theorem amid_top (framed : s.Framed) (amid : w.Amid s mt lib libMt) :
    ∃ s' : State, s'.Framed ∧ s'.stack = s.stack ∧ s'.frames = s.frames ∧
      w.state = (s'.push (.table mt)).push (.table lib) := by
  refine ⟨{ w.state with stack := s.stack }, ?_, rfl, amid.frames, ?_⟩
  · show State.base _ ≤ s.stack.length
    rw [State.base, show State.frames _ = s.frames from amid.frames]
    exact framed
  · simp [State.push, ← amid.stack]

/-- A library can be finished if neither its metatable nor the one that it is for is locked. -/
theorem run_finishLibrary (framed : s.Framed) (amid : w.Amid s mt lib libMt)
    (mt_free : (w.table mt).readonly = false) (libMt_free : (w.table libMt).readonly = false)
    (isObject : Bool) :
    ∃ v, finishLibrary isObject w = (.ok (), v) ∧ v.Finished s mt lib libMt := by
  obtain ⟨s', framed', stack, frames, top⟩ := amid_top framed amid
  obtain ⟨v, ran, view⟩ := turns_finishLibrary framed' amid.mt_made amid.lib_made amid.libMt_made
    mt_free libMt_free amid.tag isObject w (by rw [World.view, top])
  have state : v.state = s' := congrArg View.state view
  have table : v.table = lockedShelf (markedShelf w.table mt isObject) mt lib libMt :=
    congrArg View.table view
  refine ⟨v, ran, state ▸ stack, state ▸ frames, ?_, fun made => ?_⟩
  -- neither the mark nor a lock takes the metatable of the library away
  · rw [table, metatable_lockedShelf, ← amid.tag]
    cases isObject with
    | false => rfl
    | true => exact Shelf.metatable_enter
  · rw [table]
    exact readonly_lockedShelf made

/-- The lock is entered into both metatables before anything is locked. -/
theorem unlocked_of_lockLibrary {v : World} (tag : (w.table lib).metatable = some libMt)
    (ok : lockLibrary mt lib w = (.ok (), v)) :
    (w.table mt).readonly = false ∧ (w.table libMt).readonly = false := by
  obtain ⟨_, u, entered, ok⟩ := run_bind_eq_ok.mp ok
  obtain ⟨mt_free, same⟩ := unlocked_of_setText entered
  obtain ⟨_, _, read, ok⟩ := run_bind_eq_ok.mp ok
  cases read
  simp only [(same.metatable lib).trans tag] at ok
  obtain ⟨_, _, entered, ok⟩ := run_bind_eq_ok.mp ok
  obtain ⟨libMt_free, -⟩ := unlocked_of_setText entered
  exact ⟨mt_free, (same.readonly libMt).symm.trans libMt_free⟩

theorem unlocked_of_finishLibrary {v : World} (framed : s.Framed) (amid : w.Amid s mt lib libMt)
    {isObject : Bool} (ok : finishLibrary isObject w = (.ok (), v)) :
    (w.table mt).readonly = false ∧ (w.table libMt).readonly = false := by
  obtain ⟨s', framed', -, -, top⟩ := amid_top framed amid
  have found_lib : w.state.checkTable (-1) = .ok lib := by
    rw [top]
    exact State.checkTable_top (State.framed_push framed' _) lib
  have found_mt : w.state.checkTable (-2) = .ok mt := by
    rw [top]
    exact State.checkTable_second framed' mt _
  obtain ⟨_, _, checked, ok⟩ := run_bind_eq_ok.mp ok
  rw [run_check, found_lib] at checked
  cases checked
  obtain ⟨_, _, checked, ok⟩ := run_bind_eq_ok.mp ok
  rw [run_check, found_mt] at checked
  cases checked
  cases isObject with
  | false => exact unlocked_of_lockLibrary amid.tag ok
  -- the mark is an entry, and entries lock nothing
  | true =>
    obtain ⟨_, u, marked, ok⟩ := run_bind_eq_ok.mp ok
    obtain ⟨mt_free, same⟩ := unlocked_of_setText marked
    obtain ⟨-, libMt_free⟩ := unlocked_of_lockLibrary ((same.metatable lib).trans amid.tag) ok
    exact ⟨mt_free, (same.readonly libMt).symm.trans libMt_free⟩

theorem finishLibrary_ok_iff (framed : s.Framed) (amid : w.Amid s mt lib libMt) (isObject : Bool) :
    (∃ v, finishLibrary isObject w = (.ok (), v)) ↔
      (w.table mt).readonly = false ∧ (w.table libMt).readonly = false := by
  refine ⟨fun ⟨v, ok⟩ => unlocked_of_finishLibrary framed amid ok, fun ⟨mt_free, libMt_free⟩ => ?_⟩
  obtain ⟨v, ok, -⟩ := run_finishLibrary framed amid mt_free libMt_free isObject
  exact ⟨v, ok⟩

/-- A library that is finished leaves the stack, and three tables are locked. -/
theorem finishLibrary_finished {v : World} (framed : s.Framed) (amid : w.Amid s mt lib libMt)
    {isObject : Bool} (ok : finishLibrary isObject w = (.ok (), v)) :
    v.Finished s mt lib libMt := by
  obtain ⟨mt_free, libMt_free⟩ := unlocked_of_finishLibrary framed amid ok
  obtain ⟨v', ok', finished⟩ := run_finishLibrary framed amid mt_free libMt_free isObject
  cases ok.symm.trans ok'
  exact finished

/-! ## Wherever a run has got to -/

/-- Wherever a run has got to, and in the midst of an operation too: where the metatable of a name is
locked, `newLibrary` fails and changes nothing. Where only the globals are locked it fails as well,
and leaves the metatable and the new library on the stack. Anywhere else it succeeds. It pushes the
metatable and the library, which is now the global of its name, and whatever is entered into the two
then, `finishLibrary` succeeds exactly if neither the metatable nor that of the library is locked. It
restores the stack, and the two and the metatable of the library are locked. -/
theorem library_brackets {es : List Session.Event} {u : World} (moment : Session.Moment es u)
    (during : Evolves u w) (name metatable : String) :
    (w.MetatableLocked metatable → newLibrary name metatable w =
      (.error (.runtime ("library '" ++ name ++ "' is already open")), w)) ∧
    (¬ w.MetatableLocked metatable → (w.table w.state.globals).readonly = true →
      ∃ mt lib libMt v, newLibrary name metatable w = (.error .readOnly, v) ∧
        v.metatableNamed metatable = some mt ∧ v.Amid w.state mt lib libMt) ∧
    (¬ w.MetatableLocked metatable → (w.table w.state.globals).readonly = false →
      ∃ mt lib libMt v, newLibrary name metatable w = (.ok (), v) ∧
        v.metatableNamed metatable = some mt ∧ v.Amid w.state mt lib libMt ∧
        (v.table v.state.globals).field name = .table lib ∧
        ∀ x isObject, Filling w.state mt lib v x →
          ((∃ z, finishLibrary isObject x = (.ok (), z)) ↔
            (x.table mt).readonly = false ∧ (x.table libMt).readonly = false) ∧
          ∀ z, finishLibrary isObject x = (.ok (), z) → z.Finished w.state mt lib libMt) := by
  have framed := during.framed moment.framed
  have globals_made := (during.rooted moment.rooted).made
  -- from wherever an operation has got to, its frame and the globals are still there
  obtain ⟨taken, laid⟩ :=
    newLibrary_outcome framed (during.houses moment.houses) globals_made name metatable
  refine ⟨taken, fun free locked => ?_, fun free unlocked => ?_⟩
  · obtain ⟨mt, lib, libMt, v, named, amid, refused, -⟩ := laid free
    exact ⟨mt, lib, libMt, v, refused locked, named, amid⟩
  · obtain ⟨mt, lib, libMt, v, named, amid, -, made⟩ := laid free
    obtain ⟨made, global⟩ := made unlocked
    refine ⟨mt, lib, libMt, v, made, named, amid, global, fun x isObject filling => ?_⟩
    have filled : x.Amid w.state mt lib libMt := filling.amid framed amid
    exact ⟨finishLibrary_ok_iff framed filled isObject,
      fun z ok => finishLibrary_finished framed filled ok⟩

/-- A run that leaves the globals on the stack. -/
def globalsPushed : List Session.Event := [.command (.run .pushGlobals)]

theorem library_brackets_thing :
    let w := (Session.after globalsPushed).world
    let v := (newLibrary "Thing" "ThingMt" w).2
    let x := (setField (-2) "kind" (push (.string "wood") v).2).2
    let z := (finishLibrary false x).2
    newLibrary "Thing" "ThingMt" w = (.ok (), v) ∧ finishLibrary false x = (.ok (), z) ∧
      ∃ mt lib libMt, v.Amid w.state mt lib libMt ∧
        (v.table v.state.globals).field "Thing" = .table lib ∧ Filling w.state mt lib v x ∧
        z.Finished w.state mt lib libMt := by
  have facts :
      let w := (Session.after globalsPushed).world
      let v := (newLibrary "Thing" "ThingMt" w).2
      let x := (setField (-2) "kind" (push (.string "wood") v).2).2
      w.metatableNamed "ThingMt" = none ∧ (w.table w.state.globals).readonly = false ∧
        (finishLibrary false x).1 = .ok () := by
    decide +kernel
  have moment := Session.Moment.last globalsPushed
  -- from here on it does not matter what led to the world
  generalize (Session.after globalsPushed).world = w at facts moment ⊢
  obtain ⟨unregistered, unlocked, finishes⟩ := facts
  have free : ¬ w.MetatableLocked "ThingMt" := by
    rintro ⟨mt, named, -⟩
    cases unregistered.symm.trans named
  obtain ⟨-, -, made⟩ := library_brackets moment (.refl w) "Thing" "ThingMt"
  obtain ⟨mt, lib, libMt, v, ran, -, amid, global, brackets⟩ := made free unlocked
  dsimp only
  rw [ran] at finishes ⊢
  dsimp only at finishes ⊢
  have top : (push (.string "wood") v).2.state.stack =
      w.state.stack ++ [.table mt, .table lib, .string "wood"] := by
    show v.state.stack ++ [.string "wood"] = _
    rw [amid.stack, List.append_assoc]
    rfl
  obtain ⟨below, framed, -, -, state⟩ := amid_top moment.framed amid
  have target : (push (.string "wood") v).2.state.checkTable (-2) = .ok lib := by
    show (v.state.push _).checkTable (-2) = _
    rw [state]
    exact State.checkTable_second (State.framed_push framed _) lib _
  have filling : Filling w.state mt lib v (setField (-2) "kind" (push (.string "wood") v).2).2 :=
    .enter (.start v) (Evolving.push _ v) rfl top (.inr target)
  generalize (setField (-2) "kind" (push (.string "wood") v).2).2 = x at finishes filling ⊢
  have ok : finishLibrary false x = (.ok (), (finishLibrary false x).2) := Prod.ext finishes rfl
  exact ⟨rfl, ok, mt, lib, libMt, amid, global, filling, (brackets x false filling).2 _ ok⟩

/-- Where the globals are locked, a library that is refused leaves two tables on the stack. -/
theorem newLibrary_unbalanced :
    let w := (Session.after (globalsPushed ++ [.command (.run (.setReadonly 1 true))])).world
    let v := (newLibrary "Thing" "Thing" w).2
    (newLibrary "Thing" "Thing" w).1 = .error .readOnly ∧ w.state.stack = [.table ⟨0⟩] ∧
      v.state.stack = [.table ⟨0⟩, .table ⟨1⟩, .table ⟨2⟩] := by
  decide +kernel

end ScriptM

end ScriptBind
