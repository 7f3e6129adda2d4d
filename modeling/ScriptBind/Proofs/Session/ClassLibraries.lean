import ScriptBind.Proofs.Session.Furnished
import ScriptBind.Proofs.Session.Locks

/-!
# Libraries of classes

To open a class is to make a library in which a function stands under `new`, and to lock it. The
constants of the class are entered after that function, so it stays there unless one of them has its
name. What is opened later leaves the library and the global of its name as they are.

The state may have registered the metatable of a class before, so nothing is asked of it here but
that it is not locked, which is what opening the class asks of it.

Main results:

* `Stays.openClass` — what the opening of a class does to an unlocked table.
* `openClass_ok` — the library that opening a class leaves.
* `classLibrary_openClasses` — the library of every class, once all classes have been opened.
-/

namespace ScriptBind

open ScriptM

/-- The function that stands under `new` in the library of a class. -/
def Registry.Class.constructor (k : Registry.Class) : Function :=
  if k.isInstantiable then ⟨"class_ctor", .handler .classCtor, [.string k.name]⟩
  else ⟨"class_no_ctor", .handler .classNoCtor, [.string k.name]⟩

/-- The opening of a class once its library has been made. -/
def ScriptM.furnishClass (k : Registry.Class) : ScriptM Unit := do
  installHandler (-3) "__namecall" "class_namecall" .classNamecall []
  installHandler (-3) "__tostring" "object_tostring" .objectText []
  installHandler (-3) "__eq" "object_eq" .objectEqual []
  if k.isInstantiable then
    installHandler (-2) "new" "class_ctor" .classCtor [.string k.name]
  else
    installHandler (-2) "new" "class_no_ctor" .classNoCtor [.string k.name]
  k.constants.forM (installInteger (-2))
  finishLibrary true

/-- A class is opened by making its library and furnishing it. -/
theorem ScriptM.openClass_eq (k : Registry.Class) :
    openClass k = newLibrary k.name k.name >>= fun _ => furnishClass k :=
  rfl

/-- If a table stands under a name, it is this one. -/
def Table.Only (name : String) (lib : TableId) (t : Table) : Prop :=
  ∀ u, t.field name = .table u → u = lib

/-- The library of a class: a locked table, with a constructor unless one of the constants takes its
place. No other table is the global of the name of the class. -/
structure World.ClassLibrary (w : World) (k : Registry.Class) (mt lib : TableId) : Prop where
  named : w.metatableNamed k.name = some mt
  mt_locked : (w.table mt).readonly = true
  locked : (w.table lib).readonly = true
  constructor : "new" ∉ k.constants.map Prod.fst → ∃ f,
    (w.table lib).field "new" = .function f ∧ w.functions[f.index]? = some k.constructor
  global : (w.table w.state.globals).Only k.name lib

/-- To furnish a library is made of elementary changes. -/
theorem Evolving.furnishClass (k : Registry.Class) : Evolving (ScriptM.furnishClass k) := by
  have finished : ∀ _ : Unit, Evolving _ := fun _ =>
    (forM (installInteger (-2)) k.constants).bind fun _ => finishLibrary true
  exact (installHandler _ _ _ _ _).bind fun _ => (installHandler _ _ _ _ _).bind fun _ =>
    (installHandler _ _ _ _ _).bind fun _ =>
      .ite ((installHandler _ _ _ _ _).bind finished) ((installHandler _ _ _ _ _).bind finished)

/-! ## What stays in an unlocked table -/

/-- A property of tables that some entries do not take away, and no metatable and no lock either. -/
structure Table.Outlasts (P : Table → Prop) (entry : String → Value → Prop) : Prop where
  enter {t : Table} {key : String} {v : Value} (allowed : entry key v) (holds : P t) :
    P (t.entered key v)
  metatable {t : Table} (metatable : Option TableId) (holds : P t) : P { t with metatable }
  lock {t : Table} (holds : P t) : P { t with readonly := true }

namespace Table

/-- An entry under another name leaves a value where it is. -/
theorem outlasts_field (name : String) (v : Value) :
    Outlasts (fun t => t.field name = v) fun key _ => key ≠ name where
  enter apart holds := (field_entered_other apart).trans holds
  metatable _ holds := holds
  lock holds := holds

/-- No other table gets under a name by entries under other names, and of other values than
tables. -/
theorem outlasts_only (name : String) (lib : TableId) :
    Outlasts (Only name lib) fun key v => key ≠ name ∨ v.isNil = false ∧ ∀ u, v ≠ .table u where
  enter {t key v} allowed holds u found := by
    by_cases same : key = name
    · obtain ⟨something, plain⟩ := allowed.resolve_left fun apart => apart same
      rw [same, field_entered something] at found
      exact absurd found (plain u)
    · rw [field_entered_other same] at found
      exact holds u found
  metatable _ holds := holds
  lock holds := holds

/-- A table that accepts an entry has it, and is the same but for that. -/
theorem set_eq_entered {t new : Table} {key : String} {v : Value}
    (entered : t.set (.string key) v = .ok new) : new = t.entered key v := by
  rw [set_free (unlocked_of_set entered)] at entered
  exact (Except.ok.inj entered).symm

end Table

/-- The running frame lies within the stack, and a table has a property. -/
def World.Stays (P : Table → Prop) (t : TableId) (w : World) : Prop :=
  w.state.Framed ∧ P (w.table t)

namespace Stays

variable {α β : Type} {P : Table → Prop} {entry : String → Value → Prop} {t : TableId}

/-- An operation that does not touch tables. -/
theorem of_tables {act : ScriptM α} (evolving : Evolving act)
    (same : ∀ w, (act w).2.table = w.table) : Keeps (World.Stays P t) act :=
  fun w ⟨framed, holds⟩ => ⟨(evolving w).framed framed, (same w).symm ▸ holds⟩

/-- A step that is made of two goes on like one. -/
theorem andThen {f : α → ScriptM Unit} {a : ScriptM α} {rest : Unit → ScriptM β}
    (step : Keeps (World.Stays P t) (a >>= f)) (hrest : ∀ u, Keeps (World.Stays P t) (rest u)) :
    Keeps (World.Stays P t) (a >>= fun x => f x >>= rest) := by
  rw [← bind_assoc]
  exact step.bind hrest

theorem pop (n : Nat) : Keeps (World.Stays P t) (ScriptM.pop n) :=
  of_tables (.pop n) fun w => by
    rw [ScriptM.pop, run_onState]
    cases w.state.pop n <;> rfl

theorem popValue : Keeps (World.Stays P t) ScriptM.popValue :=
  of_tables .popValue fun w => by
    rw [run_popValue]
    cases w.state.popValue <;> rfl

/-- A new table is none of those from before. -/
theorem pushNewTable : Keeps (World.Stays P t) ScriptM.pushNewTable :=
  of_tables .pushNewTable fun w => w.table_push_empty

/-- A metatable is made for a name. -/
theorem newMetatable (name : String) : Keeps (World.Stays P t) (ScriptM.newMetatable name) :=
  of_tables (.newMetatable name) fun w => by
    rw [run_newMetatable]
    cases w.metatableNamed name with
    | some mt => rfl
    | none => exact w.table_push_empty

/-- A change that leaves the property to the table. -/
theorem changeTable (s : TableId) {f : Table → Except ScriptError Table}
    (evolving : Evolving (ScriptM.changeTable s f))
    (spares : ∀ old new, f old = .ok new → P old → P new) :
    Keeps (World.Stays P t) (ScriptM.changeTable s f) := by
  rintro w ⟨framed, holds⟩
  refine ⟨(evolving w).framed framed, ?_⟩
  unfold ScriptM.changeTable
  rw [run_bind, run_get]
  dsimp only
  -- a change that is refused is none, and one of another table leaves this one alone
  cases changed : f (w.table s) with
  | error e => exact holds
  | ok new =>
    have table := w.table_modify t s fun _ => new
    show P ({ w with tables := w.tables.modify s.index fun _ => new }.table t)
    rw [table]
    split
    next here =>
      obtain rfl : s = t := congrArg TableId.mk here.1
      exact spares _ new changed holds
    next => exact holds

section Tables

variable (lasts : Table.Outlasts P entry)
include lasts

/-- An entry that is allowed leaves the property. -/
theorem setText (s : TableId) {key : String} {v : Value} (allowed : entry key v) :
    Keeps (World.Stays P t) (ScriptM.setText s key v) :=
  changeTable s (.setText s key v) fun _ _ entered holds =>
    Table.set_eq_entered entered ▸ lasts.enter allowed holds

/-- A lock leaves the property. -/
theorem setReadonly (s : TableId) : Keeps (World.Stays P t) (ScriptM.setReadonly s true) := by
  rintro w ⟨framed, holds⟩
  refine ⟨framed, ?_⟩
  have table := w.table_modify t s fun old => { old with readonly := true }
  show P ({ w with tables := w.tables.modify s.index _ }.table t)
  rw [table]
  split
  · exact lasts.lock holds
  · exact holds

/-- A metatable leaves the property. -/
theorem attach (target : Value) (mt : Option TableId) :
    Keeps (World.Stays P t) (ScriptM.attach target mt) := by
  cases target with
  | table s =>
    refine changeTable s (.attach (.table s) mt) fun old new changed holds => ?_
    unfold Table.setMetatable at changed
    split at changed
    · cases changed
    · cases changed
      exact lasts.metatable mt holds
  | userdata u => exact of_tables (.attach _ mt) fun _ => rfl
  | _ => exact .throw _

/-- The top becomes a metatable, which leaves the property. -/
theorem setMetatable (index : Int) : Keeps (World.Stays P t) (ScriptM.setMetatable index) := by
  refine (Keeps.reads _).bind fun target => popValue.bind fun v => ?_
  cases v with
  | nil => exact attach lasts target none
  | table mt => exact attach lasts target (some mt)
  | _ => exact .throw _

/-- A value that is pushed for a field is the one that is entered. -/
theorem pushField (index : Int) {key : String} {v : Value} (allowed : entry key v) :
    Keeps (World.Stays P t) (ScriptM.push v >>= fun _ => setField index key) := by
  rintro w ⟨framed, holds⟩
  have pushed : World.Stays P t (w.withStack (w.state.stack ++ [v])) :=
    ⟨State.framed_push framed v, holds⟩
  have state : (w.withStack (w.state.stack ++ [v])).state = w.state.push v := rfl
  rw [run_push_bind]
  unfold setField
  rw [run_bind, run_check]
  cases (w.withStack (w.state.stack ++ [v])).state.checkTable index with
  | error e => exact pushed
  | ok s =>
    dsimp only
    rw [run_bind, run_popValue, state, State.popValue_push framed]
    exact setText lasts s allowed w ⟨framed, holds⟩

/-- A handler is installed under a key that is allowed. -/
theorem installHandler (index : Int) {key : String} (name : String) (h : Handler)
    (upvalues : List Value) (allowed : ∀ f, entry key (.function f)) :
    Keeps (World.Stays P t) (ScriptM.installHandler index key name h upvalues) := fun w stays =>
  pushField lasts index (allowed ⟨w.functions.size⟩)
    { w with functions := w.functions.push ⟨name, .handler h, upvalues⟩ } stays

/-- Integers are entered under names that are allowed. -/
theorem forM_installInteger (index : Int) (ks : List (String × Int64))
    (allowed : ∀ k ∈ ks, entry k.1 (.number (Number.ofInt64 k.2))) :
    Keeps (World.Stays P t) (ks.forM (installInteger index)) :=
  .forM ks fun k hk => pushField lasts index (allowed k hk)

/-- The top becomes a global under a name that is allowed. -/
theorem setGlobal (name : String) (allowed : ∀ v, entry name v) :
    Keeps (World.Stays P t) (ScriptM.setGlobal name) :=
  popValue.bind fun v => (Keeps.reads _).bind fun s => setText lasts s.globals (allowed v)

/-- A library is finished if its marks are allowed. -/
theorem finishLibrary (isObject : Bool) (marked : entry objectMark (.boolean true))
    (hidden : entry "__metatable" (.string lockedMetatable)) :
    Keeps (World.Stays P t) (ScriptM.finishLibrary isObject) := by
  refine (Keeps.check _).bind fun lib => (Keeps.check _).bind fun mt =>
    .optional (setText lasts mt marked) fun _ => (setText lasts mt hidden).bind fun _ =>
      Keeps.get.bind fun w => ?_
  have locks : ∀ _ : Unit, Keeps (World.Stays P t) _ := fun _ =>
    (setReadonly lasts mt).bind fun _ => (setReadonly lasts lib).bind fun _ => pop 2
  dsimp only
  split
  next libMt _ =>
    exact (setText lasts libMt hidden).bind fun _ => (setReadonly lasts libMt).bind locks
  next => exact locks ()

/-- A library is made if its entries are allowed, and its name among the globals. -/
theorem newLibrary (name metatable : String) (named : ∀ s, entry World.typeField (.string s))
    (indexed : ∀ f, entry "__index" (.function f)) (global : ∀ v, entry name v) :
    Keeps (World.Stays P t) (ScriptM.newLibrary name metatable) := by
  refine (newMetatable metatable).discard.bind fun _ => Keeps.get.bind fun w => ?_
  have copies : Keeps (World.Stays P t) (ScriptM.onState fun s => s.pushValue (-1)) :=
    of_tables (.onState State.reshapes_of_pushValue) fun w => by
      rw [run_onState]
      cases w.state.pushValue (-1) <;> rfl
  have entered : ∀ _ : Unit, Keeps (World.Stays P t) _ := fun _ =>
    andThen (pushField lasts (-2) (named metatable)) fun _ => pushNewTable.discard.bind fun _ =>
      pushNewTable.discard.bind fun _ => andThen (pushField lasts (-2) (named name)) fun _ =>
        andThen (installHandler lasts (-2) "builtin_global_index" .builtinGlobalIndex [] indexed)
          fun _ => (setMetatable lasts (-2)).bind fun _ => copies.bind fun _ =>
            setGlobal lasts name global
  exact .ite ((pop 1).bind fun _ => (Keeps.throw _).bind entered) (entered ())

end Tables

/-- What opening a class does once there is a library enters no tables. -/
theorem furnishClass (k : Registry.Class) (name : String) (lib : TableId) :
    Keeps (World.Stays (Table.Only name lib) t) (ScriptM.furnishClass k) := by
  have lasts := Table.outlasts_only name lib
  have finished : ∀ _ : Unit, Keeps (World.Stays (Table.Only name lib) t) _ := fun _ =>
    (forM_installInteger lasts (-2) k.constants fun n _ => .inr ⟨rfl, nofun⟩).bind fun _ =>
      finishLibrary lasts true (.inr ⟨rfl, nofun⟩) (.inr ⟨rfl, nofun⟩)
  have handler : ∀ (index : Int) (key called : String) (h : Handler) (upvalues : List Value),
      Keeps (World.Stays (Table.Only name lib) t)
        (ScriptM.installHandler index key called h upvalues) :=
    fun index key called h upvalues => installHandler lasts index called h upvalues fun _ =>
      .inr ⟨rfl, nofun⟩
  exact (handler _ _ _ _ _).bind fun _ => (handler _ _ _ _ _).bind fun _ =>
    (handler _ _ _ _ _).bind fun _ =>
      .ite ((handler _ _ _ _ _).bind finished) ((handler _ _ _ _ _).bind finished)

/-- To open a class enters no table under a name, but for the library under that of the class. -/
theorem openClass (k : Registry.Class) {name : String} (apart : k.name ≠ name) (lib : TableId) :
    Keeps (World.Stays (Table.Only name lib) t) (ScriptM.openClass k) :=
  (newLibrary (Table.outlasts_only name lib) k.name k.name (fun _ => .inr ⟨rfl, nofun⟩)
    (fun _ => .inr ⟨rfl, nofun⟩) fun _ => .inl apart).bind fun _ => furnishClass k name lib

end Stays

namespace ScriptM

variable {w v : World} {k : Registry.Class}

/-! ## The library that is left -/

/-- To enter integers leaves the stack as it was. -/
theorem state_of_forM_installInteger {index : Int} {ks : List (String × Int64)}
    (ok : ks.forM (installInteger index) w = (.ok (), v)) : v.state = w.state := by
  induction ks generalizing w with
  | nil =>
    cases ok
    rfl
  | cons k rest ih =>
    obtain ⟨_, u, first, others⟩ := run_bind_eq_ok.mp ok
    obtain ⟨_, u', pushed, entered⟩ := run_bind_eq_ok.mp first
    rw [ih others, state_of_setField entered, state_of_push pushed]
    simp [State.push]

/-- The constructor of a class is installed, and what comes after it in turn. -/
theorem installConstructor_ok {α : Type} {rest : Unit → ScriptM α} {x : α}
    (ok : (if k.isInstantiable then
        installHandler (-2) "new" "class_ctor" .classCtor [.string k.name] >>= rest
      else installHandler (-2) "new" "class_no_ctor" .classNoCtor [.string k.name] >>= rest) w =
        (.ok x, v)) :
    ∃ name h upvalues u, k.constructor = ⟨name, .handler h, upvalues⟩ ∧
      installHandler (-2) "new" name h upvalues w = (.ok (), u) ∧ rest () u = (.ok x, v) := by
  unfold Registry.Class.constructor
  split at ok
  next instantiable =>
    obtain ⟨_, u, installed, ok⟩ := run_bind_eq_ok.mp ok
    exact ⟨_, _, _, u, if_pos instantiable, installed, ok⟩
  next abstract_ =>
    obtain ⟨_, u, installed, ok⟩ := run_bind_eq_ok.mp ok
    exact ⟨_, _, _, u, if_neg abstract_, installed, ok⟩

/-- A constructor that is installed in a library stays there when the constants are entered and the
library is finished, if no constant has its name. -/
theorem constructor_stays {below : List Value} {mt lib : TableId} {name : String} {h : Handler}
    {upvalues : List Value} {ks : List (String × Int64)} {u u' : World}
    (low : w.state.base ≤ below.length)
    (stack : w.state.stack = below ++ [.table mt, .table lib]) (made : lib.index < w.tables.size)
    (installed : installHandler (-2) "new" name h upvalues w = (.ok (), u))
    (entered : ks.forM (installInteger (-2)) u = (.ok (), u'))
    (finished : finishLibrary true u' = (.ok (), v)) (free : "new" ∉ ks.map Prod.fst) :
    ∃ f, (v.table lib).field "new" = .function f ∧
      v.functions[f.index]? = some ⟨name, .handler h, upvalues⟩ := by
  have framed : w.state.Framed := by
    show w.state.base ≤ w.state.stack.length
    rw [stack, List.length_append]
    exact Nat.le_add_right_of_le low
  have found : (w.state.push (.function ⟨w.functions.size⟩)).checkTable (-2) = .ok lib := by
    have stack : (w.state.push (.function ⟨w.functions.size⟩)).stack =
        below ++ [.table mt] ++ .table lib :: [.function ⟨w.functions.size⟩] := by
      simp [State.push, stack]
    refine State.checkTable_below stack ?_ rfl
    rw [List.length_append]
    exact Nat.le_add_right_of_le low
  obtain ⟨entry, known⟩ := installHandler_ok framed found made installed
  have evolves : Evolves w u := (Evolving.installHandler _ _ _ _ _).ran installed
  have evolves' : Evolves u u' :=
    (Evolving.forM (Evolving.installInteger (-2)) ks).ran entered
  -- the entries that follow have other names
  have lasts := Table.outlasts_field "new" (.function ⟨w.functions.size⟩)
  have there : World.Stays (fun t => t.field "new" = .function ⟨w.functions.size⟩) lib u :=
    ⟨evolves.framed framed, entry⟩
  have still := (Stays.forM_installInteger lasts (-2) ks
    fun n hn same => free (List.mem_map.mpr ⟨n, hn, same⟩)).after entered there
  have finally_ := (Stays.finishLibrary lasts true (by decide) (by decide)).after finished still
  refine ⟨_, finally_.2, ?_⟩
  exact (evolves'.trans ((Evolving.finishLibrary true).ran finished)).function_known known

/-- What is furnished is locked, and has its constructor if no constant takes its place. -/
theorem furnishClass_ok {below : List Value} {mt lib : TableId} (low : w.state.base ≤ below.length)
    (stack : w.state.stack = below ++ [.table mt, .table lib])
    (mt_made : mt.index < w.tables.size) (lib_made : lib.index < w.tables.size)
    (ok : furnishClass k w = (.ok (), v)) :
    (v.table mt).readonly = true ∧ (v.table lib).readonly = true ∧
      ("new" ∉ k.constants.map Prod.fst → ∃ f, (v.table lib).field "new" = .function f ∧
        v.functions[f.index]? = some k.constructor) := by
  obtain ⟨_, u₁, namecall, ok⟩ := run_bind_eq_ok.mp ok
  obtain ⟨_, u₂, text, ok⟩ := run_bind_eq_ok.mp ok
  obtain ⟨_, u₃, equality, ok⟩ := run_bind_eq_ok.mp ok
  obtain ⟨name, h, upvalues, u₄, constructor, installed, ok⟩ := installConstructor_ok ok
  obtain ⟨_, u₅, entered, finished⟩ := run_bind_eq_ok.mp ok
  -- the state is the same after each entry, and no table is taken away
  have state₃ : u₃.state = w.state := by
    rw [state_of_installHandler equality, state_of_installHandler text,
      state_of_installHandler namecall]
  have state₅ : u₅.state = w.state := by
    rw [state_of_forM_installInteger entered, state_of_installHandler installed, state₃]
  have size₃ : w.tables.size ≤ u₃.tables.size :=
    (((Evolving.installHandler _ _ _ _ _).ran namecall).trans
      (((Evolving.installHandler _ _ _ _ _).ran text).trans
        ((Evolving.installHandler _ _ _ _ _).ran equality))).size_tables
  have size₅ : u₃.tables.size ≤ u₅.tables.size :=
    (((Evolving.installHandler _ _ _ _ _).ran installed).trans
      ((Evolving.forM (Evolving.installInteger (-2)) k.constants).ran entered)).size_tables
  obtain ⟨mt_locked, lib_locked, -⟩ := finishLibrary_ok (state₅ ▸ low) (state₅ ▸ stack) (by omega)
    (by omega) finished
  refine ⟨mt_locked, lib_locked, fun free => ?_⟩
  rw [constructor]
  exact constructor_stays (state₃ ▸ low) (state₃ ▸ stack) (by omega) installed entered finished free

/-- A class that is opened leaves its library. -/
theorem openClass_ok (framed : w.state.Framed) (housed : w.Houses w.state)
    (ok : openClass k w = (.ok (), v)) : ∃ mt lib, v.ClassLibrary k mt lib := by
  rw [openClass_eq] at ok
  obtain ⟨_, u, created, furnished⟩ := run_bind_eq_ok.mp ok
  obtain ⟨mt, lib, named, stack, lib_made, global⟩ := newLibrary_ok framed created
  have evolves : Evolves w u := (Evolving.newLibrary k.name k.name).ran created
  have evolves' : Evolves u v := (Evolving.furnishClass k).ran furnished
  obtain ⟨mt_locked, lib_locked, constructor⟩ := furnishClass_ok (evolves.base_eq.symm ▸ framed)
    stack ((evolves.houses housed).of_named named) lib_made furnished
  -- the global of the name is this library from now on, if there are globals at all
  have only : World.Stays (Table.Only k.name lib) u.state.globals u := by
    refine ⟨evolves.framed framed, fun t found => ?_⟩
    rcases global with here | nothing
    · exact Value.table.inj (found.symm.trans here)
    · cases found.symm.trans nothing
  refine ⟨mt, lib, evolves'.metatable_kept named, mt_locked, lib_locked, constructor, ?_⟩
  rw [evolves'.globals_eq]
  exact ((Stays.furnishClass k k.name lib).after furnished only).2

end ScriptM

/-! ## One class after the other -/

namespace World.ClassLibrary

variable {w v : World} {k : Registry.Class} {mt lib : TableId}

/-- The library stays while another class is opened, which cannot have the same name. -/
theorem stays_openClass {k' : Registry.Class} (library : w.ClassLibrary k mt lib)
    (framed : w.state.Framed)
    (ok : openClass k' w = (.ok (), v)) : v.ClassLibrary k mt lib := by
  have apart : k'.name ≠ k.name := fun same =>
    opens_class.refuses framed (x := k') (same ▸ library.named) library.mt_locked ok
  have evolves : Evolves w v := (Evolving.openClass k').ran ok
  -- the library is locked with its metatable, so their entries stay; the global is what the other
  -- class leaves alone
  have frozen : ∀ t, (w.table t).readonly = true → v.table t = w.table t := fun t locked =>
    (Keeps.after (P := World.Frozen t _) (Sparing.openClass k') ok ⟨locked, rfl⟩).2
  refine ⟨evolves.metatable_kept library.named, ?_, ?_, fun free => ?_, ?_⟩
  · rw [frozen mt library.mt_locked]
    exact library.mt_locked
  · rw [frozen lib library.locked]
    exact library.locked
  · obtain ⟨f, entry, known⟩ := library.constructor free
    refine ⟨f, ?_, evolves.function_known known⟩
    rw [frozen lib library.locked]
    exact entry
  · rw [evolves.globals_eq]
    exact ((Stays.openClass k' apart lib).after ok ⟨framed, library.global⟩).2

/-- The library of a class stays while other classes are opened. The induction is on these classes.
-/
theorem stays_forM {ks : List Registry.Class} (library : w.ClassLibrary k mt lib)
    (framed : w.state.Framed) (ok : ks.forM openClass w = (.ok (), v)) :
    v.ClassLibrary k mt lib := by
  induction ks generalizing w with
  | nil =>
    cases ok
    exact library
  | cons k' rest ih =>
    obtain ⟨_, u, first, others⟩ := run_bind_eq_ok.mp ok
    exact ih (library.stays_openClass framed first)
      (((Evolving.openClass k').ran first).framed framed) others

end World.ClassLibrary

namespace ScriptM

variable {w v : World}

/-- The induction is on the classes that are still to be opened. -/
theorem classLibrary_forM {ks : List Registry.Class} (framed : w.state.Framed)
    (housed : w.Houses w.state) (ok : ks.forM openClass w = (.ok (), v)) :
    ∀ k ∈ ks, ∃ mt lib, v.ClassLibrary k mt lib := by
  induction ks generalizing w with
  | nil => exact fun k hk => absurd hk List.not_mem_nil
  | cons k' rest ih =>
    obtain ⟨_, u, first, others⟩ := run_bind_eq_ok.mp ok
    have evolves : Evolves w u := (Evolving.openClass k').ran first
    have framed' := evolves.framed framed
    intro k hk
    rcases List.mem_cons.mp hk with rfl | hk
    · obtain ⟨mt, lib, library⟩ := openClass_ok framed housed first
      exact ⟨mt, lib, library.stays_forM framed' others⟩
    · exact ih framed' (evolves.houses housed) others k hk

/-- Once all classes of a registry have been opened, each has its library. -/
theorem classLibrary_openClasses {c : Context} {count : Nat} (framed : w.state.Framed)
    (housed : w.Houses w.state) (context : w.state.context = some c)
    (ok : openClasses w = (.ok count, v)) :
    ∀ k ∈ (w.registry c.registry).classes, ∃ mt lib, v.ClassLibrary k mt lib := by
  have opened : (w.registry c.registry).classes.forM openClass w = (.ok (), v) := by
    rw [← run_openClasses context, run_discard, ok]
  exact classLibrary_forM framed housed opened

end ScriptM

end ScriptBind
