import ScriptBind.Proofs.Binding.Handlers
import ScriptBind.Proofs.Session.Growth

/-!
# Handlers in tables

A function that runs a handler stands in a field of a metatable. Operations on other fields leave it
there, and when the table is locked every operation does, but for one that takes the lock away.

Main results:

* `Table.field_set`, `Table.field_set_other` — what an entry does to the fields of a table.
* `Keeps.openBuiltin` — opening a library leaves a handler in a locked table in place.
-/

namespace ScriptBind

open ScriptM

/-! ## Fields of tables -/

namespace Key

/-- Only a text has the key of a text. -/
theorem beq_string {j : Key} {a : String} : (j == .string a) = true ↔ j = .string a := by
  show j.same (.string a) = true ↔ _
  cases j <;> simp [same]

/-- The keys of texts are compared like the texts. -/
theorem string_beq {a b : String} : (Key.string a == .string b) = (a == b) := rfl

end Key

namespace Table

/-- What has been entered under a name is read back under it. -/
theorem get?_put_string (a : String) (v : Value) (l : List (Key × Value)) :
    Keyed.get? (.string a) (Keyed.put (.string a) v l) = some v := by
  induction l with
  | nil => exact if_pos (Key.beq_string.mpr rfl)
  | cons p rest ih =>
    obtain ⟨j, b⟩ := p
    by_cases h : (j == .string a) = true
    · simp [Keyed.put, Keyed.get?, h]
    · simp [Keyed.put, Keyed.get?, h, ih]

/-- An entry under a name does not change those under other names. -/
theorem get?_put_other {a b : String} (apart : a ≠ b) (v : Value) (l : List (Key × Value)) :
    Keyed.get? (.string b) (Keyed.put (.string a) v l) = Keyed.get? (.string b) l := by
  induction l with
  | nil => simp [Keyed.put, Keyed.get?, Key.string_beq, apart]
  | cons p rest ih =>
    obtain ⟨j, c⟩ := p
    by_cases h : (j == .string a) = true
    · obtain rfl := Key.beq_string.mp h
      simp [Keyed.put, Keyed.get?, Key.string_beq, apart]
    · simp [Keyed.put, Keyed.get?, h, ih]

/-- What is erased under a name does not change what is found under others. -/
theorem get?_erase_other {a b : String} (apart : a ≠ b) (l : List (Key × Value)) :
    Keyed.get? (.string b) (Keyed.erase (.string a) l) = Keyed.get? (.string b) l := by
  induction l with
  | nil => rfl
  | cons p rest ih =>
    obtain ⟨j, c⟩ := p
    by_cases h : (j == .string a) = true
    · obtain rfl := Key.beq_string.mp h
      simp [Keyed.erase, Keyed.get?, Key.string_beq, apart]
    · simp [Keyed.erase, Keyed.get?, h, ih]

variable {t new : Table} {name key : String} {v : Value}

/-- What has been entered is found under its name. -/
theorem field_set (entered : t.set (.string name) v = .ok new) (some_value : v.isNil = false) :
    new.field name = v := by
  unfold set at entered
  split at entered
  · cases entered
  · rw [some_value] at entered
    cases entered
    simp [field, get, get?_put_string]

/-- An entry leaves the fields of other names alone. -/
theorem field_set_other (entered : t.set (.string key) v = .ok new) (apart : key ≠ name) :
    new.field name = t.field name := by
  unfold set at entered
  split at entered
  · cases entered
  · split at entered
    · cases entered
      simp [field, get, get?_erase_other apart]
    · cases entered
      simp [field, get, get?_put_other apart]

/-- A table that accepts an entry is not locked. -/
theorem unlocked_of_set {k : Key} (entered : t.set k v = .ok new) : t.readonly = false := by
  unfold set at entered
  split at entered
  · cases entered
  next unlocked => simpa using unlocked

end Table

/-! ## Handlers in fields -/

namespace World

/-- A function that runs a handler stands in a field of a table. -/
def Bears (w : World) (t : TableId) (field : String) (h : Handler) : Prop :=
  ∃ f, (w.table t).field field = .function f ∧ w.handler? f = some h

/-- A handler stands in a field of a table, and the table is locked if that is asked for. -/
structure Installed (t : TableId) (field : String) (h : Handler) (locked : Bool) (w : World) :
    Prop where
  bears : w.Bears t field h
  readonly : locked = true → (w.table t).readonly = true

/-- A table that is not there has nothing, like a new one. -/
theorem table_empty {w : World} {t : TableId} (outside : w.tables.size ≤ t.index) :
    w.table t = Table.empty := by
  rw [table, Array.getD_eq_getD_getElem?, Array.getElem?_eq_none outside]
  rfl

/-- What has entries exists. -/
theorem Bears.index_lt {w : World} {t : TableId} {field : String} {h : Handler}
    (bears : w.Bears t field h) : t.index < w.tables.size := by
  obtain ⟨f, entry, -⟩ := bears
  refine Nat.lt_of_not_le fun outside => ?_
  rw [table_empty outside] at entry
  cases entry

/-- A new table leaves those from before alone. -/
theorem table_push {w : World} {t : TableId} (bound : t.index < w.tables.size) (new : Table) :
    { w with tables := w.tables.push new }.table t = w.table t := by
  simp only [table, Array.getD_eq_getD_getElem?, Array.getElem?_push_lt bound,
    Array.getElem?_eq_getElem bound]

/-- A change of one table leaves the others alone. -/
theorem table_modify (w : World) (t s : TableId) (f : Table → Table) :
    { w with tables := w.tables.modify s.index f }.table t =
      if s.index = t.index ∧ t.index < w.tables.size then f (w.table t) else w.table t := by
  simp only [table, Array.getD_eq_getD_getElem?, Array.getElem?_modify]
  by_cases same : s.index = t.index
  · by_cases bound : t.index < w.tables.size
    · simp [same, bound]
    · simp [same, bound]
  · simp [same]

end World

namespace ScriptM

/-! ## Operations that leave handlers in place -/

/-- The operation leaves a property of the world in place, whether it fails or not. -/
def Keeps {α : Type} (P : World → Prop) (act : ScriptM α) : Prop := ∀ w, P w → P (act w).2

namespace Keeps

section Composed

variable {α β : Type} {P : World → Prop}

/-- The property holds after an operation that keeps it. -/
theorem after {act : ScriptM α} (keeps : Keeps P act) {w v : World} {r : Except ScriptError α}
    (ran : act w = (r, v)) (holds : P w) : P v := by
  have kept := keeps w holds
  rwa [ran] at kept

/-- A value that is returned changes nothing. -/
theorem pure (a : α) : Keeps P (Pure.pure a : ScriptM α) := fun _ h => h

/-- An error changes nothing. -/
theorem throw (e : ScriptError) : Keeps P (MonadExcept.throw e : ScriptM α) := fun _ h => h

theorem get : Keeps P (MonadState.get : ScriptM World) := fun _ h => h

/-- One operation after another. -/
theorem bind {a : ScriptM α} {f : α → ScriptM β} (ha : Keeps P a) (hf : ∀ x, Keeps P (f x)) :
    Keeps P (a >>= f) := by
  intro w h
  have before := ha w h
  rw [run_bind]
  split
  next x v hv =>
    rw [hv] at before
    exact hf x v before
  next e v hv =>
    rw [hv] at before
    exact before

/-- What follows an operation may rely on how it ended. -/
theorem bind_ok {a : ScriptM α} {f : α → ScriptM β} {w : World} (first : P (a w).2)
    (rest : ∀ x v, a w = (.ok x, v) → P v → P (f x v).2) : P ((a >>= f) w).2 := by
  rw [run_bind]
  cases ran : a w with
  | mk r v =>
    rw [ran] at first
    cases r with
    | ok x => exact rest x v ran first
    | error e => exact first

/-- An operation whose result is dropped. -/
theorem discard {a : ScriptM α} (ha : Keeps P a) : Keeps P (Functor.discard a : ScriptM Unit) :=
  ha.bind fun _ => pure ()

/-- One of two operations. -/
theorem ite {p : Prop} [Decidable p] {a b : ScriptM α} (ha : Keeps P a) (hb : Keeps P b) :
    Keeps P (if p then a else b) := by
  split
  · exact ha
  · exact hb

/-- A step that is taken only under a condition. -/
theorem optional {p : Prop} [Decidable p] {a : ScriptM Unit} {rest : Unit → ScriptM β}
    (ha : Keeps P a) (hrest : ∀ u, Keeps P (rest u)) :
    Keeps P (if p then a >>= rest else rest ()) :=
  ite (ha.bind hrest) (hrest ())

/-- An operation that only looks at the world. -/
theorem reads (f : World → α) : Keeps P (do return f (← MonadState.get) : ScriptM α) := fun _ h => h

/-- A check of the state changes nothing. -/
theorem check (f : State → Except ScriptError α) : Keeps P (ScriptM.check f) := by
  intro w h
  rw [run_check]
  exact h

/-- An operation for each entry of a list, up to the first that fails. -/
theorem forM {f : α → ScriptM Unit} (xs : List α) (h : ∀ x ∈ xs, Keeps P (f x)) :
    Keeps P (xs.forM f) := by
  induction xs with
  | nil => exact pure ()
  | cons x rest ih =>
    exact (h x List.mem_cons_self).bind fun _ => ih fun y hy => h y (List.mem_cons_of_mem x hy)

end Composed

variable {t : TableId} {field : String} {h : Handler} {locked : Bool}

/-- The state has no tables. -/
theorem modifyState (f : State → State) :
    Keeps (World.Installed t field h locked) (ScriptM.modifyState f) :=
  fun _ installed => ⟨installed.bears, installed.readonly⟩

theorem push (v : Value) : Keeps (World.Installed t field h locked) (ScriptM.push v) :=
  modifyState _

/-- An operation of the state changes no table. -/
theorem onState (f : State → Except ScriptError State) :
    Keeps (World.Installed t field h locked) (ScriptM.onState f) := by
  intro w installed
  rw [run_onState]
  cases f w.state with
  | ok s => exact ⟨installed.bears, installed.readonly⟩
  | error e => exact installed

theorem popValue : Keeps (World.Installed t field h locked) ScriptM.popValue :=
  (check _).bind fun _ => (modifyState _).bind fun _ => pure _

/-- A new table is none of those from before. -/
theorem allocTable : Keeps (World.Installed t field h locked) ScriptM.allocTable := by
  intro w installed
  have same : { w with tables := w.tables.push Table.empty }.table t = w.table t :=
    World.table_push installed.bears.index_lt _
  obtain ⟨⟨f, entry, known⟩, readonly⟩ := installed
  exact ⟨⟨f, same ▸ entry, known⟩, same ▸ readonly⟩

/-- A new function leaves those from before as they are. -/
theorem allocFunction (g : Function) :
    Keeps (World.Installed t field h locked) (ScriptM.allocFunction g) := by
  rintro w ⟨⟨f, entry, known⟩, readonly⟩
  exact ⟨⟨f, entry, (Leads.evolves (.newFunction w g)).handler_kept known⟩, readonly⟩

/-- A locked table refuses the change, and another one may change other fields. -/
theorem changeTable (s : TableId) {f : Table → Except ScriptError Table}
    (spares : ∀ old new, f old = .ok new → old.readonly = false ∧
      (locked = false → new.field field = old.field field)) :
    Keeps (World.Installed t field h locked) (ScriptM.changeTable s f) := by
  rintro w ⟨⟨g, entry, known⟩, readonly⟩
  unfold ScriptM.changeTable
  rw [run_bind, run_get]
  dsimp only
  cases hs : f (w.table s) with
  | error e => exact ⟨⟨g, entry, known⟩, readonly⟩
  | ok new =>
    obtain ⟨unlocked, spared⟩ := spares _ new hs
    have changed := w.table_modify t s fun _ => new
    show World.Installed t field h locked
      { w with tables := w.tables.modify s.index fun _ => new }
    by_cases here : s.index = t.index ∧ t.index < w.tables.size
    -- the table of the handler was not locked, or it would have refused
    · obtain rfl : s = t := by
        cases s
        cases t
        exact congrArg TableId.mk here.1
      rw [if_pos here] at changed
      have free : locked = false := by
        cases locked with
        | false => rfl
        | true => exact absurd (readonly rfl) (by simp [unlocked])
      refine ⟨⟨g, ?_, known⟩, fun lock => absurd lock (by simp [free])⟩
      rw [changed, spared free]
      exact entry
    · rw [if_neg here] at changed
      exact ⟨⟨g, changed ▸ entry, known⟩, changed ▸ readonly⟩

/-- A lock leaves the fields of a table alone. -/
theorem setReadonly (s : TableId) :
    Keeps (World.Installed t field h locked) (ScriptM.setReadonly s true) := by
  rintro w ⟨⟨f, entry, known⟩, readonly⟩
  have changed := w.table_modify t s fun old => { old with readonly := true }
  show World.Installed t field h locked
    { w with tables := w.tables.modify s.index fun old => { old with readonly := true } }
  split at changed
  · refine ⟨⟨f, ?_, known⟩, fun _ => ?_⟩
    · rw [changed]
      exact entry
    · rw [changed]
  · exact ⟨⟨f, changed ▸ entry, known⟩, changed ▸ readonly⟩

/-- An entry in a locked table is refused, and one under another name leaves the handler alone. -/
theorem setText (s : TableId) (key : String) (apart : locked = true ∨ key ≠ field) (v : Value) :
    Keeps (World.Installed t field h locked) (ScriptM.setText s key v) := by
  refine changeTable s fun old new entered => ⟨Table.unlocked_of_set entered, fun free => ?_⟩
  have apart : key ≠ field := apart.resolve_left (by simp [free])
  exact Table.field_set_other entered apart

/-- The top is entered in a table, under another name or in vain. -/
theorem setField (index : Int) (key : String) (apart : locked = true ∨ key ≠ field) :
    Keeps (World.Installed t field h locked) (ScriptM.setField index key) :=
  (check _).bind fun s => popValue.bind fun v => setText s key apart v

/-- The top becomes a global, under another name or in vain. -/
theorem setGlobal (name : String) (apart : locked = true ∨ name ≠ field) :
    Keeps (World.Installed t field h locked) (ScriptM.setGlobal name) :=
  popValue.bind fun v => (reads _).bind fun s => setText s.globals name apart v

/-- A metatable leaves the fields of a table alone. -/
theorem attach (target : Value) (mt : Option TableId) :
    Keeps (World.Installed t field h locked) (ScriptM.attach target mt) := by
  cases target with
  | table s =>
    refine changeTable s fun old new changed => ?_
    unfold Table.setMetatable at changed
    split at changed
    · cases changed
    next unlocked =>
      cases changed
      exact ⟨by simpa using unlocked, fun _ => rfl⟩
  | userdata u => exact fun _ installed => ⟨installed.bears, installed.readonly⟩
  | _ => exact throw _

/-- The top becomes a metatable. -/
theorem setMetatable (index : Int) :
    Keeps (World.Installed t field h locked) (ScriptM.setMetatable index) := by
  refine (reads _).bind fun target => popValue.bind fun v => ?_
  cases v with
  | nil => exact attach target none
  | table mt => exact attach target (some mt)
  | _ => exact throw _

/-- A metatable is made for a name. -/
theorem newMetatable (name : String) :
    Keeps (World.Installed t field h locked) (ScriptM.newMetatable name) := by
  refine get.bind fun w => ?_
  split
  · exact (push _).bind fun _ => pure _
  · exact allocTable.bind fun _ => (modifyState _).bind fun _ => (push _).bind fun _ => pure _

theorem pushNewTable : Keeps (World.Installed t field h locked) ScriptM.pushNewTable :=
  allocTable.bind fun _ => (push _).bind fun _ => pure _

theorem pushHandler (name : String) (g : Handler) (upvalues : List Value) :
    Keeps (World.Installed t field h locked) (ScriptM.pushHandler name g upvalues) :=
  (allocFunction _).bind fun _ => push _

/-! ## Opening a library -/

/-- Another handler is installed, under another name or in vain. -/
theorem installHandler (index : Int) (key : String) (apart : locked = true ∨ key ≠ field)
    (name : String) (g : Handler) (upvalues : List Value) :
    Keeps (World.Installed t field h locked)
      (ScriptM.installHandler index key name g upvalues) :=
  (pushHandler name g upvalues).bind fun _ => setField index key apart

/-- A library is laid out while the handler is in a locked table. -/
theorem newLibrary (name metatable : String) :
    Keeps (World.Installed t field h true) (ScriptM.newLibrary name metatable) := by
  refine (newMetatable metatable).discard.bind fun _ => get.bind fun w => ?_
  have entered : ∀ _ : Unit, Keeps (World.Installed t field h true) _ := fun _ =>
    (push (.string metatable)).bind fun _ =>
      (setField (-2) World.typeField (.inl rfl)).bind fun _ => pushNewTable.discard.bind fun _ =>
        pushNewTable.discard.bind fun _ => (push (.string name)).bind fun _ =>
          (setField (-2) World.typeField (.inl rfl)).bind fun _ =>
            (pushHandler "builtin_global_index" .builtinGlobalIndex []).bind fun _ =>
              (setField (-2) "__index" (.inl rfl)).bind fun _ => (setMetatable (-2)).bind fun _ =>
                (onState fun s => s.pushValue (-1)).bind fun _ => setGlobal name (.inl rfl)
  exact ite ((onState fun s => s.pop 1).bind fun _ => (throw _).bind entered) (entered ())

/-- A library is finished, under other names or in vain. -/
theorem finishLibrary (isObject : Bool) (apart : locked = true ∨ "__metatable" ≠ field)
    (marked : locked = true ∨ objectMark ≠ field) :
    Keeps (World.Installed t field h locked) (ScriptM.finishLibrary isObject) := by
  refine (check _).bind fun lib => (check _).bind fun mt =>
    optional (setText mt objectMark marked _) fun _ =>
      (setText mt "__metatable" apart _).bind fun _ => get.bind fun w => ?_
  have locks : ∀ _ : Unit, Keeps (World.Installed t field h locked) _ := fun _ =>
    (setReadonly mt).bind fun _ => (setReadonly lib).bind fun _ => onState fun s => s.pop 2
  dsimp only
  split
  next libMt _ =>
    exact (setText libMt "__metatable" apart _).bind fun _ => (setReadonly libMt).bind locks
  next => exact locks ()

/-- Opening another library leaves a handler in a locked table. -/
theorem openBuiltin (b : Registry.Builtin) :
    Keeps (World.Installed t field h true) (ScriptM.openBuiltin b) :=
  (newLibrary b.name b.name).bind fun _ =>
    (installHandler (-3) "__namecall" (.inl rfl) _ _ _).bind fun _ =>
      (installHandler (-3) "__index" (.inl rfl) _ _ _).bind fun _ =>
        (installHandler (-3) "__tostring" (.inl rfl) _ _ _).bind fun _ =>
          (installHandler (-3) "__eq" (.inl rfl) _ _ _).bind fun _ =>
            (installHandler (-2) "new" (.inl rfl) _ _ _).bind fun _ =>
              finishLibrary false (.inl rfl) (.inl rfl)

end Keeps

end ScriptM

end ScriptBind
