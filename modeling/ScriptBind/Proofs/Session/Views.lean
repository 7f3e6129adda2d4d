import ScriptBind.Proofs.Session.Opening
import Mathlib.Logic.Function.Basic

/-!
# Operations that succeed

Opening libraries only ever pushes, pops and enters values, and takes tables that are new or not
locked. A `View` is what this depends on and what it changes, and `Turns act a b` says of an
operation that it succeeds wherever things look like `a`, and leaves them looking like `b`.

Main results:

* `Shelf.readonly_enter`, `Shelf.field_enter` — what an entry leaves as it is.
* `Turns.bind` — operations that succeed one after the other.
* `Turns.setField`, `Turns.newMetatable`, … — one lemma for each operation that libraries need.
-/

namespace ScriptBind

open ScriptM

/-! ## Entries and locks -/

namespace Table

/-- The table with a value entered under a name. -/
def entered (t : Table) (name : String) (v : Value) : Table :=
  { t with entries :=
      if v.isNil then Keyed.erase (.string name) t.entries
      else Keyed.put (.string name) v t.entries }

/-- An unlocked table accepts every entry under a text. -/
theorem set_free {t : Table} (free : t.readonly = false) (name : String) (v : Value) :
    t.set (.string name) v = .ok (t.entered name v) := by
  unfold set entered
  rw [if_neg (by simp [free])]
  split <;> rfl

/-- What has been entered is found under its name. -/
theorem field_entered {t : Table} {v : Value} (something : v.isNil = false) (name : String) :
    (t.entered name v).field name = v := by
  simp [entered, field, get, something, get?_put_string]

/-- Under other names nothing has changed. -/
theorem field_entered_other {t : Table} {v : Value} {key name : String} (apart : key ≠ name) :
    (t.entered key v).field name = t.field name := by
  unfold entered field get
  split
  · rw [get?_erase_other apart]
  · rw [get?_put_other apart]

/-- The table has another one as an entry or as its metatable. -/
def Refers (t : Table) (u : TableId) : Prop :=
  (∃ k, (k, Value.table u) ∈ t.entries) ∨ t.metatable = some u

/-- An empty table leads nowhere. -/
theorem not_refers_empty (u : TableId) : ¬ empty.Refers u := by
  rintro (⟨k, entry⟩ | metatable)
  · cases entry
  · cases metatable

/-- A table leads to those among its entries. -/
theorem Refers.of_get {t : Table} {k : Key} {u : TableId} (entry : t.get k = .table u) :
    t.Refers u := by
  unfold get at entry
  cases found : Keyed.get? k t.entries with
  | none =>
    rw [found] at entry
    cases entry
  | some v =>
    rw [found] at entry
    obtain ⟨j, mem⟩ := Keyed.exists_of_get? found
    exact .inl ⟨j, (show v = .table u from entry) ▸ mem⟩

/-- An entry leads to one more table at most. -/
theorem Refers.of_entered {t : Table} {name : String} {v : Value} {u : TableId}
    (h : (t.entered name v).Refers u) : t.Refers u ∨ v = .table u := by
  rcases h with ⟨k, entry⟩ | metatable
  · unfold entered at entry
    dsimp only at entry
    split at entry
    · exact .inl (.inl ⟨k, Keyed.mem_of_mem_erase entry⟩)
    · exact (Keyed.value_of_mem_put entry).imp (fun old => .inl ⟨k, old⟩) Eq.symm
  · exact .inl (.inr metatable)

end Table

/-- The tables of a world by their handles. -/
abbrev Shelf := TableId → Table

namespace Shelf

variable (T : Shelf) (t s : TableId) (name : String) (v : Value) (mt : TableId)

/-- Enters a value into a table. -/
def enter : Shelf := Function.update T t ((T t).entered name v)

/-- Attaches a metatable to a table. -/
def attach : Shelf := Function.update T t { T t with metatable := some mt }

/-- Locks a table. -/
def lock : Shelf := Function.update T t { T t with readonly := true }

variable {T t s name v mt}

theorem enter_self : T.enter t name v t = (T t).entered name v := Function.update_self ..

/-- Other tables have not changed. -/
theorem enter_other (other : s ≠ t) : T.enter t name v s = T s := Function.update_of_ne other ..

theorem attach_other (other : s ≠ t) : T.attach t mt s = T s := Function.update_of_ne other ..

theorem lock_other (other : s ≠ t) : T.lock t s = T s := Function.update_of_ne other ..

/-- An entry takes no lock away. -/
@[simp] theorem readonly_enter : (T.enter t name v s).readonly = (T s).readonly := by
  by_cases same : s = t
  · rw [same, enter_self]
    rfl
  · rw [enter_other same]

/-- An entry leaves the metatable as it is. -/
@[simp] theorem metatable_enter : (T.enter t name v s).metatable = (T s).metatable := by
  by_cases same : s = t
  · rw [same, enter_self]
    rfl
  · rw [enter_other same]

/-- An entry is found in its table under its name, and nowhere else. -/
theorem field_enter {key : String} (apart : s = t → name ≠ key) :
    (T.enter t name v s).field key = (T s).field key := by
  by_cases same : s = t
  · rw [same, enter_self, Table.field_entered_other (apart same)]
  · rw [enter_other same]

/-- A metatable takes no lock away. -/
@[simp] theorem readonly_attach : (T.attach t mt s).readonly = (T s).readonly := by
  by_cases same : s = t
  · rw [same, attach, Function.update_self]
  · rw [attach_other same]

/-- The table has the metatable that it was given. -/
@[simp] theorem metatable_attach : (T.attach t mt t).metatable = some mt :=
  congrArg Table.metatable (Function.update_self (f := T) ..)

/-- A metatable leaves the entries as they are. -/
@[simp] theorem field_attach {key : String} : (T.attach t mt s).field key = (T s).field key := by
  by_cases same : s = t
  · rw [same, attach, Function.update_self]
    rfl
  · rw [attach_other same]

/-- What has been locked is locked. -/
@[simp] theorem readonly_lock : (T.lock t t).readonly = true :=
  congrArg Table.readonly (Function.update_self (f := T) ..)

/-- What was locked before stays so. -/
theorem readonly_lock_of (locked : (T s).readonly = true) : (T.lock t s).readonly = true := by
  by_cases same : s = t
  · rw [same, readonly_lock]
  · rw [lock_other same, locked]

/-- A lock leaves the entries as they are. -/
@[simp] theorem field_lock {key : String} : (T.lock t s).field key = (T s).field key := by
  by_cases same : s = t
  · rw [same, lock, Function.update_self]
    rfl
  · rw [lock_other same]

/-- A lock leaves the metatable as it is. -/
@[simp] theorem metatable_lock : (T.lock t s).metatable = (T s).metatable := by
  by_cases same : s = t
  · rw [same, lock, Function.update_self]
  · rw [lock_other same]

/-- An entry leads to one more table at most, and from its own table only. -/
theorem refers_enter {u : TableId} (h : (T.enter t name v s).Refers u) :
    (T s).Refers u ∨ s = t ∧ v = .table u := by
  by_cases same : s = t
  · rw [same, enter_self] at h
    rw [same]
    exact h.of_entered.imp_right fun entry => ⟨rfl, entry⟩
  · rw [enter_other same] at h
    exact .inl h

/-- Values other than tables make no table refer to another. -/
theorem refers_plain {u : TableId} (plain : ∀ u, v ≠ .table u) (h : (T.enter t name v s).Refers u) :
    (T s).Refers u :=
  (refers_enter h).resolve_right fun entry => plain u entry.2

/-- A text leads to no table. -/
theorem refers_text {u : TableId} {x : String} (h : (T.enter t name (.string x) s).Refers u) :
    (T s).Refers u :=
  refers_plain (v := .string x) nofun h

/-- A function leads to no table. -/
theorem refers_function {u : TableId} {f : FunctionId}
    (h : (T.enter t name (.function f) s).Refers u) : (T s).Refers u :=
  refers_plain (v := .function f) nofun h

/-- A metatable leads to itself, and from its own table only. -/
theorem refers_attach {u : TableId} (h : (T.attach t mt s).Refers u) :
    (T s).Refers u ∨ s = t ∧ u = mt := by
  by_cases same : s = t
  · rw [same, attach, Function.update_self] at h
    rw [same]
    rcases h with entry | metatable
    · exact .inl (.inl entry)
    · exact .inr ⟨rfl, (Option.some.inj metatable).symm⟩
  · rw [attach_other same] at h
    exact .inl h

/-- A lock leads nowhere. -/
theorem refers_lock {u : TableId} : (T.lock t s).Refers u ↔ (T s).Refers u := by
  by_cases same : s = t
  · rw [same, lock, Function.update_self]
    rfl
  · rw [lock_other same]

end Shelf

/-- A table that exists is not one of the next that are made. -/
theorem TableId.ne_add {t : TableId} {n : Nat} (old : t.index < n) (i : Nat) : t ≠ ⟨n + i⟩ := by
  rintro rfl
  exact absurd old (Nat.not_lt.mpr (Nat.le_add_right n i))

/-! ## Values near the top of the stack -/

namespace State

variable {s : State} (framed : s.Framed)
include framed

/-- The value below the top is still there. -/
theorem value?_second (x y : Value) : ((s.push x).push y).value? (-2) = some x :=
  value?_below (show _ = s.stack ++ x :: [y] by simp [push]) framed rfl

/-- A table that was pushed is found at the top. -/
theorem checkTable_top (t : TableId) : (s.push (.table t)).checkTable (-1) = .ok t :=
  checkTable_below (show _ = s.stack ++ .table t :: [] by simp [push]) framed rfl

/-- A table is found below another value. -/
theorem checkTable_second (t : TableId) (y : Value) :
    ((s.push (.table t)).push y).checkTable (-2) = .ok t :=
  checkTable_below (show _ = s.stack ++ .table t :: [y] by simp [push]) framed rfl

/-- A table is found below two other values. -/
theorem checkTable_third (t : TableId) (y z : Value) :
    (((s.push (.table t)).push y).push z).checkTable (-3) = .ok t :=
  checkTable_below (show _ = s.stack ++ .table t :: [y, z] by simp [push]) framed rfl

/-- What has been pushed can be taken off again. -/
theorem pop_second (x y : Value) : ((s.push x).push y).pop 2 = .ok s := by
  have length : ((s.push x).push y).stack.length = s.stack.length + 2 := by simp [push]
  have held : 2 ≤ ((s.push x).push y).top := by
    have low : ((s.push x).push y).base ≤ s.stack.length := framed
    rw [top, length]
    omega
  rw [pop, if_pos held, length, Nat.add_sub_cancel, truncate]
  simp [push]

end State

/-! ## What an operation does to the tables -/

/-- What the opening of libraries depends on, and what it changes. -/
structure View where
  state : State
  /-- How many tables there are. -/
  size : Nat
  table : Shelf
  functions : Array Function
  registries : Array Registry

namespace World

/-- A new table is empty, and so is a table that does not exist. -/
theorem table_push_empty (w : World) :
    { w with tables := w.tables.push Table.empty }.table = w.table := by
  funext t
  by_cases inside : t.index < w.tables.size
  · exact table_push inside _
  · rw [table_empty (w := w) (Nat.le_of_not_lt inside), table, Array.getD_eq_getD_getElem?]
    rcases Nat.eq_or_lt_of_le (Nat.le_of_not_lt inside) with last | beyond
    · rw [← last, Array.getElem?_push_size]
      rfl
    · rw [Array.getElem?_eq_none (by rw [Array.size_push]; omega)]
      rfl

/-- A change of a table that exists changes it and no other. -/
theorem table_update (w : World) {t : TableId} (inside : t.index < w.tables.size)
    (f : Table → Table) :
    { w with tables := w.tables.modify t.index f }.table =
      Function.update w.table t (f (w.table t)) := by
  funext s
  rw [Function.update_apply]
  refine (w.table_modify s t f).trans ?_
  by_cases here : s = t
  · subst here
    rw [if_pos rfl, if_pos ⟨rfl, inside⟩]
  · refine (if_neg fun h => here ?_).trans (if_neg here).symm
    cases s
    cases t
    exact congrArg TableId.mk h.1.symm

/-- A table that exists can be replaced. -/
theorem table_putTable {w : World} {t : TableId} (inside : t.index < w.tables.size) (new : Table) :
    (w.putTable t new).table t = new :=
  (congrFun (w.table_update inside fun _ => new) t).trans (Function.update_self ..)

def view (w : World) : View :=
  ⟨w.state, w.tables.size, w.table, w.functions, w.registries⟩

end World

namespace ScriptM

/-- The operation succeeds in every world that looks as told, and leaves one that looks as told. -/
def Turns (act : ScriptM Unit) (a b : View) : Prop :=
  ∀ w, w.view = a → ∃ v, act w = (.ok (), v) ∧ v.view = b

/-- A table takes an entry unless it is locked. -/
theorem run_setText (t : TableId) (name : String) (x : Value) (w : World) :
    setText t name x w =
      if (w.table t).readonly then (.error .readOnly, w)
      else (.ok (), w.putTable t ((w.table t).entered name x)) := by
  unfold setText setKey changeTable
  rw [run_bind, run_get]
  dsimp only
  cases locked : (w.table t).readonly with
  | true =>
    rw [Table.set_of_readonly locked, if_pos rfl]
    rfl
  | false =>
    rw [Table.set_free locked, if_neg Bool.false_ne_true]
    rfl

namespace Turns

variable {a b c : View} {s : State} {n : Nat} {T : Shelf} {functions : Array Function}
  {R : Array Registry}

/-- Nothing is done. -/
theorem pure : Turns (Pure.pure ()) a a := fun w hw => ⟨w, rfl, hw⟩

/-- One step after the other. -/
theorem bind {act : ScriptM Unit} {rest : Unit → ScriptM Unit} (first : Turns act a b)
    (others : Turns (rest ()) b c) : Turns (act >>= rest) a c := by
  intro w hw
  obtain ⟨u, hu, hub⟩ := first w hw
  obtain ⟨v, hv, hvc⟩ := others u hub
  exact ⟨v, by rw [run_bind, hu]; exact hv, hvc⟩

/-- What is read from the world can be seen, or is of no account. -/
theorem get {rest : World → ScriptM Unit} (others : ∀ w : World, w.view = a → Turns (rest w) a b) :
    Turns (MonadState.get >>= rest) a b := fun w hw => others w hw w hw

/-- The state is read as it is seen. -/
theorem state {rest : State → ScriptM Unit} (others : Turns (rest a.state) a b) :
    Turns (ScriptM.state >>= rest) a b := by
  rintro w rfl
  exact others w rfl

/-- A question about the state has the answer that is seen. -/
theorem query {α : Type} {f : State → α} {rest : α → ScriptM Unit}
    (others : Turns (rest (f a.state)) a b) : Turns (ScriptM.query f >>= rest) a b := by
  rintro w rfl
  exact others w rfl

/-- A check of the state succeeds as is seen. -/
theorem check {α : Type} {f : State → Except ScriptError α} {x : α} {rest : α → ScriptM Unit}
    (ok : f a.state = .ok x) (others : Turns (rest x) a b) :
    Turns (ScriptM.check f >>= rest) a b := by
  rintro w rfl
  obtain ⟨v, hv, hvb⟩ := others w rfl
  refine ⟨v, ?_, hvb⟩
  have ok : f w.state = .ok x := ok
  rw [run_bind, run_check, ok]
  exact hv

/-- An operation of the state turns the state, and nothing else. -/
theorem onState {f : State → Except ScriptError State} {s' : State} (ok : f s = .ok s') :
    Turns (ScriptM.onState f) ⟨s, n, T, functions, R⟩ ⟨s', n, T, functions, R⟩ := by
  intro w hw
  cases hw
  exact ⟨_, by rw [run_onState, ok], rfl⟩

theorem pop {k : Nat} {s' : State} (ok : s.pop k = .ok s') :
    Turns (ScriptM.pop k) ⟨s, n, T, functions, R⟩ ⟨s', n, T, functions, R⟩ :=
  onState ok

theorem push (x : Value) :
    Turns (ScriptM.push x) ⟨s, n, T, functions, R⟩ ⟨s.push x, n, T, functions, R⟩ := by
  rintro w hw
  cases hw
  exact ⟨_, rfl, rfl⟩

/-- The value that was pushed last is taken off, and the rest goes on with it. -/
theorem popValue {x : Value} {rest : Value → ScriptM Unit} (framed : s.Framed)
    (others : Turns (rest x) ⟨s, n, T, functions, R⟩ b) :
    Turns (ScriptM.popValue >>= rest) ⟨s.push x, n, T, functions, R⟩ b := by
  intro w hw
  have state : w.state = s.push x := congrArg View.state hw
  have rested : { w with state := s }.view = ⟨s, n, T, functions, R⟩ := by
    show { w.view with state := s } = _
    rw [hw]
  obtain ⟨v, hv, hvb⟩ := others _ rested
  refine ⟨v, ?_, hvb⟩
  rw [run_bind, run_popValue, state, State.popValue_push framed]
  exact hv

/-- A new table gets the next number. -/
theorem pushNewTable :
    Turns (discard ScriptM.pushNewTable) ⟨s, n, T, functions, R⟩
      ⟨s.push (.table ⟨n⟩), n + 1, T, functions, R⟩ := by
  intro w hw
  cases hw
  refine ⟨_, rfl, ?_⟩
  show View.mk _ _ _ _ _ = _
  congr 1
  · exact Array.size_push ..
  · exact w.table_push_empty

/-- For a name without a metatable, a new table is made and registered. -/
theorem newMetatable {name : String} (new : Keyed.get? name s.metatables = none) :
    Turns (discard (ScriptM.newMetatable name)) ⟨s, n, T, functions, R⟩
      ⟨{ s with metatables := Keyed.put name ⟨n⟩ s.metatables }.push (.table ⟨n⟩), n + 1, T,
        functions, R⟩ := by
  intro w hw
  cases hw
  have new : w.metatableNamed name = none := new
  refine ⟨_, by rw [run_discard, run_newMetatable, new], ?_⟩
  show View.mk _ _ _ _ _ = _
  congr 1
  · exact Array.size_push ..
  · exact w.table_push_empty

/-- A function gets the next number. -/
theorem pushHandler (name : String) (h : Handler) (upvalues : List Value) :
    Turns (ScriptM.pushHandler name h upvalues) ⟨s, n, T, functions, R⟩
      ⟨s.push (.function ⟨functions.size⟩), n, T, functions.push ⟨name, .handler h, upvalues⟩,
        R⟩ := by
  intro w hw
  cases hw
  exact ⟨_, rfl, rfl⟩

/-- A table that accepts a change is changed. -/
theorem changeTable {t : TableId} {f : Table → Except ScriptError Table} {new : Table}
    (inside : t.index < n) (ok : f (T t) = .ok new) :
    Turns (ScriptM.changeTable t f) ⟨s, n, T, functions, R⟩
      ⟨s, n, Function.update T t new, functions, R⟩ := by
  intro w hw
  cases hw
  refine ⟨w.putTable t new, ?_, ?_⟩
  · unfold ScriptM.changeTable
    rw [run_bind, run_get]
    dsimp only
    rw [ok]
    rfl
  · show View.mk _ _ _ _ _ = _
    congr 1
    · exact Array.size_modify
    · exact w.table_update inside fun _ => new

/-- A value is entered in an unlocked table. -/
theorem setText {t : TableId} (inside : t.index < n) (free : (T t).readonly = false)
    (name : String) (x : Value) :
    Turns (ScriptM.setText t name x) ⟨s, n, T, functions, R⟩
      ⟨s, n, T.enter t name x, functions, R⟩ :=
  changeTable (f := fun old => old.set (.string name) x) inside (Table.set_free free name x)

/-- A table is locked. -/
theorem setReadonly {t : TableId} (inside : t.index < n) :
    Turns (ScriptM.setReadonly t true) ⟨s, n, T, functions, R⟩ ⟨s, n, T.lock t, functions, R⟩ := by
  intro w hw
  cases hw
  refine ⟨_, rfl, ?_⟩
  show View.mk _ _ _ _ _ = _
  congr 1
  · exact Array.size_modify
  · exact w.table_update inside fun old => { old with readonly := true }

/-- A value on top of the stack is entered into an unlocked table. -/
theorem setField {index : Int} {key : String} {t : TableId} {x : Value} (framed : s.Framed)
    (found : (s.push x).checkTable index = .ok t) (inside : t.index < n)
    (free : (T t).readonly = false) :
    Turns (ScriptM.setField index key) ⟨s.push x, n, T, functions, R⟩
      ⟨s, n, T.enter t key x, functions, R⟩ :=
  check found (popValue framed (setText inside free key x))

/-- The value that was pushed last becomes a global. -/
theorem setGlobal {name : String} {x : Value} (framed : s.Framed) (inside : s.globals.index < n)
    (free : (T s.globals).readonly = false) :
    Turns (ScriptM.setGlobal name) ⟨s.push x, n, T, functions, R⟩
      ⟨s, n, T.enter s.globals name x, functions, R⟩ :=
  popValue framed (state (setText inside free name x))

/-- The table that was pushed last becomes the metatable of an unlocked one. -/
theorem setMetatable {index : Int} {t mt : TableId} (framed : s.Framed)
    (found : (s.push (.table mt)).value? index = some (.table t)) (inside : t.index < n)
    (free : (T t).readonly = false) :
    Turns (ScriptM.setMetatable index) ⟨s.push (.table mt), n, T, functions, R⟩
      ⟨s, n, T.attach t mt, functions, R⟩ := by
  refine query (popValue framed ?_)
  rw [State.valueOrNil, found]
  exact changeTable (f := fun old => old.setMetatable (some mt)) inside
    (by rw [Table.setMetatable, if_neg (by simp [free])])

end Turns

end ScriptM

end ScriptBind
