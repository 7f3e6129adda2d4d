import ScriptBind.Proofs.Script.Tables
import ScriptBind.Proofs.Session.Shelves

/-!
# Tables of enums

For each enum a table is made, filled and locked, and entered into the table of all enums. Where two
enums have one name, the table of the second one takes the place of the first one's. The table of all
enums is a new one, or one that a script has left in its place.

Main results:

* `Table.get_listing` — what the table of an enum has under each key.
* `Files.of_forM` — the tables that a loop over enums leaves.
* `enumTables_openEnums` — once the enums have been opened, each name leads to the last enum that has
  it.
-/

namespace ScriptBind

open ScriptM

/-! ## One enum -/

namespace Table

variable {t : Table} {vs : List (String × Int64)}

/-- The table with integers entered one after the other. -/
def withIntegers (t : Table) (vs : List (String × Int64)) : Table :=
  vs.foldl (fun t v => t.entered v.1 (.number (Number.ofInt64 v.2))) t

/-- A locked table with nothing but these integers. -/
def listing (vs : List (String × Int64)) : Table := { empty.withIntegers vs with readonly := true }

theorem get_entered {v : Value} (something : v.isNil = false) (name : String) (k : Key) :
    (t.entered name v).get k = if Key.string name == k then v else t.get k := by
  unfold entered get
  rw [something, if_neg Bool.false_ne_true, Keyed.get?_put]
  split <;> rfl

/-- The last integer of a name counts, and other keys are not touched. -/
theorem get_withIntegers (k : Key) :
    (t.withIntegers vs).get k =
      match k with
      | .string name =>
        ((Keyed.last? name vs).map fun n => .number (Number.ofInt64 n)).getD (t.get k)
      | _ => t.get k := by
  induction vs generalizing t with
  | nil => cases k <;> rfl
  -- the first integer is what the rest starts from
  | cons v rest ih =>
    have first := @get_entered t (.number (Number.ofInt64 v.2)) rfl v.1 k
    refine ih.trans ?_
    rw [first]
    cases k with
    | string name =>
      dsimp only
      rw [Keyed.last?, Key.string_beq]
      cases Keyed.last? name rest with
      | some n => rfl
      | none => by_cases same : v.1 = name <;> simp [same]
    | _ => rfl

/-- The table of an enum has its integers and nothing else. -/
theorem get_listing (e : Api.EnumEntry) (k : Key) : (listing e.integers).get k = e.value k := by
  refine (@get_withIntegers empty e.integers k).trans ?_
  cases k <;> rfl

end Table

/-- A table that stands under the name of the enums before they are opened exists, and it is not that
of the globals. -/
def World.EnumsAside (w : World) : Prop :=
  ∀ t : TableId, (w.table w.state.globals).field enumGlobal = .table t →
    t.index < w.tables.size ∧ t ≠ w.state.globals

/-- A table that enums can be entered into: it exists and is not locked, it stands among the globals
of `s`, and it is not that of the globals. -/
structure World.TakesEnums (v : World) (s : State) (enums : TableId) : Prop where
  inside : enums.index < v.tables.size
  other : enums ≠ s.globals
  free : (v.table enums).readonly = false
  entry : (v.table s.globals).field enumGlobal = .table enums

namespace ScriptM

variable {s : State} {n : Nat} {T : Shelf} {F : Array Function} {R : Array Registry} {enums : TableId}

namespace Turns

/-- Integers are entered into one table. -/
theorem fillTable {t : TableId} (inside : t.index < n) (vs : List (String × Int64))
    (free : (T t).readonly = false) :
    Turns (vs.forM fun v => ScriptM.setText t v.1 (.number (Number.ofInt64 v.2)))
      ⟨s, n, T, F, R⟩ ⟨s, n, Function.update T t ((T t).withIntegers vs), F, R⟩ := by
  -- all entries go into one table, so its updates fold into one
  induction vs generalizing T with
  | nil =>
    rw [Table.withIntegers, List.foldl_nil, Function.update_eq_self]
    exact .pure
  | cons v rest ih =>
    have others := ih (T := T.enter t v.1 (.number (Number.ofInt64 v.2)))
      (Shelf.readonly_enter.trans free)
    rw [Shelf.enter_self, Shelf.enter, Function.update_idem] at others
    exact (setText inside free _ _).bind others

/-- The table of an enum is made, and entered into the table of all enums. -/
theorem fileEnum (framed : s.Framed) (inside : enums.index < n) (free : (T enums).readonly = false)
    (fresh : T ⟨n⟩ = Table.empty) (e : Registry.Enumeration) :
    Turns (ScriptM.openEnum enums e) ⟨s, n, T, F, R⟩
      ⟨s, n + 1, Shelf.enter (Function.update T ⟨n⟩ (.listing e.values)) enums e.name (.table ⟨n⟩), F,
        R⟩ := by
  have new : (⟨n⟩ : TableId).index < n + 1 := Nat.lt_succ_self n
  have other : enums ≠ ⟨n⟩ := TableId.ne_add inside 0
  have filled := fillTable (s := s.push (.table ⟨n⟩)) (F := F) (R := R) new e.values
    (show (T ⟨n⟩).readonly = false by rw [fresh]; rfl)
  have locked : Turns (ScriptM.setReadonly ⟨n⟩ true)
      ⟨s.push (.table ⟨n⟩), n + 1, Function.update T ⟨n⟩ ((T ⟨n⟩).withIntegers e.values), F, R⟩ _ :=
    setReadonly new
  rw [Shelf.lock, Function.update_self, Function.update_idem, fresh] at locked
  rw [fresh] at filled
  have still_free : (Function.update T ⟨n⟩ (.listing e.values) enums).readonly = false := by
    rw [Function.update_of_ne other, free]
  exact pushTable (filled.bind (locked.bind ((pop (State.pop_push framed _)).bind
    (setText (Nat.lt_succ_of_lt inside) still_free e.name (.table ⟨n⟩)))))

end Turns

/-! ## One enum after the other -/

/-- Enums have been entered into a table, each with a table of its own. -/
structure Files (enums : TableId) (n : Nat) (T : Shelf) (es : List Registry.Enumeration) (n' : Nat)
    (T' : Shelf) : Prop where
  more : n ≤ n'
  free : (T' enums).readonly = false
  kept {t : TableId} (apart : t ≠ enums) (other : t.index < n ∨ n' ≤ t.index) : T' t = T t
  undeclared {name : String} (other : name ∉ es.map fun e => e.name) :
    (T' enums).field name = (T enums).field name
  declared {name : String} {e : Registry.Enumeration}
    (last : Keyed.last? name (es.map fun e => (e.name, e)) = some e) :
    ∃ t : TableId, n ≤ t.index ∧ t.index < n' ∧ (T' enums).field name = .table t ∧
      T' t = .listing e.values

/-- Of two enums of one name the last one stays. The induction is on the enums. -/
theorem Files.of_forM (framed : s.Framed) (inside : enums.index < n)
    (free : (T enums).readonly = false)
    (fresh : ∀ {t : TableId}, n ≤ t.index → T t = Table.empty) (es : List Registry.Enumeration) :
    ∃ n' T', Turns (es.forM (ScriptM.openEnum enums)) ⟨s, n, T, F, R⟩ ⟨s, n', T', F, R⟩ ∧
      Files enums n T es n' T' := by
  induction es generalizing T n with
  | nil => exact ⟨n, T, .pure, Nat.le_refl n, free, fun _ _ => rfl, fun _ => rfl, nofun⟩
  | cons e rest ih =>
    have first := Turns.fileEnum (F := F) (R := R) framed inside free (fresh (Nat.le_refl n)) e
    have other : enums ≠ ⟨n⟩ := TableId.ne_add inside 0
    generalize step : Shelf.enter (Function.update T ⟨n⟩ (.listing e.values)) enums e.name
      (.table ⟨n⟩) = T₁ at first
    -- what the first one has done
    have kept₁ {t : TableId} (apart : t ≠ enums) (other : t ≠ ⟨n⟩) : T₁ t = T t := by
      rw [← step, Shelf.enter_other apart, Function.update_of_ne other]
    have own : T₁ ⟨n⟩ = .listing e.values := by
      rw [← step, Shelf.enter_other other.symm, Function.update_self]
    have entry : (T₁ enums).field e.name = .table ⟨n⟩ := by
      rw [← step, Shelf.enter_self, Table.field_entered rfl]
    have others {name : String} (apart : e.name ≠ name) :
        (T₁ enums).field name = (T enums).field name := by
      rw [← step, Shelf.enter_self, Table.field_entered_other apart, Function.update_of_ne other]
    have free₁ : (T₁ enums).readonly = false := by
      rw [← step, Shelf.readonly_enter, Function.update_of_ne other, free]
    have above {t : TableId} (new : n + 1 ≤ t.index) : T₁ t = Table.empty := by
      have apart : t ≠ enums := by
        rintro rfl
        omega
      have new' : t ≠ ⟨n⟩ := by
        rintro rfl
        exact absurd new (Nat.not_succ_le_self n)
      rw [kept₁ apart new', fresh (Nat.le_of_succ_le new)]
    obtain ⟨n', T', turns, files⟩ := ih (Nat.lt_succ_of_lt inside) free₁ above
    have more := files.more
    refine ⟨n', T', first.bind turns, Nat.le_of_succ_le more, files.free, fun {t} apart outside => ?_,
      fun {name} undeclared => ?_, fun {name k} last => ?_⟩
    · have new' : t ≠ ⟨n⟩ := by
        rintro rfl
        exact outside.elim (Nat.lt_irrefl n) (Nat.not_le_of_lt more)
      rw [files.kept apart (by omega), kept₁ apart new']
    · rw [List.map_cons, List.mem_cons, not_or] at undeclared
      rw [files.undeclared undeclared.2, others (Ne.symm undeclared.1)]
    · rw [List.map_cons, Keyed.last?] at last
      cases later : Keyed.last? name (rest.map fun e => (e.name, e)) with
      | some k' =>
        rw [later] at last
        cases last
        obtain ⟨t, low, high, entered, table⟩ := files.declared later
        exact ⟨t, Nat.le_of_succ_le low, high, entered, table⟩
      -- none of the rest has the name of this one, so its table stays
      | none =>
        rw [later, Option.none_or, Option.ite_none_right_eq_some] at last
        obtain ⟨here, last⟩ := last
        cases last
        obtain rfl := beq_iff_eq.mp here
        have alone := Keyed.last?_eq_none.mp later
        rw [List.map_map] at alone
        refine ⟨⟨n⟩, Nat.le_refl n, more, ?_, ?_⟩
        · rw [files.undeclared alone, entry]
        · rw [files.kept other.symm (.inl (Nat.lt_succ_self n)), own]

/-! ## The table of all enums -/

section Open

variable {w v : World} {c : Context}

/-- A table that is made for the enums takes them. Only the globals change. -/
theorem takesEnums_made (orderly : w.Orderly)
    (ok : (pushNewTable >>= fun t => setGlobal enumGlobal >>= fun _ => pure t) w =
      (.ok enums, v)) :
    v.state = w.state ∧ v.registries = w.registries ∧ v.TakesEnums w.state enums := by
  obtain ⟨t, u, made, ok⟩ := run_bind_eq_ok.mp ok
  obtain ⟨_, u', entered, ok⟩ := run_bind_eq_ok.mp ok
  cases ok
  let x : World := { w with tables := w.tables.push Table.empty }
  obtain ⟨rfl, rfl⟩ : ⟨w.tables.size⟩ = enums ∧
      { x with state := x.state.push (.table ⟨w.tables.size⟩) } = u := by
    cases made
    exact ⟨rfl, rfl⟩
  have framed : x.state.Framed := orderly.framed
  have entered : setText x.state.globals enumGlobal (.table ⟨w.tables.size⟩) x = (.ok (), v) :=
    (run_setGlobal framed rfl).symm.trans entered
  have tables : x.table = w.table := w.table_push_empty
  have size : x.tables.size = w.tables.size + 1 := Array.size_push ..
  have globals_made : x.state.globals.index < w.tables.size := orderly.rooted.made
  have inside : x.state.globals.index < x.tables.size := by omega
  have apart : (⟨w.tables.size⟩ : TableId) ≠ w.state.globals :=
    (TableId.ne_add orderly.rooted.made 0).symm
  -- the globals have taken the new table
  have view : v.view = _ := (Turns.setText inside (unlocked_of_setText entered).1 _ _).after entered
  have table : v.table =
      Shelf.enter w.table w.state.globals enumGlobal (.table ⟨w.tables.size⟩) := by
    rw [← tables]
    exact congrArg View.table view
  have size' : v.tables.size = x.tables.size := congrArg View.size view
  refine ⟨congrArg View.state view, congrArg View.registries view, ?_, apart, ?_, ?_⟩
  · show w.tables.size < v.tables.size
    omega
  · have empty : w.table ⟨w.tables.size⟩ = Table.empty := World.table_empty (Nat.le_refl _)
    rw [table, Shelf.enter_other apart, empty]
    rfl
  · rw [table, Shelf.enter_self, Table.field_entered rfl]

/-- The table that enums are entered into takes them. -/
theorem enumTable_ok (orderly : w.Orderly) (aside : w.EnumsAside)
    (ok : enumTable w = (.ok enums, v)) :
    v.state = w.state ∧ v.registries = w.registries ∧ v.TakesEnums w.state enums := by
  unfold enumTable at ok
  rw [run_bind, run_get] at ok
  dsimp only at ok
  cases entry : (w.table w.state.globals).field enumGlobal with
  -- a table that a script has left there, or none
  | table t =>
    rw [entry] at ok
    dsimp only at ok
    split at ok
    · cases ok
    next free =>
      cases ok
      obtain ⟨inside, other⟩ := aside _ entry
      exact ⟨rfl, rfl, inside, other, Bool.eq_false_iff.mpr free, entry⟩
  | nil =>
    rw [entry] at ok
    exact takesEnums_made orderly ok
  | _ =>
    rw [entry] at ok
    cases ok

/-- Once the enums have been opened, a locked table stands in their place. It leads from each name to
the locked table of the last enum of this name. -/
theorem enumTables_openEnums {d : Api.Document} {count : Nat} (orderly : w.Orderly)
    (context : w.state.context = some c) (built : Registry.ofApi d = .ok (w.registry c.registry))
    (aside : w.EnumsAside) (ok : openEnums w = (.ok count, v)) :
    ∃ enums, (v.table v.state.globals).field enumGlobal = .table enums ∧
      (v.table enums).readonly = true ∧
      ∀ name e, Keyed.last? name (d.enums.map fun e => (e.name, e)) = some e →
        ∃ t, (v.table enums).field name = .table t ∧ v.table t = .listing e.integers := by
  have filled : fillEnums c w = (.ok (), v) := by
    rw [← run_openEnums context, run_discard, ok]
  obtain ⟨enums, u, found, filled⟩ := run_bind_eq_ok.mp filled
  obtain ⟨state, registries, takes⟩ := enumTable_ok orderly aside found
  have framed : u.state.Framed := by
    rw [state]
    exact orderly.framed
  obtain ⟨n', T', turns, files⟩ := Files.of_forM (F := u.functions) (R := u.registries) framed
    takes.inside takes.free (fun new => World.table_empty new) (w.registry c.registry).enums
  have registry : u.registry c.registry = w.registry c.registry :=
    congrArg (fun rs : Array Registry => rs.getD c.registry default) registries
  have all : Turns ((u.registry c.registry).enums.forM (openEnum enums) >>= fun _ =>
      setReadonly enums true) u.view
      ⟨u.state, n', T'.lock enums, u.functions, u.registries⟩ := by
    rw [registry]
    exact turns.bind (Turns.setReadonly (Nat.lt_of_lt_of_le takes.inside files.more))
  -- so the tables of the enums are those that have been filed
  have view := all.after filled
  have table : v.table = T'.lock enums := congrArg View.table view
  have state' : v.state = w.state := (congrArg View.state view).trans state
  have old : w.state.globals.index < u.tables.size :=
    Nat.lt_of_lt_of_le orderly.rooted.made ((Evolving.enumTable.ran found).size_tables)
  refine ⟨enums, ?_, ?_, fun name e last => ?_⟩
  · rw [state', table, Shelf.lock_other takes.other.symm, files.kept takes.other.symm (.inl old),
      takes.entry]
  · rw [table, Shelf.readonly_lock]
  · obtain ⟨k, last, values⟩ := Registry.last?_enums built last
    obtain ⟨t, low, -, entry, own⟩ := files.declared last
    have other : t ≠ enums := by
      rintro rfl
      exact absurd takes.inside (Nat.not_lt.mpr low)
    refine ⟨t, ?_, ?_⟩
    · rw [table, Shelf.field_lock, entry]
    · rw [table, Shelf.lock_other other, own, values]

end Open

end ScriptM

end ScriptBind
