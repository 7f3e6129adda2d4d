import ScriptBind.Proofs.Session.Libraries
import ScriptBind.Proofs.Registry.Ancestry
import ScriptBind.Proofs.Registry.Bindings
import ScriptBind.Proofs.Session.SettingUp

/-!
# States with all libraries open

The builtin types, the classes and the enums are opened one after the other, over the same globals
and the same registered metatables. `View.Furnishing` is the invariant of the two loops: which
libraries are open, and that nothing else has been registered or stands among the globals. A library
is refused exactly if one of its name is open, and the enums exactly if a library has their name.

Main results:

* `Opens.forM` — what a loop over libraries needs, and what it leaves.
* `fillEnums_spec` — the same of the enums.
* `World.withRuntime_opens` — when a state with all libraries can be built, and how it looks.
-/

namespace ScriptBind

open ScriptM

/-! ## Open libraries -/

namespace View

/-- The library of a name is open, as `World.Furnished` says it of a world. -/
def Furnished (a : View) (name : String) (isObject : Bool) : Prop :=
  ∃ mt lib, Keyed.get? name a.state.metatables = some mt ∧ (a.table mt).readonly = true ∧
    ((a.table mt).field objectMark).isTruthy = isObject ∧
      (a.table a.state.globals).field name = .table lib ∧ (a.table lib).readonly = true

/-- The libraries of some names are open, and nothing else stands in the way of opening others. -/
structure Furnishing (a : View) (opened : List (String × Bool)) : Prop where
  ready : a.Ready
  registered {name : String} :
    (Keyed.get? name a.state.metatables).isSome ↔ name ∈ opened.map Prod.fst
  furnished : ∀ p ∈ opened, a.Furnished p.1 p.2
  others {name : String} (new : name ∉ opened.map Prod.fst) :
    (a.table a.state.globals).field name = .nil

/-- Nothing but libraries tells the views apart. -/
structure Beside (a b : View) : Prop where
  stack : b.state.stack = a.state.stack
  context : b.state.context = a.state.context
  registries : b.registries = a.registries

/-- Nothing happens beside nothing. -/
theorem Beside.refl (a : View) : a.Beside a := ⟨rfl, rfl, rfl⟩

/-- What is beside both steps is beside the two of them. -/
theorem Beside.trans {a b c : View} (h : a.Beside b) (h' : b.Beside c) : a.Beside c :=
  ⟨h'.stack.trans h.stack, h'.context.trans h.context, h'.registries.trans h.registries⟩

variable {a b : View} {opened : List (String × Bool)} {name : String} {isObject : Bool}

/-- A locked table is one that exists, and it is not the one of the globals. -/
theorem Ready.old_of_locked (ready : a.Ready) {t : TableId} (locked : (a.table t).readonly = true) :
    t.index < a.size ∧ t ≠ a.state.globals := by
  constructor
  · refine Nat.lt_of_not_le fun outside => ?_
    rw [ready.fresh outside] at locked
    cases locked
  · rintro rfl
    rw [ready.free] at locked
    cases locked

/-- What is open stays open when nothing but an entry under another name is made. -/
theorem Furnished.still (ready : a.Ready) (open_ : a.Furnished name isObject)
    (registered : Keyed.get? name b.state.metatables = Keyed.get? name a.state.metatables)
    (globals : b.state.globals = a.state.globals)
    (kept : ∀ t, t ≠ a.state.globals → t.index < a.size → b.table t = a.table t) {key : String}
    (apart : key ≠ name) {x : Value}
    (entered : b.table a.state.globals = (a.table a.state.globals).entered key x) :
    b.Furnished name isObject := by
  obtain ⟨mt, lib, known, locked, mark, entry, locked'⟩ := open_
  have same {t : TableId} (locked : (a.table t).readonly = true) : b.table t = a.table t :=
    kept t (ready.old_of_locked locked).2 (ready.old_of_locked locked).1
  refine ⟨mt, lib, registered.trans known, ?_, ?_, ?_, ?_⟩
  · rw [same locked, locked]
  · rw [same locked, mark]
  · rw [globals, entered, Table.field_entered_other apart, entry]
  · rw [same locked', locked']

end View

namespace ScriptM

variable {a b : View} {opened : List (String × Bool)} {name : String} {isObject : Bool}

/-- A library leaves what is beside it alone. -/
theorem Furnishes.beside (f : Furnishes a name isObject b) : a.Beside b :=
  ⟨by rw [f.state], by rw [f.state], f.registries⟩

/-- The globals are the same table. -/
theorem Furnishes.globals_eq (f : Furnishes a name isObject b) :
    b.state.globals = a.state.globals := by
  rw [f.state]

/-- What is new has been furnished. -/
theorem Furnishes.furnished (f : Furnishes a name isObject b) : b.Furnished name isObject := by
  have inside (i : Nat) (small : i < 3) : a.size + i < b.size :=
    f.size ▸ Nat.add_lt_add_left small a.size
  refine ⟨⟨a.size⟩, ⟨a.size + 1⟩, ?_, f.locked (Nat.le_refl _) (inside 0 (by decide)), f.mark, ?_,
    f.locked (Nat.le_succ _) (inside 1 (by decide))⟩
  · rw [f.state]
    exact Keyed.get?_put_self ..
  · rw [f.globals_eq, f.globals]
    exact Table.field_entered rfl _

/-- After a library has been opened there is room for the next. -/
theorem Furnishes.ready (f : Furnishes a name isObject b) (ready : a.Ready)
    (fresh : ∀ {t : TableId}, b.size ≤ t.index → b.table t = Table.empty) : b.Ready := by
  refine ⟨?_, ?_, ?_, fresh⟩
  · rw [f.state]
    exact ready.framed
  · rw [f.globals_eq, f.size]
    exact Nat.lt_add_right 3 ready.inside
  · rw [f.globals_eq, f.globals]
    exact ready.free

/-- One more library is open. -/
theorem Furnishes.furnishing (f : Furnishes a name isObject b) (h : a.Furnishing opened)
    (new : name ∉ opened.map Prod.fst)
    (fresh : ∀ {t : TableId}, b.size ≤ t.index → b.table t = Table.empty) :
    b.Furnishing (opened ++ [(name, isObject)]) := by
  have names : (opened ++ [(name, isObject)]).map Prod.fst = opened.map Prod.fst ++ [name] :=
    List.map_append
  refine ⟨f.ready h.ready fresh, fun {other} => ?_, fun p hp => ?_, fun {other} hother => ?_⟩
  -- the names that are registered
  · rw [f.state, names, List.mem_append, List.mem_singleton, ← h.registered]
    by_cases same : other = name
    · subst same
      exact ⟨fun _ => .inr rfl, fun _ => by rw [Keyed.get?_put_self]; rfl⟩
    · rw [Keyed.get?_put_ne same]
      exact (or_iff_left same).symm
  -- the libraries that were open, and the new one
  · rcases List.mem_append.mp hp with hp | hp
    · have apart : p.1 ≠ name := fun same => new (same ▸ List.mem_map_of_mem hp)
      refine (h.furnished p hp).still h.ready ?_ f.globals_eq (fun t other old => f.kept old other)
        apart.symm f.globals
      rw [f.state]
      exact Keyed.get?_put_ne apart _ _
    · rw [List.mem_singleton.mp hp]
      exact f.furnished
  · rw [names, List.mem_append, List.mem_singleton, not_or] at hother
    rw [f.globals_eq, f.globals, Table.field_entered_other (Ne.symm hother.2), h.others hother.1]

/-! ## Libraries that are refused -/

variable {w v : World}

/-- A library is refused under a name whose metatable is locked, as it is once a library of the name
is open. -/
theorem newLibrary_refused (framed : w.state.Framed) {mt : TableId}
    (registered : w.metatableNamed name = some mt) (locked : (w.table mt).readonly = true) :
    newLibrary name name w ≠ (.ok (), v) := by
  intro ok
  rw [newLibrary_of_locked framed registered locked] at ok
  cases ok

/-! ## One library after the other -/

/-- A way to open libraries: it opens that of a new name, and starts with what refuses that of a
name whose metatable is locked. -/
structure Opens {α : Type} (act : α → ScriptM Unit) (nameOf : α → String) (isObject : Bool) :
    Prop where
  opens {a : View} (ready : a.Ready) {x : α}
    (new : Keyed.get? (nameOf x) a.state.metatables = none) :
    ∃ b, Turns (act x) a b ∧ Furnishes a (nameOf x) isObject b
  refuses {w v : World} (framed : w.state.Framed) {x : α} {mt : TableId}
    (registered : w.metatableNamed (nameOf x) = some mt)
    (locked : (w.table mt).readonly = true) : act x w ≠ (.ok (), v)

/-- Builtin types are opened one by one, and none is an object. -/
theorem opens_builtin : Opens openBuiltin (fun b => b.name) false where
  opens ready _ new := by
    obtain ⟨b, _, turns, stocks, -⟩ := openBuiltin_stocks ready new
    exact ⟨b, turns, stocks.furnishes⟩
  refuses framed _ _ registered locked ok := by
    obtain ⟨_, u, made, -⟩ := run_bind_eq_ok.mp ok
    exact newLibrary_refused framed registered locked made

/-- Classes are opened one by one, and their metatables are marked. -/
theorem opens_class : Opens openClass (fun k => k.name) true where
  opens ready _ new := by
    obtain ⟨b, _, turns, stocks, -⟩ := openClass_stocks ready new
    exact ⟨b, turns, stocks.furnishes⟩
  refuses framed _ _ registered locked ok := by
    obtain ⟨_, u, made, -⟩ := run_bind_eq_ok.mp ok
    exact newLibrary_refused framed registered locked made

/-- Libraries of different names are opened one after the other exactly if none of them is open
before. The induction is on those that are still to be opened. -/
theorem Opens.forM {α : Type} {act : α → ScriptM Unit} {nameOf : α → String}
    (opens : Opens act nameOf isObject) {xs : List α} (nodup : (xs.map nameOf).Nodup)
    (h : w.view.Furnishing opened) :
    ((∃ v, xs.forM act w = (.ok (), v)) ↔ ∀ x ∈ xs, nameOf x ∉ opened.map Prod.fst) ∧
      ∀ v, xs.forM act w = (.ok (), v) → w.view.Beside v.view ∧
        v.view.Furnishing (opened ++ xs.map fun x => (nameOf x, isObject)) := by
  induction xs generalizing w opened with
  | nil =>
    refine ⟨⟨fun _ x hx => absurd hx List.not_mem_nil, fun _ => ⟨w, rfl⟩⟩, fun v ok => ?_⟩
    cases ok
    rw [List.map_nil, List.append_nil]
    exact ⟨.refl _, h⟩
  | cons x rest ih =>
    rw [List.map_cons, List.nodup_cons] at nodup
    by_cases taken : nameOf x ∈ opened.map Prod.fst
    -- the loop ends at the first name that is taken
    · have refused (v : World) : (x :: rest).forM act w ≠ (.ok (), v) := by
        obtain ⟨p, hp, hname⟩ := List.mem_map.mp taken
        intro ok
        obtain ⟨_, u, first, -⟩ := run_bind_eq_ok.mp ok
        obtain ⟨mt, lib, registered, locked, -⟩ := h.furnished p hp
        exact opens.refuses h.ready.framed (hname ▸ registered) locked first
      refine ⟨⟨fun ⟨v, ok⟩ => absurd ok (refused v), fun all => ?_⟩,
        fun v ok => absurd ok (refused v)⟩
      exact absurd taken (all x List.mem_cons_self)
    · have new : Keyed.get? (nameOf x) w.view.state.metatables = none :=
        Option.not_isSome_iff_eq_none.mp fun some_ => taken (h.registered.mp some_)
      obtain ⟨b, turns, furnishes⟩ := opens.opens h.ready new
      obtain ⟨u, first, rfl⟩ := turns w rfl
      -- the rest goes on with one library more, whose name is none of theirs
      have further := furnishes.furnishing h taken fun outside => World.table_empty outside
      obtain ⟨succeeds, leaves⟩ := ih nodup.2 further
      have step : (x :: rest).forM act w = rest.forM act u := by
        show (act x >>= fun _ => rest.forM act) w = _
        rw [run_bind, first]
      rw [step, succeeds, List.forall_mem_cons]
      refine ⟨⟨fun all => ⟨taken, fun y hy known => ?_⟩, fun all y hy known => ?_⟩, fun v ok => ?_⟩
      · refine all y hy ?_
        rw [List.map_append]
        exact List.mem_append_left _ known
      · rw [List.map_append, List.mem_append] at known
        refine known.elim (all.2 y hy) fun same => nodup.1 ?_
        have same : nameOf y = nameOf x := List.mem_singleton.mp same
        exact same ▸ List.mem_map_of_mem hy
      · obtain ⟨beside, furnishing⟩ := leaves v ok
        rw [List.append_assoc] at furnishing
        exact ⟨furnishes.beside.trans beside, furnishing⟩

/-! ## Global enums -/

namespace Turns

variable {s : State} {n : Nat} {T : Shelf} {F : Array Function} {R : Array Registry}

/-- A table is made and pushed, and the rest goes on with it. -/
theorem pushTable {rest : TableId → ScriptM Unit}
    (others : Turns (rest ⟨n⟩) ⟨s.push (.table ⟨n⟩), n + 1, T, F, R⟩ b) :
    Turns (ScriptM.pushNewTable >>= rest) ⟨s, n, T, F, R⟩ b := by
  intro w hw
  obtain ⟨u, pushed, hu⟩ := pushNewTable w hw
  obtain ⟨v, hv, hvb⟩ := others u hu
  refine ⟨v, ?_, hvb⟩
  have size : w.tables.size = n := congrArg View.size hw
  cases pushed
  rw [← hv, ← size]
  rfl

/-- Integers are entered in an unlocked table one after the other. -/
theorem forM_setText {t : TableId} (inside : t.index < n) (vs : List (String × Int64))
    (free : (T t).readonly = false) :
    ∃ T' : Shelf,
      Turns (vs.forM fun v => ScriptM.setText t v.1 (.number (Number.ofInt64 v.2)))
        ⟨s, n, T, F, R⟩ ⟨s, n, T', F, R⟩ ∧
        (∀ u, u ≠ t → T' u = T u) ∧ (∀ u v, (T' u).Refers v → (T u).Refers v) ∧
        ∀ key, (T' t).field key = ((Keyed.last? key vs).map fun n =>
          .number (Number.ofInt64 n)).getD ((T t).field key) := by
  -- on the entries: the last one of a name is what remains under it
  induction vs generalizing T with
  | nil => exact ⟨T, .pure, fun _ _ => rfl, fun _ _ h => h, fun _ => rfl⟩
  | cons v rest ih =>
    obtain ⟨T', turns, kept, refers, entries⟩ := ih
      (T := T.enter t v.1 (.number (Number.ofInt64 v.2))) (Shelf.readonly_enter.trans free)
    refine ⟨T', (setText inside free _ _).bind turns, fun u other => ?_, fun u v h => ?_,
      fun key => ?_⟩
    · rw [kept u other, Shelf.enter_other other]
    · exact Shelf.refers_plain (v := .number _) nofun (refers u _ h)
    · rw [entries, Shelf.enter_self, Keyed.last?]
      cases Keyed.last? key rest with
      | some n => rfl
      | none =>
        by_cases same : v.1 = key
        · subst same
          rw [Table.field_entered rfl]
          simp
        · rw [Table.field_entered_other same]
          simp [same]

/-- Enums have been entered into a table: for each of them there is a new table, which is locked. -/
structure Fills (enums : TableId) (n : Nat) (T : Shelf) (n' : Nat) (T' : Shelf) : Prop where
  more : n ≤ n'
  free : (T' enums).readonly = false
  kept {t : TableId} (apart : t ≠ enums) (other : t.index < n ∨ n' ≤ t.index) : T' t = T t
  locked {t : TableId} (new : n ≤ t.index) (made : t.index < n') : (T' t).readonly = true
  refers {t u : TableId} (h : (T' t).Refers u) :
    (T t).Refers u ∨ t = enums ∧ n ≤ u.index ∧ u.index < n'

/-- Enums that are entered one after the other are entered together. -/
theorem Fills.trans {enums : TableId} {n₁ n₂ : Nat} {T₁ T₂ : Shelf} (inside : enums.index < n)
    (h : Fills enums n T n₁ T₁) (h' : Fills enums n₁ T₁ n₂ T₂) : Fills enums n T n₂ T₂ where
  more := Nat.le_trans h.more h'.more
  free := h'.free
  kept apart other := by
    have more := h.more
    have more' := h'.more
    rw [h'.kept apart (by omega), h.kept apart (by omega)]
  locked {t} new made := by
    -- a table is filled by the first or by the second, and locked then
    by_cases early : t.index < n₁
    · have apart : t ≠ enums := by
        rintro rfl
        exact absurd inside (Nat.not_lt.mpr new)
      rw [h'.kept apart (.inl early), h.locked new early]
    · exact h'.locked (Nat.le_of_not_lt early) made
  refers entry := by
    have more := h.more
    have more' := h'.more
    rcases h'.refers entry with entry | ⟨same, low, high⟩
    · exact (h.refers entry).imp_right fun ⟨same, low, high⟩ =>
        ⟨same, low, Nat.lt_of_lt_of_le high more'⟩
    · exact .inr ⟨same, Nat.le_trans more low, high⟩

/-- Tables that are still to be made are not locked. -/
theorem Fills.new_free {enums : TableId} {n' : Nat} {T' : Shelf} (h : Fills enums n T n' T')
    (inside : enums.index < n) (new_free : ∀ t : TableId, n ≤ t.index → (T t).readonly = false)
    (t : TableId) (new : n' ≤ t.index) : (T' t).readonly = false := by
  have apart : t ≠ enums := by
    rintro rfl
    exact absurd inside (Nat.not_lt.mpr (Nat.le_trans h.more new))
  rw [h.kept apart (.inr new), new_free t (Nat.le_trans h.more new)]

/-- An enum is entered into the table of enums, and one table is made for it. -/
theorem openEnum {enums : TableId} (framed : s.Framed) (inside : enums.index < n)
    (free : (T enums).readonly = false) (new_free : (T ⟨n⟩).readonly = false)
    (e : Registry.Enumeration) :
    ∃ T' : Shelf,
      Turns (ScriptM.openEnum enums e) ⟨s, n, T, F, R⟩ ⟨s, n + 1, T', F, R⟩ ∧
        Fills enums n T (n + 1) T' ∧ (T' enums).field e.name = .table ⟨n⟩ ∧
        (∀ key ≠ e.name, (T' enums).field key = (T enums).field key) ∧
        ∀ key, ∀ m ∈ Keyed.last? key e.values,
          (T' ⟨n⟩).field key = .number (Number.ofInt64 m) := by
  obtain ⟨T₁, turns, kept, refers, entries⟩ := forM_setText (s := s.push (.table ⟨n⟩)) (F := F)
    (R := R) (Nat.lt_succ_self n) e.values new_free
  have other : enums ≠ ⟨n⟩ := TableId.ne_add inside 0
  -- the new table is locked before it is entered, but the table of enums is another one
  have still_free : ((T₁.lock ⟨n⟩) enums).readonly = false := by
    rw [Shelf.lock_other other, kept enums other, free]
  refine ⟨_, pushTable (turns.bind ((setReadonly (Nat.lt_succ_self n)).bind ((pop
    (State.pop_push framed _)).bind (setText (Nat.lt_succ_of_lt inside) still_free e.name
      (.table ⟨n⟩))))), ⟨Nat.le_succ n, ?_, fun {t} apart other => ?_, fun {t} new made => ?_,
    fun {t u} h => ?_⟩, ?_, fun key apart => ?_, fun key m found => ?_⟩
  · rw [Shelf.readonly_enter, still_free]
  · have apart' : t ≠ ⟨n⟩ := by
      rintro rfl
      exact other.elim (Nat.lt_irrefl n) (Nat.not_succ_le_self n)
    rw [Shelf.enter_other apart, Shelf.lock_other apart', kept t apart']
  · obtain rfl : t = ⟨n⟩ := congrArg TableId.mk (Nat.le_antisymm (Nat.le_of_lt_succ made) new)
    rw [Shelf.readonly_enter, Shelf.readonly_lock]
  · rcases Shelf.refers_enter h with h | ⟨same, entry⟩
    · exact .inl (refers t u (Shelf.refers_lock.mp h))
    · cases entry
      exact .inr ⟨same, Nat.le_refl n, Nat.lt_succ_self n⟩
  · rw [Shelf.enter_self, Table.field_entered rfl]
  · rw [Shelf.enter_self, Table.field_entered_other (Ne.symm apart), Shelf.lock_other other,
      kept enums other]
  · rw [Shelf.enter_other other.symm, Shelf.field_lock, entries, found]
    rfl

/-- The enum is entered under a name: its table has the integers of the enum. -/
def Lists (T : Shelf) (enums : TableId) (name : String) (e : Registry.Enumeration) (t : TableId) :
    Prop :=
  (T enums).field name = .table t ∧
    ∀ key, ∀ m ∈ Keyed.last? key e.values, (T t).field key = .number (Number.ofInt64 m)

/-- Enums are entered one after the other, and of two with one name the last one stays. -/
theorem forM_openEnum {enums : TableId} (framed : s.Framed) (inside : enums.index < n)
    (free : (T enums).readonly = false)
    (new_free : ∀ t : TableId, n ≤ t.index → (T t).readonly = false)
    (es : List Registry.Enumeration) :
    ∃ (T' : Shelf) (n' : Nat),
      Turns (es.forM (ScriptM.openEnum enums)) ⟨s, n, T, F, R⟩
        ⟨s, n', T', F, R⟩ ∧ Fills enums n T n' T' ∧
        (∀ key ∉ es.map fun e => e.name, (T' enums).field key = (T enums).field key) ∧
        ∀ name, ∀ e ∈ Keyed.last? name (es.map fun e => (e.name, e)),
          ∃ t, n ≤ t.index ∧ t.index < n' ∧ Lists T' enums name e t := by
  induction es generalizing T n with
  | nil =>
    exact ⟨T, n, .pure, ⟨Nat.le_refl n, free, fun _ _ => rfl,
      fun new made => absurd made (Nat.not_lt.mpr new), .inl⟩, fun _ _ => rfl, nofun⟩
  | cons e rest ih =>
    obtain ⟨T₁, turns, fills, entry, others, entries⟩ := openEnum (F := F) (R := R) framed inside
      free (new_free ⟨n⟩ (Nat.le_refl n)) e
    obtain ⟨T₂, n₂, turns₂, fills₂, others₂, last⟩ := ih (Nat.lt_succ_of_lt inside) fills.free
      (fills.new_free inside new_free)
    refine ⟨T₂, n₂, turns.bind turns₂, fills.trans inside fills₂, fun key apart => ?_,
      fun name k found => ?_⟩
    · rw [List.map_cons, List.mem_cons, not_or] at apart
      rw [others₂ key apart.2, others key apart.1]
    · rw [Option.mem_def, List.map_cons, Keyed.last?] at found
      cases later : Keyed.last? name (rest.map fun e => (e.name, e)) with
      | some k' =>
        rw [later] at found
        cases found
        obtain ⟨t, low, high, lists⟩ := last name k later
        exact ⟨t, Nat.le_of_succ_le low, high, lists⟩
      -- none of the rest has the name of this one, so its entry stays
      | none =>
        rw [later, Option.none_or, Option.ite_none_right_eq_some] at found
        obtain ⟨here, found⟩ := found
        cases found
        obtain rfl := beq_iff_eq.mp here
        have free_name := Keyed.last?_eq_none.mp later
        rw [List.map_map] at free_name
        have apart : (⟨n⟩ : TableId) ≠ enums := (TableId.ne_add inside 0).symm
        refine ⟨⟨n⟩, Nat.le_refl n, fills₂.more, ?_, fun key m value => ?_⟩
        · rw [others₂ _ free_name, entry]
        · rw [fills₂.kept apart (.inl (Nat.lt_succ_self n)), entries key m value]

/-- The registry is read as it is seen. -/
theorem registry {c : Context} {rest : Registry → ScriptM Unit}
    (others : Turns (rest (R.getD c.registry default)) ⟨s, n, T, F, R⟩ b) :
    Turns (ScriptM.registry c >>= rest) ⟨s, n, T, F, R⟩ b := by
  intro w hw
  obtain ⟨v, hv, hvb⟩ := others w hw
  refine ⟨v, ?_, hvb⟩
  rw [run_bind, run_registry]
  cases hw
  exact hv

/-- The table of enums is made when the global of its name is nil. -/
theorem enumTable {rest : TableId → ScriptM Unit} (framed : s.Framed)
    (inside : s.globals.index < n) (free : (T s.globals).readonly = false)
    (nil : (T s.globals).field enumGlobal = .nil)
    (others : Turns (rest ⟨n⟩)
      ⟨s, n + 1, T.enter s.globals enumGlobal (.table ⟨n⟩), F, R⟩ b) :
    Turns (ScriptM.enumTable >>= rest) ⟨s, n, T, F, R⟩ b := by
  intro w hw
  have makes : Turns
      (ScriptM.pushNewTable >>= fun t => ScriptM.setGlobal enumGlobal >>= fun _ => rest t)
      ⟨s, n, T, F, R⟩ b :=
    pushTable ((setGlobal framed (Nat.lt_succ_of_lt inside) free).bind others)
  obtain ⟨v, hv, hvb⟩ := makes w hw
  refine ⟨v, ?_, hvb⟩
  have nil : (w.table w.state.globals).field enumGlobal = .nil := by
    cases hw
    exact nil
  -- a world with this view takes the branch that makes the table
  have made : ScriptM.enumTable w =
      (do
        let t ← ScriptM.pushNewTable
        ScriptM.setGlobal enumGlobal
        return t : ScriptM TableId) w := by
    unfold ScriptM.enumTable
    rw [run_bind, run_get]
    dsimp only
    rw [nil]
  rw [run_bind, made, ← run_bind, bind_assoc]
  simpa only [bind_assoc, pure_bind] using hv

end Turns

/-- A locked table in the place of the enums is not taken for theirs. -/
theorem enumTable_refused {lib t : TableId}
    (entry : (w.table w.state.globals).field enumGlobal = .table lib)
    (locked : (w.table lib).readonly = true) : enumTable w ≠ (.ok t, v) := by
  unfold enumTable
  rw [run_bind, run_get]
  dsimp only
  rw [entry]
  dsimp only
  rw [if_pos locked]
  exact fun h => by cases h

/-! ## The three groups -/

/-- The result of the last operation is dropped. -/
theorem discard_bind {α β : Type} (act : ScriptM α) (rest : α → ScriptM β) :
    (discard (act >>= rest) : ScriptM Unit) = act >>= fun x => discard (rest x) := by
  funext w
  rw [run_discard, run_bind, run_bind]
  rcases act w with ⟨_ | x, v⟩
  · rfl
  · exact (run_discard (rest x) v).symm

/-- A count that is dropped is nothing. -/
theorem discard_pure (count : Nat) :
    (discard (pure count : ScriptM Nat) : ScriptM Unit) = pure () :=
  rfl

/-- The context is found, and the rest goes on with it. -/
theorem run_context_bind {α : Type} {c : Context} (context : w.state.context = some c)
    (rest : Context → ScriptM α) : (ScriptM.context >>= rest) w = rest c w := by
  rw [run_bind, run_context, context]

/-- The builtin types that have libraries are opened in turn. -/
theorem run_openBuiltins {c : Context} (context : w.state.context = some c) :
    discard openBuiltins w = (libraryTypes (w.registry c.registry)).forM openBuiltin w := by
  unfold openBuiltins
  rw [discard_bind, run_context_bind context]
  simp only [discard_bind, discard_pure, bind_pure_unit]
  rfl

/-- All classes are opened in turn. -/
theorem run_openClasses {c : Context} (context : w.state.context = some c) :
    discard openClasses w = (w.registry c.registry).classes.forM openClass w := by
  unfold openClasses
  rw [discard_bind, run_context_bind context]
  simp only [discard_bind, discard_pure, bind_pure_unit]
  rfl

/-- What is left of `openEnums` with a context at hand. -/
def fillEnums (c : Context) : ScriptM Unit := do
  let enums ← enumTable
  let declared := (← registry c).enums
  declared.forM (openEnum enums)
  setReadonly enums true

/-- Opening the enums leaves a table in the global of their name, which lists them; all new tables are
locked, and refer to new tables only. -/
theorem turns_fillEnums (ready : a.Ready) (c : Context)
    (nil : (a.table a.state.globals).field enumGlobal = .nil) :
    ∃ b, Turns (fillEnums c) a b ∧ b.state = a.state ∧ b.registries = a.registries ∧
      a.size < b.size ∧
      (∀ t, t ≠ a.state.globals → t.index < a.size → b.table t = a.table t) ∧
      b.table a.state.globals = (a.table a.state.globals).entered enumGlobal (.table ⟨a.size⟩) ∧
      (∀ t, a.size ≤ t.index → t.index < b.size → (b.table t).readonly = true) ∧
      (∀ t u, a.size ≤ t.index → (b.table t).Refers u → a.size ≤ u.index ∧ u.index < b.size) ∧
      ∀ name, ∀ e ∈ Keyed.last? name ((a.registries.getD c.registry default).enums.map
        fun e => (e.name, e)), ∃ t, a.size ≤ t.index ∧ t.index < b.size ∧
          Turns.Lists b.table ⟨a.size⟩ name e t := by
  obtain ⟨s, n, T, F, R⟩ := a
  obtain ⟨framed, inside, free, fresh⟩ := ready
  dsimp only at framed inside free fresh nil ⊢
  have unlocked : ∀ t : TableId, n ≤ t.index →
      (T.enter s.globals enumGlobal (.table ⟨n⟩) t).readonly = false := fun t new => by
    rw [Shelf.readonly_enter, fresh new]
    rfl
  obtain ⟨T', n', turns, fills, -, last⟩ := Turns.forM_openEnum (s := s) (F := F) (R := R) framed
    (Nat.lt_succ_self n) (unlocked ⟨n⟩ (Nat.le_refl n))
    (fun t new => unlocked t (Nat.le_of_succ_le new))
    (R.getD c.registry default).enums
  have still {t : TableId} (old : t.index < n) :
      T'.lock ⟨n⟩ t = T.enter s.globals enumGlobal (.table ⟨n⟩) t := by
    have apart : t ≠ ⟨n⟩ := TableId.ne_add old 0
    rw [Shelf.lock_other apart, fills.kept apart (.inl (Nat.lt_succ_of_lt old))]
  refine ⟨⟨s, n', T'.lock ⟨n⟩, F, R⟩, Turns.enumTable framed inside free nil
    (Turns.registry (turns.bind (Turns.setReadonly fills.more))), rfl, rfl, fills.more,
    fun t apart old => ?_, ?_, fun t new made => ?_, fun t u new h => ?_, fun name e found => ?_⟩
  · exact (still old).trans (Shelf.enter_other apart)
  · exact (still inside).trans Shelf.enter_self
  -- the table of the enums is locked at the end, and the others when they are entered
  · rcases Nat.eq_or_lt_of_le new with here | above
    · obtain rfl : (⟨n⟩ : TableId) = t := congrArg TableId.mk here
      exact Shelf.readonly_lock
    · exact Shelf.readonly_lock_of (fills.locked above made)
  · rcases fills.refers (Shelf.refers_lock.mp h) with old | ⟨-, low, high⟩
    · rcases Shelf.refers_enter old with old | ⟨rfl, -⟩
      · rw [fresh new] at old
        exact absurd old (Table.not_refers_empty u)
      · exact absurd inside (Nat.not_lt.mpr new)
    · exact ⟨Nat.le_of_succ_le low, high⟩
  · obtain ⟨t, low, high, entry, entries⟩ := last name e found
    refine ⟨t, Nat.le_of_succ_le low, high, Shelf.field_lock.trans entry, fun key m value => ?_⟩
    exact Shelf.field_lock.trans (entries key m value)

/-- The enums are entered, and counted for nothing. -/
theorem run_openEnums {c : Context} (context : w.state.context = some c) :
    discard openEnums w = fillEnums c w := by
  unfold openEnums fillEnums
  rw [discard_bind, run_context_bind context]
  simp only [discard_bind, discard_pure, bind_pure_unit]

/-- No builtin type is called like the table of enums. -/
theorem name_ne_enumGlobal (t : Tag) : t.name ≠ enumGlobal := by
  cases t <;> decide

/-- All three groups. -/
def openAll : ScriptM Unit := do
  discard openBuiltins
  discard openClasses
  discard openEnums

/-- A setup that opens all three groups opens them in turn. -/
theorem openLibraries_all {s : Setup} (builtins : s.builtins = true) (classes : s.classes = true)
    (enums : s.enums = true) : openLibraries s = openAll := by
  unfold openLibraries openAll
  rw [builtins, classes, enums]
  rfl

/-- The enums are opened exactly if no library stands in their place, and leave all libraries as
they are. -/
theorem fillEnums_spec (h : w.view.Furnishing opened) (c : Context) :
    ((∃ v, fillEnums c w = (.ok (), v)) ↔ enumGlobal ∉ opened.map Prod.fst) ∧
      ∀ v, fillEnums c w = (.ok (), v) → v.state = w.state ∧
        (∀ p ∈ opened, v.view.Furnished p.1 p.2) ∧
        ∃ t, (v.table v.state.globals).field enumGlobal = .table t ∧
          (v.table t).readonly = true := by
  -- a library in the place of the enums is locked, and then the enums cannot be filled in
  by_cases taken : enumGlobal ∈ opened.map Prod.fst
  · have refused (v : World) : fillEnums c w ≠ (.ok (), v) := by
      obtain ⟨p, hp, name⟩ := List.mem_map.mp taken
      intro ok
      obtain ⟨t, u, found, -⟩ := run_bind_eq_ok.mp ok
      obtain ⟨-, lib, -, -, -, entry, locked⟩ := h.furnished p hp
      exact enumTable_refused (name ▸ entry) locked found
    exact ⟨⟨fun ⟨v, ok⟩ => absurd ok (refused v), fun free => absurd taken free⟩,
      fun v ok => absurd ok (refused v)⟩
  · obtain ⟨b, turns, state, -, more, kept, entered, locked, -⟩ :=
      turns_fillEnums h.ready c (h.others taken)
    obtain ⟨u, filled, rfl⟩ := turns w rfl
    refine ⟨⟨fun _ => taken, fun _ => ⟨u, filled⟩⟩, fun v ok => ?_⟩
    obtain rfl : u = v := (Prod.mk.inj (filled.symm.trans ok)).2
    have state : u.state = w.state := state
    refine ⟨state, fun p hp => ?_, ⟨w.tables.size⟩, ?_, locked _ (Nat.le_refl _) more⟩
    · refine (h.furnished p hp).still h.ready ?_ ?_ kept ?_ entered
      · show Keyed.get? p.1 u.state.metatables = _
        rw [state]
        rfl
      · exact congrArg State.globals state
      · exact fun same => taken (same ▸ List.mem_map_of_mem hp)
    · have globals : u.table w.state.globals = _ := entered
      rw [state, globals]
      exact Table.field_entered rfl _

/-- All libraries of a registry open in a new state exactly if the names of its classes are not
those of its builtin types, nor that of the enums. -/
theorem openAll_spec {c : Context} (context : w.state.context = some c)
    (new : w.view.Furnishing [])
    (named : ∀ b ∈ libraryTypes (w.registry c.registry), b.tag.name = b.name)
    (builtins : ((libraryTypes (w.registry c.registry)).map fun b => b.name).Nodup)
    (classes : ((w.registry c.registry).classes.map fun k => k.name).Nodup) :
    ((∃ v, openAll w = (.ok (), v)) ↔ ∀ k ∈ (w.registry c.registry).classes,
      k.name ≠ enumGlobal ∧ k.name ∉ (libraryTypes (w.registry c.registry)).map fun b => b.name) ∧
    ∀ v, openAll w = (.ok (), v) → v.state.stack = w.state.stack ∧
      (∀ b ∈ libraryTypes (w.registry c.registry), v.view.Furnished b.name false) ∧
      (∀ k ∈ (w.registry c.registry).classes, v.view.Furnished k.name true) ∧
      ∃ t, (v.table v.state.globals).field enumGlobal = .table t ∧ (v.table t).readonly = true := by
  obtain ⟨opens, leaves⟩ := opens_builtin.forM builtins new
  obtain ⟨u, opened⟩ := opens.mpr fun _ _ => List.not_mem_nil
  obtain ⟨beside, furnished⟩ := leaves u opened
  rw [List.nil_append] at furnished
  have context' : u.state.context = some c := beside.context.trans context
  have registry : u.registry c.registry = w.registry c.registry :=
    congrArg (fun rs : Array Registry => rs.getD c.registry default) beside.registries
  obtain ⟨opens', leaves'⟩ := opens_class.forM classes furnished
  have run : openAll w =
      ((w.registry c.registry).classes.forM openClass >>= fun _ => discard openEnums) u := by
    unfold openAll
    rw [run_bind, run_openBuiltins context, opened]
    dsimp only
    rw [run_bind, run_openClasses context', registry, run_bind]
  have later {v : World} (ok : (w.registry c.registry).classes.forM openClass u = (.ok (), v)) :
      v.state.context = some c ∧ v.state.stack = w.state.stack := by
    have beside' := (leaves' v ok).1
    exact ⟨beside'.context.trans context', beside'.stack.trans beside.stack⟩
  have names : ((libraryTypes (w.registry c.registry)).map fun b => (b.name, false)).map Prod.fst =
      (libraryTypes (w.registry c.registry)).map fun b => b.name := List.map_map ..
  have names' : ((w.registry c.registry).classes.map fun k => (k.name, true)).map Prod.fst =
      (w.registry c.registry).classes.map fun k => k.name := List.map_map ..
  -- no builtin type is called like the table of enums
  have builtin_named : enumGlobal ∉ (libraryTypes (w.registry c.registry)).map fun b => b.name := by
    intro taken
    obtain ⟨b, hb, name⟩ := List.mem_map.mp taken
    exact name_ne_enumGlobal b.tag ((named b hb).trans name)
  rw [names] at opens'
  refine ⟨⟨fun ⟨v, ok⟩ k hk => ?_, fun apart => ?_⟩, fun v ok => ?_⟩
  -- what has succeeded has opened the classes and found the place of the enums free
  · rw [run] at ok
    obtain ⟨_, u', opened', filled⟩ := run_bind_eq_ok.mp ok
    rw [run_openEnums (later opened').1] at filled
    have free := (fillEnums_spec (leaves' u' opened').2 c).1.mp ⟨v, filled⟩
    refine ⟨fun same => free ?_, opens'.mp ⟨u', opened'⟩ k hk⟩
    rw [List.map_append, names', List.mem_append]
    exact .inr (same ▸ List.mem_map_of_mem hk)
  -- the classes open after the builtin types, and the enums after both
  · obtain ⟨u', opened'⟩ := opens'.mpr fun k hk => (apart k hk).2
    obtain ⟨v, filled⟩ := (fillEnums_spec (leaves' u' opened').2 c).1.mpr fun taken => by
      rw [List.map_append, names, names', List.mem_append] at taken
      refine taken.elim builtin_named fun taken => ?_
      obtain ⟨k, hk, same⟩ := List.mem_map.mp taken
      exact (apart k hk).1 same
    refine ⟨v, ?_⟩
    rw [run, run_bind, opened']
    dsimp only
    rw [run_openEnums (later opened').1, filled]
  · rw [run] at ok
    obtain ⟨_, u', opened', filled⟩ := run_bind_eq_ok.mp ok
    rw [run_openEnums (later opened').1] at filled
    obtain ⟨state, furnished', enums⟩ := (fillEnums_spec (leaves' u' opened').2 c).2 v filled
    refine ⟨?_, fun b hb => ?_, fun k hk => ?_, enums⟩
    · rw [state, (later opened').2]
    · exact furnished' (b.name, false)
        (List.mem_append_left _ (List.mem_map_of_mem (f := fun b => (b.name, false)) hb))
    · exact furnished' (k.name, true)
        (List.mem_append_right _ (List.mem_map_of_mem (f := fun k => (k.name, true)) hk))

end ScriptM

/-! ## States with bindings -/

namespace World

/-- The library of a name is open: it is the global of that name, its metatable is registered under
the name, both are locked, and the metatable has the mark of objects or has it not. -/
def Furnished (w : World) (name : String) (isObject : Bool) : Prop :=
  ∃ mt lib, w.metatableNamed name = some mt ∧ (w.table mt).readonly = true ∧
    w.isObjectMetatable mt = isObject ∧
      (w.table w.state.globals).field name = .table lib ∧ (w.table lib).readonly = true

/-- A new state with a context has no libraries yet, and nothing that stands in their way. -/
theorem furnishing_new (w : World) (context : Option Context) :
    { w.withNewState with state := { w.withNewState.state with context } }.view.Furnishing [] := by
  have empty :
      { w with tables := w.tables.push Table.empty }.table ⟨w.tables.size⟩ = Table.empty := by
    rw [w.table_push_empty]
    exact table_empty (Nat.le_refl _)
  refine ⟨⟨Nat.zero_le _, ?_, ?_, fun outside => table_empty outside⟩, fun {name} => ?_, nofun,
    fun {name} _ => ?_⟩
  · show w.tables.size < (w.tables.push Table.empty).size
    rw [Array.size_push]
    exact Nat.lt_succ_self _
  · exact (congrArg Table.readonly empty).trans rfl
  · exact ⟨fun h => absurd h Bool.false_ne_true, fun h => absurd h List.not_mem_nil⟩
  · exact (congrArg (fun t => Table.field t name) empty).trans rfl

variable {w : World} {d : Api.Document}

/-- A state with bindings is what the opening of all three groups makes of a new one. -/
theorem withRuntime_all {s : Setup} (builtins : s.builtins = true) (classes : s.classes = true)
    (enums : s.enums = true) {host i : Nat} {v : World} :
    w.withRuntime s host i = .ok v ↔ openAll (w.withContext host i) = (.ok (), v) := by
  rw [withRuntime_eq_ok, openLibraries_all builtins classes enums]

/-- The builtin types of a description that have libraries, by name. -/
theorem mem_libraryTypes {r : Registry} (built : Registry.ofApi d = .ok r) {name : String} :
    name ∈ (libraryTypes r).map (fun b => b.name) ↔
      ∃ b ∈ d.builtins, b.name = name ∧ ∃ t, b.tag = .ok t ∧ t.isScriptNative = false := by
  rw [List.mem_map]
  constructor
  · rintro ⟨b, hb, rfl⟩
    obtain ⟨hb, foreign⟩ := List.mem_filter.mp hb
    obtain ⟨a, ha, made⟩ := (Registry.mem_builtins_iff built).mp hb
    obtain ⟨same, tag⟩ := Registry.Builtin.of_ofApi made
    exact ⟨a, ha, same.symm, b.tag, tag, by simpa using foreign⟩
  · rintro ⟨a, ha, rfl, t, tag, foreign⟩
    obtain ⟨b, made⟩ := Registry.exists_made.mp ⟨_, (Registry.builtins_of_ofApi built).1⟩ a ha
    obtain ⟨same, tag'⟩ := Registry.Builtin.of_ofApi made
    have tag_eq : b.tag = t := Except.ok.inj (tag'.symm.trans tag)
    refine ⟨b, List.mem_filter.mpr ⟨(Registry.mem_builtins_iff built).mpr ⟨a, ha, made⟩, ?_⟩, same⟩
    rw [tag_eq, foreign]
    rfl

/-- A state with all libraries can be built for an accepted description exactly if the names of its
classes are not those of builtin types that have libraries, nor that of the enums. Then the library
of each such type and of each class is open, and so are the enums. -/
theorem withRuntime_opens {host i : Nat} (built : Registry.ofApi d = .ok (w.registry i)) {s : Setup}
    (builtins : s.builtins = true) (classes : s.classes = true) (enums : s.enums = true) :
    ((∃ v, w.withRuntime s host i = .ok v) ↔
      ∀ c ∈ d.classes, c.name ≠ enumGlobal ∧
        ∀ b ∈ d.builtins, ∀ t, b.tag = .ok t → t.isScriptNative = false → b.name ≠ c.name) ∧
    ∀ v, w.withRuntime s host i = .ok v →
      v.state.stack = [] ∧
      (∀ b ∈ d.builtins, ∀ t, b.tag = .ok t → t.isScriptNative = false →
        v.Furnished b.name false) ∧
      (∀ c ∈ d.classes, v.Furnished c.name true) ∧
      ∃ t, (v.table v.state.globals).field enumGlobal = .table t ∧ (v.table t).readonly = true := by
  obtain ⟨named, -⟩ := Registry.named_builtins built
  have sub : libraryTypes (w.registry i) ⊆ (w.registry i).builtins := fun _ => List.mem_of_mem_filter
  obtain ⟨succeeds, leaves⟩ := openAll_spec (c := ⟨host, i⟩) rfl (w.furnishing_new _)
    (fun b hb => (named b (sub hb)).tag)
    ((Registry.nodup_builtin_names built).sublist (List.filter_sublist.map _))
    (Registry.ordered_classes built).name_nodup
  simp only [withRuntime_all builtins classes enums]
  refine ⟨succeeds.trans ⟨fun apart c hc => ?_, fun apart k hk => ?_⟩, fun v ok => ?_⟩
  -- names of the description and names in the registry are the same
  · obtain ⟨k, hk, made⟩ := Registry.exists_class built hc
    obtain ⟨enum, builtin⟩ := apart k hk
    rw [(Registry.Class.of_ofApi made).1] at enum builtin
    exact ⟨enum, fun b hb t tag foreign same =>
      builtin ((mem_libraryTypes built).mpr ⟨b, hb, same, t, tag, foreign⟩)⟩
  · obtain ⟨c, hc, made⟩ := (Registry.mem_classes_iff built).mp hk
    rw [(Registry.Class.of_ofApi made).1]
    refine ⟨(apart c hc).1, fun clash => ?_⟩
    obtain ⟨b, hb, same, t, tag, foreign⟩ := (mem_libraryTypes built).mp clash
    exact (apart c hc).2 b hb t tag foreign same
  · obtain ⟨stack, furnished, furnished', enum⟩ := leaves v ok
    refine ⟨stack, fun b hb t tag foreign => ?_, fun c hc => ?_, enum⟩
    · obtain ⟨k, hk, same⟩ := List.mem_map.mp
        ((mem_libraryTypes built).mpr ⟨b, hb, rfl, t, tag, foreign⟩)
      exact same ▸ furnished k hk
    · obtain ⟨k, hk, made⟩ := Registry.exists_class built hc
      exact (Registry.Class.of_ofApi made).1 ▸ furnished' k hk

theorem withRuntime_opens_planar :
    ∃ r, Registry.ofApi Registry.planar = .ok r ∧
      ∃ v, { Session.emptyWorld with registries := #[r] }.withRuntime
          ⟨none, false, none, true, true, true⟩ 0 0 = .ok v ∧
        v.Furnished "Vector2" false ∧ v.Furnished "Node2D" true := by
  obtain ⟨r, built⟩ : Registry.Succeeds (Registry.ofApi Registry.planar) :=
    Registry.succeeds_of_isOk (by decide +kernel)
  obtain ⟨succeeds, leaves⟩ := @withRuntime_opens { Session.emptyWorld with registries := #[r] } _ 0 0
    built ⟨none, false, none, true, true, true⟩ rfl rfl rfl
  obtain ⟨v, ok⟩ := succeeds.mpr fun c hc => by
    refine ⟨?_, fun b hb t _ _ => ?_⟩
    · rcases List.mem_pair.mp hc with rfl | rfl <;> decide
    · obtain rfl := List.mem_singleton.mp hb
      rcases List.mem_pair.mp hc with rfl | rfl <;> decide
  obtain ⟨-, builtins, classes, -⟩ := leaves v ok
  exact ⟨r, built, v, ok, builtins _ List.mem_cons_self .vector2 rfl rfl,
    classes _ List.mem_cons_self⟩

end World

end ScriptBind
