import ScriptBind.Proofs.Script.Tables
import ScriptBind.Proofs.Session.Runs
import ScriptBind.Proofs.Session.Views

/-!
# Entries of tables over time

Whatever runs, a table stays a map up to the equality of keys: no two of its keys are equal, and no
value is nil. What is found under a key is therefore what was entered last under an equal one, as far
as the table took it. A table that is read-only takes nothing, and a change that is refused leaves
everything as it was.

Main results:

* `Session.Moment.table_sound` — the tables at every moment of a run.
* `World.get_performed` — what a sequence of changes leaves under a key.
* `tables_are_maps` — a table from when it is made.
-/

namespace ScriptBind

open ScriptM

namespace World

theorem table_putTable_other {w : World} {s t : TableId} (apart : t ≠ s) (new : Table) :
    (w.putTable t new).table s = w.table s :=
  (w.table_modify s t fun _ => new).trans (if_neg fun same => apart (congrArg TableId.mk same.1))

end World

/-! ## In a run -/

theorem Table.Sound.of_entries {t new : Table} (sound : t.Sound) (same : new.entries = t.entries) :
    new.Sound := by
  obtain ⟨apart, present⟩ := sound
  unfold Table.keys at apart
  rw [← same] at apart present
  exact ⟨apart, present⟩

/-- A table stays a map when one table is changed in a way that leaves it a map. -/
theorem World.sound_modify {w : World} {s : TableId} (sound : (w.table s).Sound) (t : TableId)
    {f : Table → Table} (spares : (w.table s).Sound → (f (w.table s)).Sound) :
    ({ w with tables := w.tables.modify t.index f }.table s).Sound := by
  rw [w.table_modify s t f]
  split
  · exact spares sound
  · exact sound

/-- Elementary changes leave maps. -/
theorem Evolves.table_sound {w v : World} (h : Evolves w v) {s : TableId}
    (sound : (w.table s).Sound) : (v.table s).Sound := by
  -- of the elementary changes only `setKey` touches the entries of a table
  induction h with
  | trans _ _ ih ih' => exact ih' (ih sound)
  | @register w _ _ => exact (congrFun w.table_push_empty s).symm ▸ sound
  | newTable w => rwa [w.table_push_empty]
  | @setKey w t k x new allowed =>
    by_cases here : t = s
    · subst here
      exact World.sound_modify sound t fun old => old.of_set allowed
    · rwa [World.table_putTable_other here]
  | @setMetatable w t mt new allowed =>
    by_cases here : t = s
    · subst here
      refine World.sound_modify sound t fun old => old.of_entries ?_
      unfold Table.setMetatable at allowed
      split at allowed
      · cases allowed
      · cases allowed
        rfl
    · rwa [World.table_putTable_other here]
  | setReadonly w t readonly => exact World.sound_modify sound t fun old => old.of_entries rfl
  | namecall _ ih => exact ih sound
  | call _ _ _ _ ih => exact ih sound
  | _ => exact sound

theorem Proceeds.table_sound {w v : World} (h : Proceeds w v) {s : TableId}
    (sound : (w.table s).Sound) : (v.table s).Sound := by
  induction h with
  | evolves h => exact h.table_sound sound
  | state _ _ => exact sound
  | trans _ _ ih ih' => exact ih' (ih sound)

/-- At every moment of a run all tables are maps. -/
theorem Session.Moment.table_sound {es : List Session.Event} {w : World}
    (moment : Session.Moment es w) (t : TableId) : (w.table t).Sound := by
  refine moment.proceeds.table_sound ?_
  -- a session starts with one table, which is empty
  have empty : Session.start.world.table t = Table.empty := by
    obtain ⟨index⟩ := t
    cases index with
    | zero => rfl
    | succ i => exact World.table_empty (Nat.succ_le_succ (Nat.zero_le i))
  rw [empty]
  exact Table.sound_empty

/-! ## Sequences of changes -/

/-- A change of a table. -/
inductive TableAct where
  | set (t : TableId) (k : Key) (v : Value)
  | mark (t : TableId) (readonly : Bool)

def TableAct.perform : TableAct → ScriptM Unit
  | set t k v => setKey t k v
  | mark t readonly => setReadonly t readonly

/-- What the change enters in a table, if it is one of this table and is not refused. -/
def TableAct.entry? (t : TableId) (w : World) : TableAct → Option (Key × Value)
  | set s k v => if s = t ∧ (setKey s k v w).1 = .ok () then some (k, v) else none
  | mark _ _ => none

namespace World

/-- The world after some changes, whether they are refused or not. -/
def performed (w : World) (acts : List TableAct) : World :=
  acts.foldl (fun v act => (act.perform v).2) w

/-- What has been entered in a table, from the first to the last. -/
def writes (t : TableId) : World → List TableAct → List (Key × Value)
  | _, [] => []
  | w, act :: rest => (act.entry? t w).toList ++ writes t (act.perform w).2 rest

end World

namespace ScriptM

/-- A table takes an entry unless it is read-only, and then nothing happens. -/
theorem run_setKey (t : TableId) (k : Key) (v : Value) (w : World) :
    setKey t k v w =
      match (w.table t).set k v with
      | .ok new => (.ok (), w.putTable t new)
      | .error e => (.error e, w) := by
  unfold setKey changeTable
  rw [run_bind, run_get]
  dsimp only
  cases (w.table t).set k v <;> rfl

end ScriptM

variable {w : World} {t : TableId}

theorem TableAct.evolves_perform (act : TableAct) (w : World) : Evolves w (act.perform w).2 := by
  cases act with
  | set s k v => exact Evolving.setKey s k v w
  | mark s readonly => exact Evolving.setReadonly s readonly w

namespace World

/-- One change: what it enters is found under equal keys, and all else is as before. -/
theorem get_perform (sound : (w.table t).Sound) (inside : t.index < w.tables.size) (act : TableAct)
    (k : Key) :
    ((act.perform w).2.table t).get k =
      (Keyed.last? k (act.entry? t w).toList).getD ((w.table t).get k) := by
  cases act with
  | mark s readonly =>
    show ({ w with tables := w.tables.modify s.index fun old => { old with readonly } }.table t).get
      k = _
    rw [w.table_modify t s]
    split <;> rfl
  | set s k' v =>
    show ((setKey s k' v w).2.table t).get k = _
    unfold TableAct.entry?
    dsimp only
    rw [run_setKey]
    -- what is refused is not among the entries, and nothing has changed
    cases taken : (w.table s).set k' v with
    | error e =>
      dsimp only
      rw [if_neg fun both => nomatch both.2]
      rfl
    | ok new =>
      dsimp only
      by_cases here : s = t
      · subst here
        rw [table_putTable inside, if_pos ⟨rfl, rfl⟩, sound.get_of_set taken]
        show _ = (Keyed.last? k [(k', v)]).getD _
        rw [Keyed.last?, Keyed.last?, Option.none_or]
        split <;> rfl
      · rw [table_putTable_other here, if_neg fun both => here both.1]
        rfl

theorem performed_sound (sound : (w.table t).Sound) (acts : List TableAct) :
    ((w.performed acts).table t).Sound := by
  induction acts generalizing w with
  | nil => exact sound
  | cons act rest ih => exact ih ((act.evolves_perform w).table_sound sound)

/-- Under a key is what was entered last under an equal one, and what was there before if nothing
was. The induction is on the changes. -/
theorem get_performed (sound : (w.table t).Sound) (inside : t.index < w.tables.size)
    (acts : List TableAct) (k : Key) :
    ((w.performed acts).table t).get k =
      (Keyed.last? k (w.writes t acts)).getD ((w.table t).get k) := by
  induction acts generalizing w with
  | nil => rfl
  | cons act rest ih =>
    have evolves := act.evolves_perform w
    show (((act.perform w).2.performed rest).table t).get k = _
    rw [ih (evolves.table_sound sound) (Nat.lt_of_lt_of_le inside evolves.size_tables),
      get_perform sound inside, writes, Keyed.last?_append]
    -- the changes that follow count before the first one
    cases Keyed.last? k (writes t (act.perform w).2 rest) <;> rfl

end World

/-- Values make the same key exactly if they are equal. Let a table be new, and let it and other
tables be changed in any way, by entries under any keys, by their removal and by making the tables
read-only and taking that back, where changes may be refused. Then under a key is the value of the
last entry under an equal key that was not refused, and nil if there is none; no two keys that the
table lists are equal, the keys that it lists are those with a value, and its size is their number. A
further entry is refused exactly if the table is read-only, and then nothing changes. -/
theorem tables_are_maps :
    (∀ a b j k, Key.ofValue a = .ok j → Key.ofValue b = .ok k → (j == k) = a.rawEqual b) ∧
    ∀ (w : World) (t : TableId) (acts : List TableAct), t.index < w.tables.size →
      w.table t = Table.empty →
        let z := w.performed acts
        (∀ k, (z.table t).get k = (Keyed.last? k (w.writes t acts)).getD .nil) ∧
        (z.table t).keys.Pairwise (fun j k => (j == k) = false) ∧
        (∀ k, (∃ j ∈ (z.table t).keys, (j == k) = true) ↔ (z.table t).get k ≠ .nil) ∧
        (z.table t).size = (z.table t).keys.length ∧
        ∀ k v, if (z.table t).readonly then setKey t k v z = (.error .readOnly, z)
          else (setKey t k v z).1 = .ok () := by
  refine ⟨fun a b j k ha hb => Key.same_eq_rawEqual ha hb, fun w t acts inside new => ?_⟩
  -- a new table is a map, and all changes leave it one
  have sound : (w.table t).Sound := by
    rw [new]
    exact Table.sound_empty
  have sound' := World.performed_sound sound acts
  refine ⟨fun k => ?_, sound'.apart, fun k => sound'.listed_iff, ?_, fun k v => ?_⟩
  · rw [World.get_performed sound inside, new]
    rfl
  · exact (List.length_map _).symm
  · rw [run_setKey]
    split
    next locked => rw [Table.set_of_readonly locked]
    next free => cases hv : v.isNil <;> simp [Table.set, free, hv]

/-- A table that has taken an entry under `0` and then one under `-0`, and none after it was made
read-only. -/
def zeroActs : List TableAct :=
  [.set ⟨0⟩ (.number 0) (.string "first"), .set ⟨0⟩ (.number (-0)) (.string "second"),
    .mark ⟨0⟩ true, .set ⟨0⟩ (.number 0) .nil]

theorem tables_are_maps_zero :
    Key.ofValue (.number 0) = .ok (.number 0) ∧ Key.ofValue (.number (-0)) = .ok (.number (-0)) ∧
      (Key.number 0 == Key.number (-0)) = true ∧
      ((Session.emptyWorld.performed zeroActs).table ⟨0⟩).get (.number 0) = .string "second" ∧
      ((Session.emptyWorld.performed zeroActs).table ⟨0⟩).size = 1 := by
  have zero : Key.ofValue (.number 0) = .ok (.number 0) :=
    Key.ofValue_number (by decide +kernel)
  have minus : Key.ofValue (.number (-0)) = .ok (.number (-0)) :=
    Key.ofValue_number (by decide +kernel)
  obtain ⟨keys, maps⟩ := tables_are_maps
  obtain ⟨get, -⟩ := maps Session.emptyWorld ⟨0⟩ zeroActs (by decide) rfl
  refine ⟨zero, minus, (keys _ _ _ _ zero minus).trans (by decide +kernel), ?_, by decide +kernel⟩
  rw [get]
  decide +kernel

end ScriptBind
