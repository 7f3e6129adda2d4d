import Mathlib.Data.List.Pairwise
import ScriptBind.Script.Table

/-!
# Tables as finite maps

Keys are compared as values are, so that `0` and `-0` are one key though they are two floats. A key
has a form that it shares with the keys that are the same and with no others. So the comparison is an
equivalence, also between the NaNs that no value makes a key of.

The entries of a table are therefore a map up to that equivalence, as long as no two entries have
the same key and none has the value nil. A new table has no entries, and `Table.set` keeps this.

Main results:

* `Key.same_iff_form` — two keys are the same if their forms are equal.
* `Table.Sound.of_set`, `Table.Sound.get_of_set` — what an accepted change of a table leads to.
* `Table.Sound.listed_iff` — the keys that a table lists are those with a value.
-/

namespace ScriptBind

open Float.Model (UnpackedFloat)
open Float.Model.UnpackedFloat

/-! ## Keys -/

/-- A number with the sign of a zero forgotten. -/
def unsignedZero : UnpackedFloat → UnpackedFloat
  | .zero _ => .zero .positive
  | u => u

theorem compare_magnitudes_eq_iff {m m' : Nat} {e e' : Int} :
    (compare e e').then (compare m m') = .eq ↔ m = m' ∧ e = e' := by
  rw [Ordering.then_eq_eq, Int.compare_eq_eq, Nat.compare_eq_eq, and_comm]

/-- Two numbers are equal if neither is a NaN and they differ in the sign of a zero at most. -/
theorem compare_unpacked_eq_iff (a b : UnpackedFloat) :
    a.compare b = some .eq ↔ a.isNaN = false ∧ unsignedZero a = unsignedZero b := by
  have apart {o : Option Ordering} {u v : UnpackedFloat} {nan : Bool} (unequal : o ≠ some .eq)
      (other : nan = false → unsignedZero u ≠ unsignedZero v) :
      o = some .eq ↔ nan = false ∧ unsignedZero u = unsignedZero v :=
    ⟨fun h => absurd h unequal, fun h => absurd h.2 (other h.1)⟩
  cases a with
  | notANumber => cases b <;> exact apart nofun nofun
  | infinity s =>
    cases b with
    | infinity t =>
      cases s <;> cases t
      · exact ⟨fun _ => ⟨rfl, rfl⟩, fun _ => rfl⟩
      · exact apart nofun nofun
      · exact apart nofun nofun
      · exact ⟨fun _ => ⟨rfl, rfl⟩, fun _ => rfl⟩
    | _ => cases s <;> exact apart nofun nofun
  | zero s =>
    cases b with
    | zero t => exact ⟨fun _ => ⟨rfl, rfl⟩, fun _ => rfl⟩
    | notANumber => exact apart nofun nofun
    | infinity t => cases t <;> exact apart nofun nofun
    | finite t => cases t <;> exact apart nofun nofun
  | finite s m e h =>
    cases b with
    | infinity t => cases s <;> cases t <;> exact apart nofun nofun
    -- two finite numbers are compared by exponents and then by significands
    | finite t m' e' h' =>
      cases s <;> cases t
      · show some ((compare e e').then (compare m m')).swap = some .eq ↔ false = false ∧
          UnpackedFloat.finite .negative m e h = .finite .negative m' e' h'
        rw [Option.some_inj, Ordering.swap_eq_eq, compare_magnitudes_eq_iff, finite.injEq]
        exact ⟨fun same => ⟨rfl, rfl, same⟩, fun same => same.2.2⟩
      · exact apart nofun nofun
      · exact apart nofun nofun
      · show some ((compare e e').then (compare m m')) = some .eq ↔ false = false ∧
          UnpackedFloat.finite .positive m e h = .finite .positive m' e' h'
        rw [Option.some_inj, compare_magnitudes_eq_iff, finite.injEq]
        exact ⟨fun same => ⟨rfl, rfl, same⟩, fun same => same.2.2⟩
    | _ => cases s <;> exact apart nofun nofun

theorem isNaN_unsignedZero (u : UnpackedFloat) : (unsignedZero u).isNaN = u.isNaN := by
  cases u <;> rfl

theorem eq_notANumber_of_isNaN {u : UnpackedFloat} (h : u.isNaN = true) : u = .notANumber := by
  cases u with
  | notANumber => rfl
  | _ => cases h

namespace Key

/-- What a key has in common with the keys that are the same. -/
inductive Form where
  | boolean (value : Bool)
  | number (value : UnpackedFloat)
  | string (value : String)

def form : Key → Form
  | boolean b => .boolean b
  | number x => .number (unsignedZero x.toModel.unpack)
  | string s => .string s

/-- Two keys are the same if their forms are equal. -/
theorem same_iff_form {j k : Key} : (j == k) = true ↔ j.form = k.form := by
  cases j with
  | boolean a => cases k <;> simp [BEq.beq, same, form]
  | string a => cases k <;> simp [BEq.beq, same, form]
  | number x =>
    cases k with
    | number y =>
      show (if x.toModel.unpack.isNaN = true then y.toModel.unpack.isNaN
        else x.toModel.unpack.compare y.toModel.unpack == some .eq) = true ↔ _
      rw [form, form, Form.number.injEq]
      generalize x.toModel.unpack = u, y.toModel.unpack = v
      cases nan : u.isNaN with
      | true =>
        -- all NaNs have one form, which no number has
        rw [if_pos rfl, eq_notANumber_of_isNaN nan]
        constructor
        · intro h
          rw [eq_notANumber_of_isNaN h]
        · intro h
          rw [← isNaN_unsignedZero, ← h]
          rfl
      | false => simp [compare_unpacked_eq_iff, nan]
    | _ => simp [BEq.beq, same, form]

/-- A number that is one makes a key. -/
theorem ofValue_number {x : Float} (number : x.isNaN = false) :
    ofValue (.number x) = .ok (.number x) := by
  rw [ofValue, if_neg (Bool.eq_false_iff.mp number)]

/-- To be the same key is an equivalence. -/
instance : EquivBEq Key where
  rfl := same_iff_form.mpr rfl
  symm h := same_iff_form.mpr (same_iff_form.mp h).symm
  trans h h' := same_iff_form.mpr ((same_iff_form.mp h).trans (same_iff_form.mp h'))

end Key

/-! ## Lists with keys up to an equivalence -/

namespace Keyed

variable {κ α : Type} [BEq κ]

/-- No two pairs have the same key. -/
def Apart (l : List (κ × α)) : Prop := (l.map Prod.fst).Pairwise fun j k => (j == k) = false

/-- A key has a value exactly if one that is the same is listed. -/
theorem isSome_get?_iff_any {k : κ} {l : List (κ × α)} :
    (get? k l).isSome ↔ ∃ j ∈ l.map Prod.fst, (j == k) = true := by
  induction l with
  | nil => simp [get?]
  | cons p rest ih =>
    obtain ⟨j, a⟩ := p
    by_cases here : (j == k) = true
    · simp [get?, here]
    · simp [get?, here, ih]

/-- A value that is found is listed under a key that is the same. -/
theorem exists_same_of_get? {k : κ} {a : α} {l : List (κ × α)} (found : get? k l = some a) :
    ∃ j, (j, a) ∈ l ∧ (j == k) = true := by
  induction l with
  | nil => cases found
  | cons p rest ih =>
    obtain ⟨i, b⟩ := p
    rw [get?] at found
    split at found
    next here =>
      cases found
      exact ⟨i, List.mem_cons_self, here⟩
    next =>
      obtain ⟨j, mem, same⟩ := ih found
      exact ⟨j, List.mem_cons_of_mem _ mem, same⟩

theorem mem_keys_put {j k : κ} {a : α} {l : List (κ × α)} (h : j ∈ (put k a l).map Prod.fst) :
    j ∈ l.map Prod.fst ∨ j = k := by
  induction l with
  | nil => exact .inr (by simpa [put] using h)
  | cons p rest ih =>
    obtain ⟨i, b⟩ := p
    rw [put] at h
    split at h
    next => exact .inl h
    next =>
      rcases List.mem_cons.mp h with rfl | later
      · exact .inl List.mem_cons_self
      · exact (ih later).imp_left (List.mem_cons_of_mem _)

theorem Apart.put {l : List (κ × α)} (apart : Apart l) (k : κ) (a : α) :
    Apart (put k a l) := by
  induction l with
  | nil => exact List.pairwise_singleton ..
  | cons p rest ih =>
    obtain ⟨i, b⟩ := p
    obtain ⟨here, others⟩ := List.pairwise_cons.mp apart
    rw [Keyed.put]
    split
    next => exact apart
    next other =>
      refine List.pairwise_cons.mpr ⟨fun j mem => ?_, ih others⟩
      rcases mem_keys_put mem with known | rfl
      · exact here j known
      · exact Bool.eq_false_iff.mpr other

theorem Apart.erase {l : List (κ × α)} (apart : Apart l) (k : κ) : Apart (erase k l) := by
  unfold Apart
  rw [keys_erase]
  exact apart.sublist List.erase_sublist

variable [EquivBEq κ]

theorem get?_put (j k : κ) (a : α) (l : List (κ × α)) :
    get? j (put k a l) = if k == j then some a else get? j l := by
  induction l with
  | nil => rfl
  | cons p rest ih =>
    obtain ⟨i, b⟩ := p
    rw [put]
    split
    next here =>
      -- the pair keeps its spelling of the key
      rw [get?, get?, BEq.congr_left here]
      split <;> rfl
    next other =>
      rw [get?, get?, ih]
      by_cases found : (i == j) = true
      · have apart : ¬(k == j) = true := fun h => other (BEq.trans found (BEq.symm h))
        rw [if_pos found, if_pos found, if_neg apart]
      · rw [if_neg found, if_neg found]

theorem get?_erase {l : List (κ × α)} (apart : Apart l) (j k : κ) :
    get? j (erase k l) = if k == j then none else get? j l := by
  induction l with
  | nil => simp [erase, get?]
  | cons p rest ih =>
    obtain ⟨i, b⟩ := p
    obtain ⟨here, others⟩ := List.pairwise_cons.mp apart
    rw [erase]
    split
    next same =>
      -- the other pairs have other keys, so the erased one was the only one
      rw [get?, BEq.congr_left same]
      split
      next found =>
        refine Option.eq_none_iff_forall_ne_some.mpr fun a h => ?_
        obtain ⟨i', mem, same'⟩ := exists_same_of_get? h
        have equal : (i == i') = true := BEq.trans (BEq.trans same found) (BEq.symm same')
        rw [here i' (List.mem_map_of_mem mem)] at equal
        cases equal
      next => rfl
    next other =>
      rw [get?, get?, ih others]
      by_cases found : (i == j) = true
      · have apart : ¬(k == j) = true := fun h => other (BEq.trans found (BEq.symm h))
        rw [if_pos found, if_pos found, if_neg apart]
      · rw [if_neg found, if_neg found]

end Keyed

/-! ## Tables -/

namespace Table

/-- No two entries of the table have the same key, and none is nil. -/
structure Sound (t : Table) : Prop where
  apart : t.keys.Pairwise fun j k => (j == k) = false
  present : ∀ p ∈ t.entries, p.2 ≠ .nil

theorem sound_empty : Sound empty where
  apart := .nil
  present _ mem := absurd mem List.not_mem_nil

/-- A table takes a change unless it is read-only. Nil removes the entry, and any other value is
entered. -/
theorem set_eq_ok_iff {t new : Table} {k : Key} {v : Value} :
    t.set k v = .ok new ↔ t.readonly = false ∧
      new = { t with entries :=
        if v.isNil then Keyed.erase k t.entries else Keyed.put k v t.entries } := by
  unfold set
  cases t.readonly with
  | true => simp
  | false => cases v.isNil <;> simp [eq_comm]

theorem isNil_iff {v : Value} : v.isNil = true ↔ v = .nil := by
  cases v <;> simp [Value.isNil]

namespace Sound

variable {t new : Table} {k : Key} {v : Value}

/-- The keys that are listed are those with a value. -/
theorem listed_iff (sound : t.Sound) : (∃ j ∈ t.keys, (j == k) = true) ↔ t.get k ≠ .nil := by
  rw [keys, ← Keyed.isSome_get?_iff_any, get]
  cases found : Keyed.get? k t.entries with
  | none => simp
  | some a =>
    obtain ⟨j, mem, -⟩ := Keyed.exists_same_of_get? found
    simpa using sound.present (j, a) mem

theorem of_set (sound : t.Sound) (ok : t.set k v = .ok new) : new.Sound := by
  obtain ⟨-, rfl⟩ := set_eq_ok_iff.mp ok
  split
  next => exact ⟨Keyed.Apart.erase sound.apart k,
    fun p mem => sound.present p (Keyed.mem_of_mem_erase mem)⟩
  next something =>
    refine ⟨Keyed.Apart.put sound.apart k v, fun p mem => ?_⟩
    rcases Keyed.value_of_mem_put mem with old | entered
    · exact sound.present p old
    · rw [entered]
      exact fun nothing => something (isNil_iff.mpr nothing)

/-- A change is seen under the keys that are the same, and under no others. -/
theorem get_of_set (sound : t.Sound) (ok : t.set k v = .ok new) (j : Key) :
    new.get j = if k == j then v else t.get j := by
  obtain ⟨-, rfl⟩ := set_eq_ok_iff.mp ok
  unfold get
  dsimp only
  split
  -- nil takes the entry away, which makes the key one without a value
  next nothing =>
    rw [Keyed.get?_erase sound.apart, isNil_iff.mp nothing]
    split <;> rfl
  next =>
    rw [Keyed.get?_put]
    split <;> rfl

end Sound

end Table

end ScriptBind
