/-!
# Lists with keys

Maps as lists of pairs, in the order in which keys were first entered.

* `Keyed.get?` — the value under a key.
* `Keyed.put` — a value under a key. A key that is already there keeps its place and its spelling.
* `Keyed.erase` — the pairs with other keys.
* `Keyed.last?` — the last value under a key, which is left when all pairs are put in order.
-/

namespace ScriptBind.Keyed

variable {κ α : Type} [BEq κ]

/-- The value under a key. -/
def get? (k : κ) : List (κ × α) → Option α
  | [] => none
  | (j, a) :: rest => if j == k then some a else get? k rest

/-- The list with a value under a key. -/
def put (k : κ) (a : α) : List (κ × α) → List (κ × α)
  | [] => [(k, a)]
  | (j, b) :: rest => if j == k then (j, a) :: rest else (j, b) :: put k a rest

/-- The pairs whose key is another one. -/
def erase (k : κ) : List (κ × α) → List (κ × α)
  | [] => []
  | (j, b) :: rest => if j == k then rest else (j, b) :: erase k rest

/-- The last value under a key. -/
def last? (k : κ) : List (κ × α) → Option α
  | [] => none
  | (j, a) :: rest => (last? k rest).or (if j == k then some a else none)

/-! ## Reading back -/

theorem get?_put_self [LawfulBEq κ] (k : κ) (a : α) (l : List (κ × α)) :
    get? k (put k a l) = some a := by
  induction l with
  | nil => simp [put, get?]
  | cons p rest ih =>
    obtain ⟨j, b⟩ := p
    by_cases h : j == k
    · simp [put, get?, h]
    · simp [put, get?, h, ih]

theorem get?_put_ne [LawfulBEq κ] {j k : κ} (h : j ≠ k) (a : α) (l : List (κ × α)) :
    get? j (put k a l) = get? j l := by
  induction l with
  | nil => simp [put, get?, Ne.symm h]
  | cons p rest ih =>
    obtain ⟨i, b⟩ := p
    by_cases hk : i = k
    · subst hk
      simp [put, get?, Ne.symm h]
    · have hb : (i == k) = false := by simpa using hk
      by_cases hj : (i == j) = true <;> simp [put, get?, hb, hj, ih]

/-- A key that is new comes last, and a known one keeps its place. -/
theorem keys_put [LawfulBEq κ] (k : κ) (a : α) (l : List (κ × α)) :
    (put k a l).map Prod.fst =
      if k ∈ l.map Prod.fst then l.map Prod.fst else l.map Prod.fst ++ [k] := by
  induction l with
  | nil => simp [put]
  | cons p rest ih =>
    obtain ⟨j, b⟩ := p
    by_cases h : j = k
    · simp [put, h]
    · have h' : ¬ k = j := fun e => h e.symm
      simp only [put, beq_iff_eq, h, if_false, List.map_cons, ih, List.mem_cons, h', false_or]
      split <;> simp

theorem put_new {k : κ} {l : List (κ × α)} (new : get? k l = none) (a : α) :
    put k a l = l ++ [(k, a)] := by
  induction l with
  | nil => rfl
  | cons p rest ih =>
    obtain ⟨j, b⟩ := p
    rw [get?] at new
    split at new
    next => cases new
    next other => rw [put, if_neg other, ih new, List.cons_append]

/-- A list in which a value has been put under a key has no other new values. -/
theorem value_of_mem_put {k : κ} {a : α} {l : List (κ × α)} {p : κ × α} (h : p ∈ put k a l) :
    p ∈ l ∨ p.2 = a := by
  induction l with
  | nil =>
    rw [put, List.mem_singleton] at h
    exact .inr (by rw [h])
  | cons q rest ih =>
    rw [put] at h
    split at h
    · rcases List.mem_cons.mp h with rfl | old
      · exact .inr rfl
      · exact .inl (List.mem_cons_of_mem _ old)
    · rcases List.mem_cons.mp h with rfl | later
      · exact .inl List.mem_cons_self
      · exact (ih later).imp_left (List.mem_cons_of_mem _)

/-- A key has a value exactly if it is listed. -/
theorem isSome_get?_iff [LawfulBEq κ] {k : κ} {l : List (κ × α)} :
    (get? k l).isSome ↔ k ∈ l.map Prod.fst := by
  induction l with
  | nil => exact ⟨fun h => (by cases h), fun h => absurd h List.not_mem_nil⟩
  | cons e rest ih =>
    obtain ⟨j, a⟩ := e
    rw [get?, List.map_cons, List.mem_cons, ← ih]
    split
    next h => exact ⟨fun _ => .inl (LawfulBEq.eq_of_beq h).symm, fun _ => rfl⟩
    next h => exact ⟨.inr, fun h' => h'.resolve_left fun e => h (beq_iff_eq.mpr e.symm)⟩

/-- A value that is found is that of some key. -/
theorem exists_of_get? {k : κ} {a : α} {l : List (κ × α)} (found : get? k l = some a) :
    ∃ j, (j, a) ∈ l := by
  induction l with
  | nil => cases found
  | cons e rest ih =>
    rw [get?] at found
    split at found
    · cases found
      exact ⟨_, List.mem_cons_self⟩
    · obtain ⟨j, mem⟩ := ih found
      exact ⟨j, List.mem_cons_of_mem _ mem⟩

theorem mem_of_get? [LawfulBEq κ] {k : κ} {a : α} {l : List (κ × α)}
    (found : get? k l = some a) : (k, a) ∈ l := by
  induction l with
  | nil => cases found
  | cons e rest ih =>
    rw [get?] at found
    split at found
    next h =>
      cases found
      rw [← LawfulBEq.eq_of_beq h]
      exact List.mem_cons_self
    next => exact List.mem_cons_of_mem _ (ih found)

/-- The keys that are left are the others, in their places. -/
theorem keys_erase (k : κ) (l : List (κ × α)) :
    (erase k l).map Prod.fst = (l.map Prod.fst).erase k := by
  induction l with
  | nil => rfl
  | cons p rest ih =>
    obtain ⟨j, b⟩ := p
    rw [erase, List.map_cons, List.erase_cons]
    split
    · rfl
    · rw [List.map_cons, ih]

theorem get?_erase_ne [LawfulBEq κ] {j k : κ} (h : j ≠ k) (l : List (κ × α)) :
    get? j (erase k l) = get? j l := by
  induction l with
  | nil => rfl
  | cons p rest ih =>
    obtain ⟨i, b⟩ := p
    by_cases hk : i = k
    · subst hk
      simp [erase, get?, Ne.symm h]
    · have hb : (i == k) = false := by simpa using hk
      by_cases hj : (i == j) = true <;> simp [erase, get?, hb, hj, ih]

theorem mem_of_mem_erase {k : κ} {l : List (κ × α)} {p : κ × α} (h : p ∈ erase k l) : p ∈ l := by
  induction l with
  | nil => exact h
  | cons q rest ih =>
    rw [erase] at h
    split at h
    · exact List.mem_cons_of_mem _ h
    · rcases List.mem_cons.mp h with rfl | later
      · exact List.mem_cons_self
      · exact List.mem_cons_of_mem _ (ih later)

/-! ## Last values -/

theorem last?_append (k : κ) (l m : List (κ × α)) :
    last? k (l ++ m) = (last? k m).or (last? k l) := by
  induction l with
  | nil => simp [last?]
  | cons p rest ih =>
    obtain ⟨j, a⟩ := p
    rw [List.cons_append, last?, last?, ih, Option.or_assoc]

/-- Pairs that are put one after the other: the last one under a key counts. -/
theorem get?_foldl_put [LawfulBEq κ] (k : κ) (l known : List (κ × α)) :
    get? k (l.foldl (fun known p => put p.1 p.2 known) known) = (last? k l).or (get? k known) := by
  induction l generalizing known with
  | nil => rfl
  | cons p rest ih =>
    obtain ⟨j, a⟩ := p
    rw [List.foldl_cons, ih, last?, Option.or_assoc]
    congr 1
    by_cases here : j = k
    · subst here
      simp [get?_put_self]
    · simp [get?_put_ne (Ne.symm here), here]

theorem last?_eq_none [LawfulBEq κ] {k : κ} {l : List (κ × α)} :
    last? k l = none ↔ k ∉ l.map Prod.fst := by
  induction l with
  | nil => simp [last?]
  | cons p rest ih =>
    obtain ⟨j, a⟩ := p
    rw [last?, Option.or_eq_none_iff, ih, List.map_cons, List.mem_cons, not_or, and_comm]
    refine and_congr_left fun _ => ?_
    by_cases here : j = k
    · simp [here]
    · simp [here, Ne.symm here]

end ScriptBind.Keyed
