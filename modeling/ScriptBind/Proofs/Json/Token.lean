import ScriptBind.Proofs.Json.Spelling
import Mathlib.Data.List.Chain

/-!
# Tokens read back

A token is cut from a text that starts with its characters, as long as what follows a number cannot
belong to it. Tokens written one after another, with or without blanks between them, are therefore
read back, if only a comma or the end of a container follows a number.

Main results:

* `Token.spelled_iff` — a token can be read back exactly if it follows the grammar.
* `token?_spell`, `wellformed_of_token?` — the first token of a text.
* `Spread.tokens?` — all its tokens, whatever blanks stand between them.
-/

namespace ScriptBind.Json

/-- The spelling that a token carries is one that reading cuts off, and where it should. -/
def Token.Spelled : Token → Prop
  | number s =>
    (∃ c ∈ s.head?, c = '-' ∨ c.isDigit) ∧
      ∀ rest, Ends rest → numberSpelling? (s ++ rest) = some (s, rest)
  | string s => ∀ rest, stringSpelling? (s ++ '"' :: rest) = some (s, rest)
  | _ => True

/-- The spelling that a token carries follows the grammar. -/
def Token.Wellformed : Token → Prop
  | number s => NumberText s
  | string s => StringText s
  | _ => True

/-- Exactly the tokens that follow the grammar are read back. -/
theorem Token.spelled_iff (t : Token) : t.Spelled ↔ t.Wellformed := by
  cases t with
  | number s =>
    refine ⟨fun ⟨_, cut⟩ => ?_, fun text => ⟨text.head, fun rest ends => text.cut ends⟩⟩
    have whole := cut [] fun c hc => nomatch hc
    exact (NumberText.of_spelling whole).2
  | string s => exact ⟨fun cut => (stringSpelling?_eq_some.mp (cut [])).2, fun text => text.cut⟩
  | _ => exact Iff.rfl

theorem spelled_string (s : String) : (Token.string (encode s)).Spelled :=
  (Token.spelled_iff _).mpr (encode_text s)

theorem spelled_number (n : Int) : (Token.number (integerSpelling n)).Spelled :=
  (Token.spelled_iff _).mpr (integerSpelling_text n)

/-- What the second of two tokens must be for nothing to stand between them. -/
def Token.Abuts : Token → Token → Prop
  | number _, u => u = .comma ∨ u = .closeBracket ∨ u = .closeBrace
  | _, _ => True

@[simp] theorem abuts_comma (t : Token) : t.Abuts .comma := by
  cases t <;> simp [Token.Abuts]

@[simp] theorem abuts_closeBracket (t : Token) : t.Abuts .closeBracket := by
  cases t <;> simp [Token.Abuts]

@[simp] theorem abuts_closeBrace (t : Token) : t.Abuts .closeBrace := by
  cases t <;> simp [Token.Abuts]

/-! ## One token -/

/-- Every token starts with a character that is not a blank. -/
theorem spell_cons {t : Token} (spelled : t.Spelled) :
    ∃ c cs, t.spell = c :: cs ∧ isBlank c = false := by
  cases t with
  | bool b => cases b <;> exact ⟨_, _, rfl, rfl⟩
  | number s =>
    obtain ⟨⟨c, hc, start⟩, -⟩ := spelled
    obtain ⟨cs, rfl⟩ := List.head?_eq_some_iff.mp hc
    refine ⟨c, cs, rfl, ?_⟩
    rcases start with rfl | digit
    · rfl
    · unfold isBlank
      simp only [Bool.or_eq_false_iff, decide_eq_false_iff_not]
      refine ⟨⟨⟨?_, ?_⟩, ?_⟩, ?_⟩ <;> rintro rfl <;> cases digit
  | _ => exact ⟨_, _, rfl, rfl⟩

/-- What starts like a number is read as one. -/
theorem token?_number {c : Char} (start : c = '-' ∨ c.isDigit) (cs : List Char) :
    token? (c :: cs) = (numberSpelling? (c :: cs)).map fun (s, r) => (.number s, r) := by
  -- none of the other tokens starts with a digit or a minus
  rw [token?]
  all_goals
    intros
    rename_i same
    cases same
    revert start
    decide

/-- The first token of a text. -/
theorem token?_spell {t : Token} (spelled : t.Spelled) {rest : List Char}
    (ends : ∀ s, t = .number s → Ends rest) : token? (t.spell ++ rest) = some (t, rest) := by
  cases t with
  | bool b => cases b <;> rfl
  | number s =>
    obtain ⟨⟨c, hc, start⟩, cut⟩ := spelled
    obtain ⟨cs, rfl⟩ := List.head?_eq_some_iff.mp hc
    show token? (c :: (cs ++ rest)) = _
    rw [token?_number start, ← List.cons_append, cut rest (ends _ rfl)]
    rfl
  | string s =>
    show token? ('"' :: (s ++ ['"'] ++ rest)) = _
    rw [List.append_assoc, token?, List.singleton_append, spelled rest]
    rfl
  | _ => rfl

/-- What the first token of a text is cut from. -/
theorem wellformed_of_token? {cs rest : List Char} {t : Token} (h : token? cs = some (t, rest)) :
    cs = t.spell ++ rest ∧ t.Wellformed := by
  unfold token? at h
  split at h
  -- strings and numbers are tokens of many letters, and all others have one spelling
  case h_10 =>
    obtain ⟨⟨s, r⟩, found, eq⟩ := Option.map_eq_some_iff.mp h
    cases eq
    obtain ⟨rfl, text⟩ := stringSpelling?_eq_some.mp found
    exact ⟨by rw [Token.spell]; simp, text⟩
  case h_11 =>
    obtain ⟨⟨s, r⟩, found, eq⟩ := Option.map_eq_some_iff.mp h
    cases eq
    exact NumberText.of_spelling found
  all_goals
    cases h
    exact ⟨rfl, trivial⟩

/-! ## Token lists -/

/-- A text consists of these tokens, with any blanks around them. -/
inductive Spread : List Token → List Char → Prop
  | nil {blanks : List Char} (blank : ∀ c ∈ blanks, isBlank c) : Spread [] blanks
  | cons {t : Token} {ts : List Token} {blanks cs : List Char} (blank : ∀ c ∈ blanks, isBlank c)
      (more : Spread ts cs) : Spread (t :: ts) (blanks ++ (t.spell ++ cs))

theorem Spread.next {ts : List Token} {cs : List Char} (spread : Spread ts cs) (t : Token) :
    Spread (t :: ts) (t.spell ++ cs) :=
  .cons (List.forall_mem_nil _) spread

/-- Tokens may be written without blanks. -/
theorem Spread.tight (ts : List Token) : Spread ts (ts.flatMap Token.spell) := by
  induction ts with
  | nil => exact .nil (List.forall_mem_nil _)
  | cons t ts ih => exact ih.next t

/-- No number goes on with a blank. -/
theorem ends_of_blank {c : Char} (blank : isBlank c) (rest : List Char) : Ends (c :: rest) := by
  rintro d hd
  cases hd
  unfold isBlank at blank
  simp only [Bool.or_eq_true, decide_eq_true_eq] at blank
  rcases blank with ((rfl | rfl) | rfl) | rfl <;> decide

/-- A number ends where the blanks or the next token start. -/
theorem Spread.ends {s : List Char} {ts : List Token} {cs : List Char} (spread : Spread ts cs)
    (chain : List.IsChain Token.Abuts (.number s :: ts)) : Ends cs := by
  cases spread with
  | nil blank =>
    cases cs with
    | nil => exact fun c hc => nomatch hc
    | cons c rest => exact ends_of_blank (blank c List.mem_cons_self) rest
  | @cons u us blanks cs blank more =>
    cases blanks with
    | cons c rest => exact ends_of_blank (blank c List.mem_cons_self) _
    | nil =>
      rintro c hc
      -- without a blank in between the next token is one of the three that may follow a number
      rcases (List.isChain_cons_cons.mp chain).1 with rfl | rfl | rfl
      all_goals
        cases hc
        decide

/-- Blanks are passed over, and the fuel lasts for what follows them. -/
theorem collect_blanks {blanks : List Char} (blank : ∀ c ∈ blanks, isBlank c) (found : List Token)
    (cs : List Char) {fuel : Nat} (enough : (blanks ++ cs).length ≤ fuel) :
    ∃ left, cs.length ≤ left ∧ collect fuel found (blanks ++ cs) = collect left found cs := by
  induction blanks generalizing fuel with
  | nil => exact ⟨fuel, enough, rfl⟩
  | cons c rest ih =>
    cases fuel with
    | zero => cases enough
    | succ fuel =>
      obtain ⟨left, lasts, same⟩ := ih (fun d hd => blank d (List.mem_cons_of_mem _ hd))
        (Nat.le_of_succ_le_succ enough)
      refine ⟨left, lasts, ?_⟩
      rw [List.cons_append, collect, blank c List.mem_cons_self, if_pos rfl, same]

theorem collect_spread {ts : List Token} {cs : List Char} (spread : Spread ts cs)
    (spelled : ∀ t ∈ ts, t.Spelled) (chain : List.IsChain Token.Abuts ts) (found : List Token)
    {fuel : Nat} (enough : cs.length ≤ fuel) : collect fuel found cs = some (ts.reverse ++ found) := by
  induction spread generalizing found fuel with
  | @nil blanks blank =>
    obtain ⟨left, -, same⟩ := collect_blanks blank found [] (by simpa using enough)
    rw [← List.append_nil blanks, same, collect]
    rfl
  | @cons t ts blanks cs blank more ih =>
    obtain ⟨left, lasts, same⟩ := collect_blanks blank found _ enough
    rw [same]
    have first := spelled t List.mem_cons_self
    obtain ⟨c, tail, hc, visible⟩ := spell_cons first
    have cut : token? (t.spell ++ cs) = some (t, cs) :=
      token?_spell first fun s hs => more.ends (hs ▸ chain)
    -- the token takes a character at least, so the fuel lasts for the others
    rw [hc, List.cons_append] at lasts cut ⊢
    cases left with
    | zero => cases lasts
    | succ left =>
      have shorter : cs.length ≤ left := by
        simp only [List.length_cons, List.length_append] at lasts
        omega
      rw [collect, visible, if_neg Bool.false_ne_true, cut]
      show collect left (t :: found) cs = _
      rw [ih (fun u hu => spelled u (List.mem_cons_of_mem _ hu)) chain.tail _ shorter,
        List.reverse_cons, List.append_assoc, List.singleton_append]

/-- The tokens of a text that has any blanks between them. -/
theorem Spread.tokens? {ts : List Token} {cs : List Char} (spread : Spread ts cs)
    (spelled : ∀ t ∈ ts, t.Spelled) (chain : List.IsChain Token.Abuts ts) :
    Json.tokens? cs = some ts := by
  unfold Json.tokens?
  rw [collect_spread spread spelled chain [] (Nat.le_refl _), List.append_nil, Option.map_some,
    List.reverse_reverse]

end ScriptBind.Json
