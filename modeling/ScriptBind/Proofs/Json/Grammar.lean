import ScriptBind.Json.Token

/-!
# The grammar of strings and numbers

What stands between the quotes of a JSON string, and how a JSON number is written, by the grammar
alone. Reading cuts off exactly these spellings: what it cuts off is one, and each of them is cut off
where it ends.

Main results:

* `stringSpelling?_eq_some` — strings.
* `NumberText.of_spelling`, `NumberText.cut` — numbers.
-/

namespace ScriptBind.Json

/-! ## Strings -/

/-- What stands between the quotes of a string: characters other than quotes, backslashes and control
characters, short escapes, and escapes of four hexadecimal digits. -/
inductive StringText : List Char → Prop
  | nil : StringText []
  | plain {c : Char} {s : List Char} (quote : c ≠ '"') (backslash : c ≠ '\\')
      (printable : ¬ c < ' ') (more : StringText s) : StringText (c :: s)
  | escape {c : Char} {s : List Char} (short : isSimpleEscape c) (more : StringText s) :
      StringText ('\\' :: c :: s)
  | unit {a b c d : Char} {s : List Char}
      (hex : isHexDigit a && isHexDigit b && isHexDigit c && isHexDigit d) (more : StringText s) :
      StringText ('\\' :: 'u' :: a :: b :: c :: d :: s)

/-! ### One character more -/

/-- A plain character belongs to the string. -/
theorem stringSpelling?_plain {c : Char} (quote : c ≠ '"') (backslash : c ≠ '\\')
    (printable : ¬ c < ' ') (rest : List Char) :
    stringSpelling? (c :: rest) = (stringSpelling? rest).map fun (s, r) => (c :: s, r) := by
  rw [stringSpelling?]
  · rw [decide_eq_false backslash, decide_eq_false printable]
    rfl
  all_goals intros; contradiction

/-- A short escape belongs to the string. -/
theorem stringSpelling?_escape {c : Char} (short : isSimpleEscape c) (rest : List Char) :
    stringSpelling? ('\\' :: c :: rest) =
      (stringSpelling? rest).map fun (s, r) => ('\\' :: c :: s, r) := by
  rw [stringSpelling?, if_pos short]
  intro _ _ _ _ _ hu
  cases hu
  cases short

/-- A code unit in four digits belongs to the string. -/
theorem stringSpelling?_unit {a b c d : Char}
    (hex : isHexDigit a && isHexDigit b && isHexDigit c && isHexDigit d) (rest : List Char) :
    stringSpelling? ('\\' :: 'u' :: a :: b :: c :: d :: rest) =
      (stringSpelling? rest).map fun (s, r) => ('\\' :: 'u' :: a :: b :: c :: d :: s, r) := by
  rw [stringSpelling?, if_pos hex]

/-! ### Strings are cut off at the closing quote -/

/-- A string is cut off at its closing quote. -/
theorem StringText.cut {s : List Char} (h : StringText s) (rest : List Char) :
    stringSpelling? (s ++ '"' :: rest) = some (s, rest) := by
  induction h with
  | nil => rfl
  | plain quote backslash printable _ ih =>
    rw [List.cons_append, stringSpelling?_plain quote backslash printable, ih]
    rfl
  | escape short _ ih =>
    rw [List.cons_append, List.cons_append, stringSpelling?_escape short, ih]
    rfl
  | unit hex _ ih =>
    simp only [List.cons_append]
    rw [stringSpelling?_unit hex, ih]
    rfl

/-- What is cut off is the text of a string, and the quote and the rest follow. -/
theorem StringText.of_spelling {cs s rest : List Char}
    (h : stringSpelling? cs = some (s, rest)) : cs = s ++ '"' :: rest ∧ StringText s := by
  -- one case for each way in which a spelling goes on, and four in which it breaks off
  fun_induction stringSpelling? cs generalizing s with
  | case1 => cases h
  | case2 rest =>
    cases h
    exact ⟨rfl, .nil⟩
  | case3 a b c d more hex ih =>
    obtain ⟨⟨s', r⟩, found, eq⟩ := Option.map_eq_some_iff.mp h
    cases eq
    obtain ⟨rfl, text⟩ := ih found
    exact ⟨rfl, .unit hex text⟩
  | case4 => cases h
  | case5 c more _ short ih =>
    obtain ⟨⟨s', r⟩, found, eq⟩ := Option.map_eq_some_iff.mp h
    cases eq
    obtain ⟨rfl, text⟩ := ih found
    exact ⟨rfl, .escape short text⟩
  | case6 => cases h
  | case7 => cases h
  | case8 c more quote _ _ fits ih =>
    obtain ⟨⟨s', r⟩, found, eq⟩ := Option.map_eq_some_iff.mp h
    cases eq
    obtain ⟨rfl, text⟩ := ih found
    rw [Bool.or_eq_true, decide_eq_true_iff, decide_eq_true_iff, not_or] at fits
    exact ⟨rfl, .plain quote fits.1 fits.2 text⟩

/-- Reading cuts off what stands before the closing quote. -/
theorem stringSpelling?_eq_some {cs s rest : List Char} :
    stringSpelling? cs = some (s, rest) ↔ cs = s ++ '"' :: rest ∧ StringText s :=
  ⟨StringText.of_spelling, fun ⟨same, text⟩ => same ▸ text.cut rest⟩

/-! ## Numbers -/

/-- One or more digits. -/
def Digits (ds : List Char) : Prop := ds ≠ [] ∧ ∀ c ∈ ds, c.isDigit

/-- The digits before the point: a zero, or digits that start with another one. -/
inductive WholeText : List Char → Prop
  | zero : WholeText ['0']
  | digits {ds : List Char} (digits : Digits ds) (leading : ∀ c ∈ ds.head?, c ≠ '0') : WholeText ds

/-- A point and digits, or nothing. -/
inductive FractionText : List Char → Prop
  | none : FractionText []
  | point {ds : List Char} (digits : Digits ds) : FractionText ('.' :: ds)

/-- An exponent with or without a sign, or nothing. -/
inductive ExponentText : List Char → Prop
  | none : ExponentText []
  | plain {e : Char} {ds : List Char} (letter : e = 'e' ∨ e = 'E') (digits : Digits ds) :
      ExponentText (e :: ds)
  | signed {e s : Char} {ds : List Char} (letter : e = 'e' ∨ e = 'E') (sign : s = '+' ∨ s = '-')
      (digits : Digits ds) : ExponentText (e :: s :: ds)

/-- How a number is written. -/
inductive NumberText : List Char → Prop
  | unsigned {w f e : List Char} (whole : WholeText w) (fraction : FractionText f)
      (exponent : ExponentText e) : NumberText (w ++ f ++ e)
  | negative {w f e : List Char} (whole : WholeText w) (fraction : FractionText f)
      (exponent : ExponentText e) : NumberText ('-' :: (w ++ f ++ e))

/-! ### What is cut off is a number -/

variable {cs s ds rest : List Char}

/-- What is cut off are digits, and the rest follows. -/
theorem digits_of_digits? (h : digits? cs = some (ds, rest)) : cs = ds ++ rest ∧ Digits ds := by
  unfold digits? at h
  split at h
  · cases h
  next some_ =>
    cases h
    refine ⟨List.takeWhile_append_dropWhile.symm, some_, fun c hc => ?_⟩
    exact (List.all_eq_true.mp List.all_takeWhile) c hc

/-- What is cut off is the whole part of a number, and the rest follows. -/
theorem whole_of_wholePart? (h : wholePart? cs = some (s, rest)) : cs = s ++ rest ∧ WholeText s := by
  unfold wholePart? at h
  split at h
  · cases h
    exact ⟨rfl, .zero⟩
  next other =>
    obtain ⟨rfl, digits⟩ := digits_of_digits? h
    refine ⟨rfl, .digits digits ?_⟩
    rintro c hc rfl
    obtain ⟨more, rfl⟩ := List.head?_eq_some_iff.mp hc
    exact other _ rfl

/-- What is cut off is a fraction or nothing, and the rest follows. -/
theorem fraction_of_fractionPart? (h : fractionPart? cs = some (s, rest)) :
    cs = s ++ rest ∧ FractionText s := by
  unfold fractionPart? at h
  split at h
  · obtain ⟨⟨ds, r⟩, found, eq⟩ := Option.map_eq_some_iff.mp h
    cases eq
    obtain ⟨rfl, digits⟩ := digits_of_digits? found
    exact ⟨rfl, .point digits⟩
  · cases h
    exact ⟨rfl, .none⟩

/-- What is cut off is an exponent or nothing, and the rest follows. -/
theorem exponent_of_exponentPart? (h : exponentPart? cs = some (s, rest)) :
    cs = s ++ rest ∧ ExponentText s := by
  unfold exponentPart? at h
  -- there is no exponent where the text ends or goes on with another letter
  split at h
  · cases h
    exact ⟨rfl, .none⟩
  · split at h
    next letter =>
      split at h
      · split at h
        next sign =>
          obtain ⟨⟨ds, r⟩, found, eq⟩ := Option.map_eq_some_iff.mp h
          cases eq
          obtain ⟨rfl, digits⟩ := digits_of_digits? found
          exact ⟨rfl, .signed (by simpa using letter) (by simpa using sign) digits⟩
        next =>
          obtain ⟨⟨ds, r⟩, found, eq⟩ := Option.map_eq_some_iff.mp h
          cases eq
          obtain ⟨same, digits⟩ := digits_of_digits? found
          exact ⟨congrArg _ same, .plain (by simpa using letter) digits⟩
      · cases h
    next =>
      cases h
      exact ⟨rfl, .none⟩

/-- The three parts of a number without its sign. -/
theorem parts_of_unsigned? (h : unsigned? cs = some (s, rest)) :
    cs = s ++ rest ∧ ∃ w f e, s = w ++ f ++ e ∧ WholeText w ∧ FractionText f ∧ ExponentText e := by
  unfold unsigned? at h
  obtain ⟨⟨w, r⟩, first, h⟩ := Option.bind_eq_some_iff.mp h
  obtain ⟨⟨f, r'⟩, second, h⟩ := Option.bind_eq_some_iff.mp h
  obtain ⟨⟨e, r''⟩, third, h⟩ := Option.bind_eq_some_iff.mp h
  cases h
  obtain ⟨rfl, whole⟩ := whole_of_wholePart? first
  obtain ⟨rfl, fraction⟩ := fraction_of_fractionPart? second
  obtain ⟨rfl, exponent⟩ := exponent_of_exponentPart? third
  exact ⟨by simp only [List.append_assoc], w, f, e, rfl, whole, fraction, exponent⟩

/-- What is cut off is a number, and the rest follows. -/
theorem NumberText.of_spelling (h : numberSpelling? cs = some (s, rest)) :
    cs = s ++ rest ∧ NumberText s := by
  unfold numberSpelling? at h
  split at h
  · obtain ⟨⟨s', r⟩, found, eq⟩ := Option.map_eq_some_iff.mp h
    cases eq
    obtain ⟨rfl, w, f, e, rfl, whole, fraction, exponent⟩ := parts_of_unsigned? found
    exact ⟨rfl, .negative whole fraction exponent⟩
  · obtain ⟨rfl, w, f, e, rfl, whole, fraction, exponent⟩ := parts_of_unsigned? h
    exact ⟨rfl, .unsigned whole fraction exponent⟩

/-! ### Numbers are cut off where they end -/

/-- What may follow a number: nothing that could belong to it. -/
def Ends (rest : List Char) : Prop :=
  ∀ c ∈ rest.head?, c.isDigit = false ∧ c ≠ '.' ∧ c ≠ 'e' ∧ c ≠ 'E'

/-- A digit is no minus sign. -/
theorem ne_minus {c : Char} (digit : c.isDigit) : c ≠ '-' := by
  rintro rfl
  cases digit

/-- Digits are cut off where no further digit follows. -/
theorem digits?_append (stops : ∀ c ∈ rest.head?, c.isDigit = false) {ds : List Char}
    (digits : ∀ c ∈ ds, c.isDigit) (some_ : ds ≠ []) : digits? (ds ++ rest) = some (ds, rest) := by
  -- the digits are cut off where the rest begins, which has none in front
  have taken : rest.takeWhile Char.isDigit = [] := by
    cases rest with
    | nil => rfl
    | cons c cs => exact List.takeWhile_cons_of_neg (by simp [stops c rfl])
  have dropped : rest.dropWhile Char.isDigit = rest := by
    cases rest with
    | nil => rfl
    | cons c cs => exact List.dropWhile_cons_of_neg (by simp [stops c rfl])
  unfold digits?
  rw [List.takeWhile_append_of_pos digits, List.dropWhile_append_of_pos digits, taken, dropped,
    List.append_nil]
  cases ds with
  | nil => exact absurd rfl some_
  | cons => rfl

/-- The whole part of a number is cut off where no further digit follows. -/
theorem WholeText.cut (h : WholeText s) (stops : ∀ c ∈ rest.head?, c.isDigit = false) :
    wholePart? (s ++ rest) = some (s, rest) := by
  cases h with
  | zero => rfl
  | digits digits leading =>
    obtain ⟨c, cs, rfl⟩ := List.exists_cons_of_ne_nil digits.1
    rw [List.cons_append, wholePart?, ← List.cons_append, digits?_append stops digits.2 digits.1]
    rintro _ same
    exact leading c rfl (List.cons.inj same).1

/-- A fraction is cut off where neither a digit nor another point follows. -/
theorem FractionText.cut (h : FractionText s)
    (stops : ∀ c ∈ rest.head?, c.isDigit = false ∧ c ≠ '.') :
    fractionPart? (s ++ rest) = some (s, rest) := by
  cases h with
  | none =>
    rw [List.nil_append, fractionPart?]
    rintro more rfl
    exact (stops '.' rfl).2 rfl
  | point digits =>
    rw [List.cons_append, fractionPart?,
      digits?_append (fun c hc => (stops c hc).1) digits.2 digits.1]
    rfl

/-- An exponent is cut off where the number ends. -/
theorem ExponentText.cut (h : ExponentText s) (ends : Ends rest) :
    exponentPart? (s ++ rest) = some (s, rest) := by
  have stops : ∀ c ∈ rest.head?, c.isDigit = false := fun c hc => (ends c hc).1
  cases h with
  | none =>
    cases rest with
    | nil => rfl
    | cons c cs =>
      have other := ends c rfl
      unfold exponentPart?
      rw [List.nil_append]
      dsimp only
      rw [if_neg (by simp [other.2.2.1, other.2.2.2])]
  | @plain e ds letter digits =>
    obtain ⟨d, more, rfl⟩ := List.exists_cons_of_ne_nil digits.1
    -- a digit is no sign
    have unsigned : ¬ (d = '+' ∨ d = '-') := by
      have digit := digits.2 d List.mem_cons_self
      rintro (rfl | rfl) <;> cases digit
    unfold exponentPart?
    rw [List.cons_append, List.cons_append]
    dsimp only
    rw [if_pos (by simpa using letter), if_neg (by simpa using unsigned), ← List.cons_append,
      digits?_append stops digits.2 digits.1]
    rfl
  | @signed e sign ds letter signed digits =>
    unfold exponentPart?
    rw [List.cons_append, List.cons_append]
    dsimp only
    rw [if_pos (by simpa using letter), if_pos (by simpa using signed),
      digits?_append stops digits.2 digits.1]
    rfl

/-- An exponent starts with neither a digit nor a point. -/
theorem ExponentText.stops (h : ExponentText s) (ends : Ends rest) :
    ∀ c ∈ (s ++ rest).head?, c.isDigit = false ∧ c ≠ '.' := by
  cases h with
  | none => exact fun c hc => ⟨(ends c hc).1, (ends c hc).2.1⟩
  | plain letter _ =>
    rintro c hc
    cases hc
    rcases letter with rfl | rfl <;> decide
  | signed letter _ _ =>
    rintro c hc
    cases hc
    rcases letter with rfl | rfl <;> decide

/-- A fraction starts with no digit. -/
theorem FractionText.stops (h : FractionText s) {c : Char}
    (stops : ∀ c ∈ rest.head?, c.isDigit = false) (hc : c ∈ (s ++ rest).head?) :
    c.isDigit = false := by
  cases h with
  | none => exact stops c hc
  | point _ =>
    cases hc
    rfl

/-- A number without sign is cut off part by part. -/
theorem unsigned?_parts {w f e : List Char} (whole : WholeText w) (fraction : FractionText f)
    (exponent : ExponentText e) (ends : Ends rest) :
    unsigned? (w ++ f ++ e ++ rest) = some (w ++ f ++ e, rest) := by
  have tail := exponent.stops ends
  have read_whole : wholePart? (w ++ (f ++ (e ++ rest))) = some (w, f ++ (e ++ rest)) :=
    whole.cut fun c hc => fraction.stops (fun c hc => (tail c hc).1) hc
  rw [List.append_assoc, List.append_assoc, unsigned?, read_whole]
  simp only [Option.bind_eq_bind, Option.bind_some]
  rw [fraction.cut tail]
  simp only [Option.bind_some]
  rw [exponent.cut ends]
  rfl

/-- The whole part of a number starts with a digit. -/
theorem WholeText.head_digit (h : WholeText s) : ∃ c cs, s = c :: cs ∧ c.isDigit := by
  cases h with
  | zero => exact ⟨_, _, rfl, rfl⟩
  | digits digits _ =>
    obtain ⟨c, cs, rfl⟩ := List.exists_cons_of_ne_nil digits.1
    exact ⟨c, cs, rfl, digits.2 c List.mem_cons_self⟩

/-- A number starts with a minus or a digit. -/
theorem NumberText.head (h : NumberText s) : ∃ c ∈ s.head?, c = '-' ∨ c.isDigit := by
  cases h with
  | unsigned whole _ _ =>
    obtain ⟨c, cs, rfl, digit⟩ := whole.head_digit
    exact ⟨c, rfl, .inr digit⟩
  | negative _ _ _ => exact ⟨'-', rfl, .inl rfl⟩

/-- A number is cut off where it ends. -/
theorem NumberText.cut (h : NumberText s) (ends : Ends rest) :
    numberSpelling? (s ++ rest) = some (s, rest) := by
  cases h with
  | @unsigned w f e whole fraction exponent =>
    have parts := unsigned?_parts whole fraction exponent ends
    obtain ⟨c, cs, rfl, digit⟩ := whole.head_digit
    simp only [List.cons_append] at parts ⊢
    rw [numberSpelling?, parts]
    intro _ same
    exact ne_minus digit (List.cons.inj same).1
  | negative whole fraction exponent =>
    rw [List.cons_append, numberSpelling?, unsigned?_parts whole fraction exponent ends]
    rfl

end ScriptBind.Json
