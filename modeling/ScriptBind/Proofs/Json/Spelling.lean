import ScriptBind.Json.Spelling
import ScriptBind.Proofs.Json.Grammar

/-!
# Spellings read back

Strings are written with the escapes that reading knows: the spelling of a string follows the grammar
and stands for the string. So does the spelling of an integer.

Both are proved one character at a time, for a spelling with anything behind it.

Main results:

* `decode?_encode`, `encode_text` — strings.
* `integer?_integerSpelling`, `integerSpelling_text` — integers.
-/

namespace ScriptBind.Json

/-! ## Reading one character -/

theorem decodeChars?_plain {c : Char} (plain : c ≠ '\\') (rest : List Char) :
    decodeChars? (c :: rest) = (decodeChars? rest).map (c :: ·) := by
  rw [decodeChars?]
  all_goals intros; contradiction

theorem decodeChars?_escape {c : Char} (short : c ≠ 'u') (rest : List Char) :
    decodeChars? ('\\' :: c :: rest) = (decodeChars? rest).map (simpleEscape c :: ·) := by
  rw [decodeChars?]
  all_goals intros; contradiction

/-- A code unit below the surrogates stands for itself, whatever follows. -/
theorem decodeChars?_unit {a b c d : Char} (low : codeUnit a b c d < 0xD800) (rest : List Char) :
    decodeChars? ('\\' :: 'u' :: a :: b :: c :: d :: rest) =
      (decodeChars? rest).map (Char.ofNat (codeUnit a b c d) :: ·) := by
  have high : isHighSurrogate (codeUnit a b c d) = false := by
    unfold isHighSurrogate
    simp only [Bool.and_eq_false_iff, decide_eq_false_iff_not]
    omega
  have low : isLowSurrogate (codeUnit a b c d) = false := by
    unfold isLowSurrogate
    simp only [Bool.and_eq_false_iff, decide_eq_false_iff_not]
    omega
  rw [decodeChars?.eq_def]
  split
  next h => cases h
  next h =>
    cases h
    simp only [high, low, Bool.false_eq_true, if_false]
  next h =>
    cases h
    simp only [high, low, Bool.or_false, Bool.false_eq_true, if_false]
  next shape h =>
    -- the escape is one of four digits
    cases h
    exact absurd rfl (shape a b c d rest rfl)
  next shape h =>
    cases h
    exact absurd rfl (shape 'u' _ rfl)

/-! ## Writing one character -/

/-- The spellings of a character: a short escape, four hexadecimal digits, or the character. -/
inductive CharSpelling (c : Char) : List Char → Prop
  | short {e : Char} (escape : isSimpleEscape e) (means : simpleEscape e = c) :
      CharSpelling c ['\\', e]
  | unit {p q r s : Char} (hex : isHexDigit p && isHexDigit q && isHexDigit r && isHexDigit s)
      (low : codeUnit p q r s < 0xD800) (means : codeUnit p q r s = c.toNat) :
      CharSpelling c ['\\', 'u', p, q, r, s]
  | plain (quote : c ≠ '"') (backslash : c ≠ '\\') (printable : ¬ c < ' ') : CharSpelling c [c]

/-- The four digits written for a control character are digits, and they read back. -/
theorem hexText_control : ∀ n : Fin 32,
    (Number.hexText 4 n).toList = ['0', '0', Nat.digitChar (n / 16), Nat.digitChar (n % 16)] ∧
      (isHexDigit '0' && isHexDigit '0' && isHexDigit (Nat.digitChar (n / 16)) &&
        isHexDigit (Nat.digitChar (n % 16))) ∧
      codeUnit '0' '0' (Nat.digitChar (n / 16)) (Nat.digitChar (n % 16)) = n := by
  decide +kernel

theorem charSpelling_encodeChar (c : Char) : CharSpelling c (encodeChar c) := by
  unfold encodeChar
  split
  next h => exact .short rfl h.symm
  split
  next h => exact .short rfl h.symm
  split
  next h => exact .short rfl h.symm
  split
  next h => exact .short rfl h.symm
  split
  next h => exact .short rfl h.symm
  split
  next h => exact .short rfl h.symm
  split
  next h => exact .short rfl h.symm
  next quote backslash _ _ _ _ _ =>
    split
    next control =>
      -- no short escape is left for it, so it is written with four digits
      have hn : c.toNat < 32 := control
      obtain ⟨text, hex, value⟩ := hexText_control ⟨c.toNat, hn⟩
      dsimp only at text hex value
      rw [text]
      exact .unit hex (by omega) value
    next printable => exact .plain quote backslash printable

/-! ## Strings -/

/-- A character is read from its spelling, whatever follows. -/
theorem decodeChars?_append {c : Char} {cs : List Char} (h : CharSpelling c cs) (rest : List Char) :
    decodeChars? (cs ++ rest) = (decodeChars? rest).map (c :: ·) := by
  cases h with
  | @short e escape means =>
    have hu : e ≠ 'u' := by
      rintro rfl
      cases escape
    show decodeChars? ('\\' :: e :: rest) = _
    rw [decodeChars?_escape hu, means]
  | @unit p q r s hex low means =>
    show decodeChars? ('\\' :: 'u' :: p :: q :: r :: s :: rest) = _
    rw [decodeChars?_unit low, means, Char.ofNat_toNat]
  | plain quote backslash printable => exact decodeChars?_plain backslash rest

/-- The spelling of a string stands for it. -/
theorem decode?_encode (s : String) : decode? (encode s) = some s := by
  have chars : ∀ cs : List Char, decodeChars? (cs.flatMap encodeChar) = some cs := by
    intro cs
    induction cs with
    | nil => rfl
    | cons c rest ih =>
      rw [List.flatMap_cons, decodeChars?_append (charSpelling_encodeChar c), ih]
      rfl
  unfold decode? encode
  rw [chars, Option.map_some, String.ofList_toList]

theorem CharSpelling.text {c : Char} {cs s : List Char} (h : CharSpelling c cs)
    (more : StringText s) : StringText (cs ++ s) := by
  cases h with
  | short escape means => exact .escape escape more
  | unit hex low means => exact .unit hex more
  | plain quote backslash printable => exact .plain quote backslash printable more

/-- The spelling of a string can stand between quotes. -/
theorem encode_text (s : String) : StringText (encode s) := by
  unfold encode
  induction s.toList with
  | nil => exact .nil
  | cons c cs ih =>
    rw [List.flatMap_cons]
    exact (charSpelling_encodeChar c).text ih

/-! ## Integers -/

theorem integerSpelling_ofNat (n : Nat) : integerSpelling n = Nat.toDigits 10 n := by
  show (String.ofList (Nat.toDigits 10 n)).toList = _
  rw [String.toList_ofList]

theorem integerSpelling_negSucc (n : Nat) :
    integerSpelling (.negSucc n) = '-' :: Nat.toDigits 10 (n + 1) := by
  show ("-" ++ String.ofList (Nat.toDigits 10 (n + 1))).toList = _
  rw [String.toList_append, String.toList_ofList, String.toList_ofList]
  rfl

theorem isDigit_of_mem {n : Nat} {c : Char} (h : c ∈ Nat.toDigits 10 n) : c.isDigit :=
  Nat.isDigit_of_mem_toDigits (by decide) (by decide) h

theorem all_isDigit (n : Nat) : (Nat.toDigits 10 n).all Char.isDigit :=
  List.all_eq_true.mpr fun _ h => isDigit_of_mem h

theorem digitsValue_toDigits (n : Nat) : Number.digitsValue (Nat.toDigits 10 n) = n :=
  Nat.ofDigitChars_ten_toDigits

/-- Digits start with a digit, which is a zero only if there is nothing else. -/
theorem toDigits_cons (n : Nat) :
    ∃ d ds, Nat.toDigits 10 n = d :: ds ∧ d.isDigit ∧ (d = '0' → ds = []) := by
  induction n using Nat.strongRecOn with
  | _ n ih =>
    rw [Nat.toDigits_eq_if (by decide)]
    split
    next small =>
      exact ⟨_, [], rfl, Nat.isDigit_digitChar.trans (decide_eq_true small), fun _ => rfl⟩
    next large =>
      obtain ⟨d, ds, hd, digit, zero⟩ := ih (n / 10) (by omega)
      refine ⟨d, ds ++ [Nat.digitChar (n % 10)], by rw [hd]; rfl, digit, fun h => ?_⟩
      -- a leading zero would be all there is above the last digit
      have value := digitsValue_toDigits (n / 10)
      rw [hd, h, zero h] at value
      have : n / 10 = 0 := value.symm
      omega

/-- The spelling of an integer stands for it. -/
theorem integer?_integerSpelling (n : Int) : integer? (integerSpelling n) = some n := by
  cases n with
  | ofNat n =>
    obtain ⟨d, ds, hd, digit, -⟩ := toDigits_cons n
    show integer? (integerSpelling n) = some (n : Int)
    rw [integerSpelling_ofNat, integer?, if_pos (all_isDigit n), digitsValue_toDigits]
    rintro rest hrest
    rw [hd] at hrest
    exact ne_minus digit (List.cons.inj hrest).1
  | negSucc n =>
    -- a minus before a single zero would not be an integer
    have nonzero : (Nat.toDigits 10 (n + 1) != ['0']) = true := by
      rw [bne_iff_ne]
      intro h
      have value := digitsValue_toDigits (n + 1)
      rw [h] at value
      cases value
    rw [integerSpelling_negSucc, integer?, all_isDigit, nonzero, digitsValue_toDigits]
    rfl

/-- Digits have no leading zero. -/
theorem toDigits_text (n : Nat) : WholeText (Nat.toDigits 10 n) := by
  obtain ⟨d, ds, hd, -, zero⟩ := toDigits_cons n
  by_cases h : d = '0'
  · subst h
    rw [hd, zero rfl]
    exact .zero
  · refine .digits ⟨Nat.toDigits_ne_nil, fun c => isDigit_of_mem⟩ fun c hc => ?_
    rw [hd] at hc
    cases hc
    exact h

/-- The spelling of an integer is a number without fraction and exponent. -/
theorem integerSpelling_text (n : Int) : NumberText (integerSpelling n) := by
  cases n with
  | ofNat n =>
    rw [Int.ofNat_eq_natCast, integerSpelling_ofNat]
    simpa using NumberText.unsigned (toDigits_text n) .none .none
  | negSucc n =>
    rw [integerSpelling_negSucc]
    simpa using NumberText.negative (toDigits_text (n + 1)) .none .none

end ScriptBind.Json
