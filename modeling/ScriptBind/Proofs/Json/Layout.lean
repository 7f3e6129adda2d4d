import ScriptBind.Proofs.Json.Tree

/-!
# Texts of a value

A value has many texts: blanks may stand anywhere between its tokens. `LaidOut` says by the grammar
alone that a text is one of them, and reading a text answers the value that it is a text of. So no
text is one of two values, and a text that is none of any value is refused.

For what is cut off, the tokens of a draft (`Draft.tokens`) are those that have been read so far: every
step adds the token that it reads.

Main results:

* `Spread.of_tokens?` — the tokens of a text, with the blanks between them, make up the text.
* `Draft.tokens_step`, `Draft.tokens_run` — a draft has the tokens that have been read.
* `parse?_eq_some` — which texts are those of a value.
-/

namespace ScriptBind.Json

/-! ## Tokens -/

theorem Spread.blank_cons {ts : List Token} {c : Char} {cs : List Char} (blank : isBlank c)
    (spread : Spread ts cs) : Spread ts (c :: cs) := by
  cases spread with
  | nil blanks => exact .nil (List.forall_mem_cons.mpr ⟨blank, blanks⟩)
  | cons blanks more => exact .cons (List.forall_mem_cons.mpr ⟨blank, blanks⟩) more

theorem spread_of_collect {fuel : Nat} {found out : List Token} {cs : List Char}
    (h : collect fuel found cs = some out) :
    ∃ ts, Spread ts cs ∧ (∀ t ∈ ts, t.Wellformed) ∧ out = ts.reverse ++ found := by
  -- each round drops a blank or cuts a token off; the tokens are collected in reverse
  fun_induction collect fuel found cs with
  | case1 fuel found =>
    cases h
    exact ⟨[], .nil (List.forall_mem_nil _), List.forall_mem_nil _, rfl⟩
  | case2 => cases h
  | case3 fuel found c rest blank ih =>
    obtain ⟨ts, spread, wellformed, rfl⟩ := ih h
    exact ⟨ts, spread.blank_cons blank, wellformed, rfl⟩
  | case4 fuel found c rest _ t after cut ih =>
    obtain ⟨ts, spread, wellformed, rfl⟩ := ih h
    obtain ⟨same, first⟩ := wellformed_of_token? cut
    refine ⟨t :: ts, ?_, List.forall_mem_cons.mpr ⟨first, wellformed⟩, ?_⟩
    · rw [same]
      exact spread.next t
    · rw [List.reverse_cons, List.append_assoc, List.singleton_append]
  | case5 => cases h

/-- A text consists of its tokens and blanks. -/
theorem Spread.of_tokens? {ts : List Token} {cs : List Char} (h : Json.tokens? cs = some ts) :
    Spread ts cs ∧ ∀ t ∈ ts, t.Wellformed := by
  obtain ⟨out, collected, rfl⟩ := Option.map_eq_some_iff.mp h
  obtain ⟨ts, spread, wellformed, rfl⟩ := spread_of_collect collected
  rw [List.append_nil, List.reverse_reverse]
  exact ⟨spread, wellformed⟩

namespace Tree

/-! ## Drafts -/

/-- The tokens of elements and the comma after each. -/
def elementTokens (items : List Tree) : List Token := items.flatMap fun t => t.tokens ++ [.comma]

/-- The tokens of a key and what it is the key of. -/
def pairTokens (m : List Char × Tree) : List Token := .string m.1 :: .colon :: m.2.tokens

/-- The tokens of members and the comma after each. -/
def pairsTokens (members : List (List Char × Tree)) : List Token :=
  members.flatMap fun m => pairTokens m ++ [.comma]

theorem itemTokens_append (items : List Tree) (t : Tree) :
    itemTokens (items ++ [t]) = elementTokens items ++ (t.tokens ++ [.closeBracket]) := by
  induction items with
  | nil => rw [List.nil_append, itemTokens]; rfl
  | cons u us ih =>
    obtain ⟨v, vs, more⟩ : ∃ v vs, us ++ [t] = v :: vs := by
      cases us with
      | nil => exact ⟨t, [], rfl⟩
      | cons v vs => exact ⟨v, vs ++ [t], rfl⟩
    rw [List.cons_append, more, itemTokens, ← more, ih]
    simp [elementTokens]

theorem memberTokens_append (members : List (List Char × Tree)) (m : List Char × Tree) :
    memberTokens (members ++ [m]) = pairsTokens members ++ (pairTokens m ++ [.closeBrace]) := by
  induction members with
  | nil =>
    obtain ⟨k, t⟩ := m
    rw [List.nil_append, memberTokens]
    rfl
  | cons n ns ih =>
    obtain ⟨l, u⟩ := n
    obtain ⟨v, vs, more⟩ : ∃ v vs, ns ++ [m] = v :: vs := by
      cases ns with
      | nil => exact ⟨m, [], rfl⟩
      | cons v vs => exact ⟨v, vs ++ [m], rfl⟩
    rw [List.cons_append, more, memberTokens, ← more, ih]
    simp [pairsTokens, pairTokens]

/-- The tokens of a container up to where a value is due in it. -/
def Place.tokens : Place → List Token
  | element before => .openBracket :: elementTokens before.reverse
  | member before name => .openBrace :: (pairsTokens before.reverse ++ [.string name, .colon])

/-- The tokens of the innermost container, or of the value, as far as it goes. -/
def Mode.tokens : Mode → List Token
  | value => []
  | firstElement => [.openBracket]
  | firstKey => [.openBrace]
  | key before => .openBrace :: pairsTokens before.reverse
  | colon before name => .openBrace :: (pairsTokens before.reverse ++ [.string name])
  | afterElement [] => [.openBracket]
  | afterElement (t :: before) => .openBracket :: (elementTokens before.reverse ++ t.tokens)
  | afterMember [] => [.openBrace]
  | afterMember (m :: before) => .openBrace :: (pairsTokens before.reverse ++ pairTokens m)
  | done result => result.tokens

/-- Something has come before what is said to come after it. -/
def Mode.Proper : Mode → Prop
  | afterElement before => before ≠ []
  | afterMember before => before ≠ []
  | _ => True

/-- The tokens that have been read. -/
def Draft.tokens (p : Draft) : List Token := p.places.reverse.flatMap Place.tokens ++ p.mode.tokens

/-- A complete value stands where it was due. -/
theorem Draft.tokens_complete (places : List Place) (t : Tree) :
    (complete places t).mode.Proper ∧
      (complete places t).tokens = places.reverse.flatMap Place.tokens ++ t.tokens := by
  cases places with
  | nil => exact ⟨trivial, rfl⟩
  | cons place outer =>
    cases place with
    | element before =>
      refine ⟨List.cons_ne_nil _ _, ?_⟩
      simp [complete, Draft.tokens, Mode.tokens, Place.tokens]
    | member before key =>
      refine ⟨List.cons_ne_nil _ _, ?_⟩
      simp [complete, Draft.tokens, Mode.tokens, Place.tokens, pairTokens]

theorem Draft.tokens_startValue {places : List Place} {u : Token} {q : Draft}
    (h : startValue places u = some q) :
    q.mode.Proper ∧ q.tokens = places.reverse.flatMap Place.tokens ++ [u] := by
  cases u
  case null | bool | number | string =>
    cases h
    obtain ⟨proper, tokens⟩ := tokens_complete places _
    exact ⟨proper, by rw [tokens, Tree.tokens]⟩
  case openBracket | openBrace =>
    cases h
    exact ⟨trivial, rfl⟩
  all_goals cases h

/-- Every step adds the token that it reads. -/
theorem Draft.tokens_step {p q : Draft} {u : Token} (proper : p.mode.Proper)
    (h : p.step u = some q) : q.mode.Proper ∧ q.tokens = p.tokens ++ [u] := by
  obtain ⟨places, mode⟩ := p
  unfold Draft.step at h
  dsimp only at h proper
  split at h
  · obtain ⟨proper, tokens⟩ := tokens_startValue h
    exact ⟨proper, by rw [tokens]; simp [Draft.tokens, Mode.tokens]⟩
  · cases h
    obtain ⟨proper, tokens⟩ := tokens_complete places (.array [])
    exact ⟨proper, by rw [tokens, Tree.tokens, itemTokens]; simp [Draft.tokens, Mode.tokens]⟩
  · obtain ⟨proper, tokens⟩ := tokens_startValue h
    exact ⟨proper, by
      rw [tokens]
      simp [Draft.tokens, Mode.tokens, Place.tokens, elementTokens]⟩
  · cases h
    obtain ⟨proper, tokens⟩ := tokens_complete places (.object [])
    exact ⟨proper, by rw [tokens, Tree.tokens, memberTokens]; simp [Draft.tokens, Mode.tokens]⟩
  · cases h
    exact ⟨trivial, by simp [Draft.tokens, Mode.tokens, pairsTokens]⟩
  · cases h
    exact ⟨trivial, by simp [Draft.tokens, Mode.tokens]⟩
  · cases h
    exact ⟨trivial, by simp [Draft.tokens, Mode.tokens, Place.tokens]⟩
  -- an element or member is behind, so there is a last one
  next before =>
    cases h
    obtain ⟨t, earlier, rfl⟩ := List.exists_cons_of_ne_nil proper
    exact ⟨trivial, by simp [Draft.tokens, Mode.tokens, Place.tokens, elementTokens]⟩
  next before =>
    cases h
    obtain ⟨t, earlier, rfl⟩ := List.exists_cons_of_ne_nil proper
    obtain ⟨proper, tokens⟩ := tokens_complete places (.array (t :: earlier).reverse)
    exact ⟨proper, by
      rw [tokens, Tree.tokens, List.reverse_cons, itemTokens_append]
      simp [Draft.tokens, Mode.tokens]⟩
  next before =>
    cases h
    obtain ⟨m, earlier, rfl⟩ := List.exists_cons_of_ne_nil proper
    exact ⟨trivial, by simp [Draft.tokens, Mode.tokens, pairsTokens]⟩
  next before =>
    cases h
    obtain ⟨m, earlier, rfl⟩ := List.exists_cons_of_ne_nil proper
    obtain ⟨proper, tokens⟩ := tokens_complete places (.object (m :: earlier).reverse)
    exact ⟨proper, by
      rw [tokens, Tree.tokens, List.reverse_cons, memberTokens_append]
      simp [Draft.tokens, Mode.tokens]⟩
  · cases h

theorem Draft.tokens_run {p q : Draft} {ts : List Token} (proper : p.mode.Proper)
    (h : p.run ts = some q) : q.tokens = p.tokens ++ ts := by
  induction ts generalizing p with
  | nil =>
    cases h
    exact (List.append_nil _).symm
  | cons u us ih =>
    rw [Draft.run] at h
    split at h
    next r stepped =>
      obtain ⟨proper', tokens⟩ := tokens_step proper stepped
      rw [ih proper' h, tokens, List.append_assoc, List.singleton_append]
    next => cases h

/-- Exactly the tokens of a value spell it. -/
theorem ofTokens?_eq_some {ts : List Token} {t : Tree} : ofTokens? ts = some t ↔ ts = t.tokens := by
  refine ⟨fun h => ?_, fun h => h ▸ ofTokens?_tokens t⟩
  unfold ofTokens? at h
  split at h
  next read =>
    cases h
    exact (Draft.tokens_run (p := ⟨[], .value⟩) trivial read).symm
  next => cases h

/-! ## Texts -/

/-- The text is one of the value: its tokens follow the grammar, and there is nothing else but blanks
before, between and behind them. -/
structure LaidOut (t : Tree) (text : String) : Prop where
  spread : Spread t.tokens text.toList
  wellformed : ∀ u ∈ t.tokens, u.Wellformed

/-- Exactly the texts of a value are read as the value. -/
theorem parse?_eq_some {text : String} {t : Tree} : parse? text = some t ↔ t.LaidOut text := by
  constructor
  · intro h
    obtain ⟨ts, cut, read⟩ := Option.bind_eq_some_iff.mp h
    obtain rfl := ofTokens?_eq_some.mp read
    obtain ⟨spread, wellformed⟩ := Spread.of_tokens? cut
    exact ⟨spread, wellformed⟩
  · rintro ⟨spread, wellformed⟩
    have spelled : ∀ u ∈ t.tokens, u.Spelled := fun u hu => u.spelled_iff.mpr (wellformed u hu)
    unfold parse?
    rw [spread.tokens? spelled (isChain_tokens t)]
    exact ofTokens?_tokens t

end Tree

end ScriptBind.Json
