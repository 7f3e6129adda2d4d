import ScriptBind.Json.Tree
import ScriptBind.Proofs.Json.Token

/-!
# Values read back

The tokens of a value describe the value, and the text of a value has these tokens: writing a value
and reading the text gives the value again.

The tokens of an element or member are followed by a separator, so the proofs follow the list of
those that are left (`moreItems`, `moreMembers`), with the ones that were read as an accumulator.
The nesting is taken care of by the induction on values: a value inside another one is read with
any containers open around it and any tokens behind it.

Main results:

* `run_tokens`, `ofTokens?_tokens` — a value and its tokens.
* `isChain_tokens` — the tokens need no blanks between them.
* `parse?_text` — a value and its text.
-/

namespace ScriptBind.Json.Tree

/-! ## Induction -/

/-- A property of values holds if containers inherit it from what they contain. -/
@[elab_as_elim]
theorem nested_induction {motive : Tree → Prop} (null : motive .null)
    (bool : ∀ b, motive (.bool b)) (number : ∀ s, motive (.number s))
    (string : ∀ s, motive (.string s))
    (array : ∀ items, (∀ t ∈ items, motive t) → motive (.array items))
    (object : ∀ members, (∀ m ∈ members, motive m.2) → motive (.object members)) :
    ∀ t, motive t
  | .null => null
  | .bool b => bool b
  | .number s => number s
  | .string s => string s
  | .array items =>
    array items fun t _ => nested_induction null bool number string array object t
  | .object members =>
    object members fun (_, t) _ => nested_induction null bool number string array object t
termination_by t => t
decreasing_by
  · have := List.sizeOf_lt_of_mem ‹t ∈ items›
    simp only [Tree.array.sizeOf_spec]
    omega
  · have := List.sizeOf_lt_of_mem ‹_ ∈ members›
    simp only [Tree.object.sizeOf_spec, Prod.mk.sizeOf_spec] at this ⊢
    omega

/-! ## What follows an element or a member -/

/-- The tokens after an element: those of the elements that are left and the closing bracket. -/
def moreItems : List Tree → List Token
  | [] => [.closeBracket]
  | t :: rest => .comma :: (t.tokens ++ moreItems rest)

/-- The tokens after a member: those of the members that are left and the closing brace. -/
def moreMembers : List (List Char × Tree) → List Token
  | [] => [.closeBrace]
  | (k, t) :: rest => .comma :: .string k :: .colon :: (t.tokens ++ moreMembers rest)

/-- The first item has no comma before it. -/
theorem itemTokens_cons (t : Tree) (rest : List Tree) :
    itemTokens (t :: rest) = t.tokens ++ moreItems rest := by
  induction rest generalizing t with
  | nil => rw [itemTokens, moreItems]
  | cons u us ih => rw [itemTokens, moreItems, ih]

/-- The first member has no comma before it. -/
theorem memberTokens_cons (k : List Char) (t : Tree) (rest : List (List Char × Tree)) :
    memberTokens ((k, t) :: rest) = .string k :: .colon :: (t.tokens ++ moreMembers rest) := by
  induction rest generalizing k t with
  | nil =>
    rw [memberTokens, moreMembers]
    rfl
  | cons m ms ih =>
    obtain ⟨l, u⟩ := m
    rw [memberTokens, moreMembers, ih]
    rfl

/-! ## Reading -/

/-- A draft reads token by token. -/
theorem run_cons {p q : Draft} {t : Token} (h : p.step t = some q) (rest : List Token) :
    p.run (t :: rest) = q.run rest := by
  rw [Draft.run, h]

/-- A value is read from its tokens: whatever is open around it, the value takes its place there. -/
def Reads (t : Tree) : Prop :=
  ∀ places rest,
    Draft.run ⟨places, .value⟩ (t.tokens ++ rest) = (Draft.complete places t).run rest

/-- No value starts with a bracket that closes, so the first element of an array starts where any
value does. -/
theorem run_firstElement (places : List Place) (t : Tree) (rest : List Token) :
    Draft.run ⟨places, .firstElement⟩ (t.tokens ++ rest) =
      Draft.run ⟨.element [] :: places, .value⟩ (t.tokens ++ rest) := by
  cases t <;> rw [tokens] <;> rfl

/-- Further items are read after those before them. -/
theorem run_moreItems {items : List Tree} (reads : ∀ t ∈ items, t.Reads) (places : List Place)
    (before : List Tree) (rest : List Token) :
    Draft.run ⟨places, .afterElement before⟩ (moreItems items ++ rest) =
      (Draft.complete places (.array (before.reverse ++ items))).run rest := by
  -- on the items: each is read behind a comma and joins those before it, which stand in reverse
  induction items generalizing before with
  | nil =>
    rw [List.append_nil]
    exact run_cons rfl rest
  | cons t ts ih =>
    rw [moreItems, List.cons_append, List.append_assoc]
    calc Draft.run ⟨places, .afterElement before⟩ (.comma :: (t.tokens ++ (moreItems ts ++ rest)))
      _ = Draft.run ⟨.element before :: places, .value⟩ (t.tokens ++ (moreItems ts ++ rest)) :=
        run_cons rfl _
      _ = Draft.run ⟨places, .afterElement (t :: before)⟩ (moreItems ts ++ rest) :=
        reads t List.mem_cons_self _ _
      _ = (Draft.complete places (.array ((t :: before).reverse ++ ts))).run rest :=
        ih (fun u hu => reads u (List.mem_cons_of_mem _ hu)) _
      _ = _ := by rw [List.reverse_cons, List.append_assoc, List.singleton_append]

/-- A key, a colon and a value make a member. -/
theorem run_member {t : Tree} (reads : t.Reads) (places : List Place)
    (before : List (List Char × Tree)) (k : List Char) (rest : List Token) :
    Draft.run ⟨places, .colon before k⟩ (.colon :: (t.tokens ++ rest)) =
      Draft.run ⟨places, .afterMember ((k, t) :: before)⟩ rest :=
  (run_cons rfl _).trans (reads _ _)

/-- Further members are read after those before them. -/
theorem run_moreMembers {members : List (List Char × Tree)} (reads : ∀ m ∈ members, m.2.Reads)
    (places : List Place) (before : List (List Char × Tree)) (rest : List Token) :
    Draft.run ⟨places, .afterMember before⟩ (moreMembers members ++ rest) =
      (Draft.complete places (.object (before.reverse ++ members))).run rest := by
  -- on the members, as for items, with the key and the colon before each value
  induction members generalizing before with
  | nil =>
    rw [List.append_nil]
    exact run_cons rfl rest
  | cons m ms ih =>
    obtain ⟨k, t⟩ := m
    rw [moreMembers, List.cons_append, List.cons_append, List.cons_append, List.append_assoc]
    calc Draft.run ⟨places, .afterMember before⟩
          (.comma :: .string k :: .colon :: (t.tokens ++ (moreMembers ms ++ rest)))
      _ = Draft.run ⟨places, .key before⟩
            (.string k :: .colon :: (t.tokens ++ (moreMembers ms ++ rest))) := run_cons rfl _
      _ = Draft.run ⟨places, .colon before k⟩
            (.colon :: (t.tokens ++ (moreMembers ms ++ rest))) := run_cons rfl _
      _ = Draft.run ⟨places, .afterMember ((k, t) :: before)⟩ (moreMembers ms ++ rest) :=
        run_member (reads _ List.mem_cons_self) places before k _
      _ = (Draft.complete places (.object (((k, t) :: before).reverse ++ ms))).run rest :=
        ih (fun m hm => reads m (List.mem_cons_of_mem _ hm)) _
      _ = _ := by rw [List.reverse_cons, List.append_assoc, List.singleton_append]

/-- An array is read if its items are. -/
theorem reads_array {items : List Tree} (reads : ∀ t ∈ items, t.Reads) :
    (array items).Reads := by
  intro places rest
  rw [tokens, List.cons_append, run_cons (q := ⟨places, .firstElement⟩) rfl]
  cases items with
  | nil =>
    rw [itemTokens]
    exact run_cons rfl rest
  | cons t ts =>
    -- the first element is read like any value, and the others follow it
    rw [itemTokens_cons, List.append_assoc, run_firstElement, reads t List.mem_cons_self]
    exact run_moreItems (fun u hu => reads u (List.mem_cons_of_mem _ hu)) places [t] rest

/-- An object is read if its members are. -/
theorem reads_object {members : List (List Char × Tree)} (reads : ∀ m ∈ members, m.2.Reads) :
    (object members).Reads := by
  intro places rest
  rw [tokens, List.cons_append, run_cons (q := ⟨places, .firstKey⟩) rfl]
  cases members with
  | nil =>
    rw [memberTokens]
    exact run_cons rfl rest
  | cons m ms =>
    obtain ⟨k, t⟩ := m
    rw [memberTokens_cons, List.cons_append, List.cons_append, List.append_assoc,
      run_cons (q := ⟨places, .colon [] k⟩) rfl, run_member (reads _ List.mem_cons_self)]
    exact run_moreMembers (fun m hm => reads m (List.mem_cons_of_mem _ hm)) places [(k, t)] rest

/-- Reading the tokens of a value gives the value. -/
theorem run_tokens (t : Tree) : t.Reads := by
  induction t using nested_induction with
  | array items ih => exact reads_array ih
  | object members ih => exact reads_object ih
  | _ =>
    intro places rest
    rw [tokens]
    exact run_cons rfl rest

/-- A tree is read back from its tokens. -/
theorem ofTokens?_tokens (t : Tree) : ofTokens? t.tokens = some t := by
  have all := run_tokens t [] []
  rw [List.append_nil] at all
  rw [ofTokens?, all]
  rfl

/-! ## Writing -/

/-- Tokens may stand next to each other if the last and the first of them may. -/
theorem isChain_append_cons {ts us : List Token} {u : Token} (ends : ∀ t : Token, t.Abuts u)
    (before : List.IsChain Token.Abuts ts) (after : List.IsChain Token.Abuts (u :: us)) :
    List.IsChain Token.Abuts (ts ++ u :: us) := by
  refine List.isChain_append.mpr ⟨before, after, fun t _ v hv => ?_⟩
  cases hv
  exact ends t

/-- Further items may stand after anything, for a comma comes first. -/
theorem isChain_append_moreItems {ts : List Token} (chain : List.IsChain Token.Abuts ts)
    {items : List Tree} (ih : ∀ t ∈ items, List.IsChain Token.Abuts t.tokens) :
    List.IsChain Token.Abuts (ts ++ moreItems items) := by
  induction items generalizing ts with
  | nil => exact isChain_append_cons abuts_closeBracket chain (.singleton _)
  | cons u us more =>
    have after := more (ih u List.mem_cons_self) fun t ht => ih t (List.mem_cons_of_mem _ ht)
    exact isChain_append_cons abuts_comma chain (List.isChain_cons.mpr ⟨fun _ _ => trivial, after⟩)

/-- Further members may stand after anything, for a comma comes first. -/
theorem isChain_append_moreMembers {ts : List Token} (chain : List.IsChain Token.Abuts ts)
    {members : List (List Char × Tree)}
    (ih : ∀ m ∈ members, List.IsChain Token.Abuts m.2.tokens) :
    List.IsChain Token.Abuts (ts ++ moreMembers members) := by
  induction members generalizing ts with
  | nil => exact isChain_append_cons abuts_closeBrace chain (.singleton _)
  | cons m ms more =>
    obtain ⟨k, u⟩ := m
    have after := more (ih _ List.mem_cons_self) fun t ht => ih t (List.mem_cons_of_mem _ ht)
    refine isChain_append_cons abuts_comma chain (List.isChain_cons_cons.mpr ⟨trivial, ?_⟩)
    exact List.isChain_cons_cons.mpr ⟨trivial, List.isChain_cons.mpr ⟨fun _ _ => trivial, after⟩⟩

/-- A number in a value is followed by a comma or the end of a container, or by nothing. -/
theorem isChain_tokens (t : Tree) : List.IsChain Token.Abuts t.tokens := by
  -- a container opens with a bracket, after which anything may stand; the rest is by its parts
  induction t using nested_induction with
  | array items ih =>
    rw [tokens]
    refine List.isChain_cons.mpr ⟨fun _ _ => trivial, ?_⟩
    cases items with
    | nil =>
      rw [itemTokens]
      exact .singleton _
    | cons t ts =>
      rw [itemTokens_cons]
      exact isChain_append_moreItems (ih t List.mem_cons_self)
        fun u hu => ih u (List.mem_cons_of_mem _ hu)
  | object members ih =>
    rw [tokens]
    refine List.isChain_cons.mpr ⟨fun _ _ => trivial, ?_⟩
    cases members with
    | nil =>
      rw [memberTokens]
      exact .singleton _
    | cons m ms =>
      obtain ⟨k, t⟩ := m
      rw [memberTokens_cons]
      have after := isChain_append_moreMembers (ih _ List.mem_cons_self)
        fun m hm => ih m (List.mem_cons_of_mem _ hm)
      exact List.isChain_cons_cons.mpr
        ⟨trivial, List.isChain_cons.mpr ⟨fun _ _ => trivial, after⟩⟩
  | _ =>
    rw [tokens]
    exact .singleton _

/-- The strings and numbers in a value have spellings that can be read. -/
def Spelled (t : Tree) : Prop := ∀ u ∈ t.tokens, u.Spelled

/-- The tokens of further items are spelled as the items are. -/
theorem spelled_moreItems {items : List Tree} (spelled : ∀ t ∈ items, t.Spelled) :
    ∀ u ∈ moreItems items, u.Spelled := by
  induction items with
  | nil => exact List.forall_mem_singleton.mpr trivial
  | cons t ts ih =>
    rw [moreItems]
    refine List.forall_mem_cons.mpr ⟨trivial, List.forall_mem_append.mpr ⟨?_, ?_⟩⟩
    · exact spelled t List.mem_cons_self
    · exact ih fun u hu => spelled u (List.mem_cons_of_mem _ hu)

/-- The tokens of further members are spelled as keys and members are. -/
theorem spelled_moreMembers {members : List (List Char × Tree)}
    (keys : ∀ m ∈ members, (Token.string m.1).Spelled) (spelled : ∀ m ∈ members, m.2.Spelled) :
    ∀ u ∈ moreMembers members, u.Spelled := by
  induction members with
  | nil => exact List.forall_mem_singleton.mpr trivial
  | cons m ms ih =>
    obtain ⟨k, t⟩ := m
    rw [moreMembers]
    refine List.forall_mem_cons.mpr ⟨trivial, List.forall_mem_cons.mpr
      ⟨keys _ List.mem_cons_self, List.forall_mem_cons.mpr
        ⟨trivial, List.forall_mem_append.mpr ⟨spelled _ List.mem_cons_self, ?_⟩⟩⟩⟩
    exact ih (fun m hm => keys m (List.mem_cons_of_mem _ hm))
      fun m hm => spelled m (List.mem_cons_of_mem _ hm)

/-- An array is spelled as its items are. -/
theorem spelled_array {items : List Tree} (spelled : ∀ t ∈ items, t.Spelled) :
    (array items).Spelled := by
  unfold Spelled
  rw [tokens]
  refine List.forall_mem_cons.mpr ⟨trivial, ?_⟩
  cases items with
  | nil =>
    rw [itemTokens]
    exact List.forall_mem_singleton.mpr trivial
  | cons t ts =>
    rw [itemTokens_cons]
    exact (List.forall_mem_cons.mp (spelled_moreItems spelled)).2

/-- An object is spelled as its keys and members are. -/
theorem spelled_object {members : List (List Char × Tree)}
    (keys : ∀ m ∈ members, (Token.string m.1).Spelled) (spelled : ∀ m ∈ members, m.2.Spelled) :
    (object members).Spelled := by
  unfold Spelled
  rw [tokens]
  refine List.forall_mem_cons.mpr ⟨trivial, ?_⟩
  cases members with
  | nil =>
    rw [memberTokens]
    exact List.forall_mem_singleton.mpr trivial
  | cons m ms =>
    obtain ⟨k, t⟩ := m
    rw [memberTokens_cons]
    exact (List.forall_mem_cons.mp (spelled_moreMembers keys spelled)).2

/-- Reading the text of a value gives the value. -/
theorem parse?_text {t : Tree} (spelled : t.Spelled) : parse? t.text = some t := by
  unfold parse? text
  rw [String.toList_ofList, (Spread.tight t.tokens).tokens? spelled (isChain_tokens t)]
  exact ofTokens?_tokens t

end ScriptBind.Json.Tree
