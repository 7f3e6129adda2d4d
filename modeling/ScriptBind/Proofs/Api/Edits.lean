import Mathlib.Data.List.Nodup
import ScriptBind.Proofs.Api.Format

/-!
# Changes that a reader does not notice

The members of an object may come in any order, and those of unknown names are skipped. So a value can
be changed in many ways without changing what a reader finds in it: the members of the records that it
contains may be permuted, and members of other names put in or taken out, whatever their values are.

`Shape` says where the records of a value stand and which names they know, `Edit` what one change is,
and `Respects` that a reader finds the same before and after. There is one lemma for each kind of
reader; the one for records follows a change to the slots in which the fields are found.

Main results:

* `slots?_object` — the slots of an object, name by name.
* `Edit.slots?` — a change of an object changes its slots at most within.
* `respects_list`, `respects_nullable`, `respects_record` — readers that find the same.
-/

namespace ScriptBind.Api

open Json (Tree)

/-! ## Changes -/

/-- Where the records of a value stand. -/
inductive Shape where
  /-- No record that a reader looks into. -/
  | plain
  | list (element : Shape)
  | nullable (inner : Shape)
  /-- A record with the fields of these names. -/
  | record (fields : List (String × Shape))

/-- One change in one of the records of a value. -/
inductive Edit : Shape → Tree → Tree → Prop where
  /-- The members of a record in another order. -/
  | permute {fields : List (String × Shape)} {members members' : List (List Char × Tree)}
      (perm : members.Perm members') :
      Edit (.record fields) (.object members) (.object members')
  /-- A member more, of a name that is not that of a field; its value is of any kind. -/
  | insert {fields : List (String × Shape)} {before after : List (List Char × Tree)}
      {key : List Char} {name : String} (value : Tree) (readable : Json.decode? key = some name)
      (unknown : name ∉ fields.map Prod.fst) :
      Edit (.record fields) (.object (before ++ after)) (.object (before ++ (key, value) :: after))
  /-- Such a member less. -/
  | delete {fields : List (String × Shape)} {before after : List (List Char × Tree)}
      {key : List Char} {name : String} (value : Tree) (readable : Json.decode? key = some name)
      (unknown : name ∉ fields.map Prod.fst) :
      Edit (.record fields) (.object (before ++ (key, value) :: after)) (.object (before ++ after))
  /-- A change in a field of a record. -/
  | member {fields : List (String × Shape)} {before after : List (List Char × Tree)}
      {key : List Char} {name : String} {shape : Shape} {t t' : Tree}
      (known : (name, shape) ∈ fields) (readable : Json.decode? key = some name)
      (inner : Edit shape t t') :
      Edit (.record fields) (.object (before ++ (key, t) :: after))
        (.object (before ++ (key, t') :: after))
  /-- A change in an element of a list. -/
  | element {shape : Shape} {before after : List Tree} {t t' : Tree} (inner : Edit shape t t') :
      Edit (.list shape) (.array (before ++ t :: after)) (.array (before ++ t' :: after))
  /-- A change in a value that is not null. -/
  | present {shape : Shape} {t t' : Tree} (inner : Edit shape t t') : Edit (.nullable shape) t t'

/-- There is no record in null. -/
theorem Edit.ne_null {shape : Shape} {t t' : Tree} (edit : Edit shape t t') :
    t ≠ .null ∧ t' ≠ .null := by
  induction edit with
  | permute | insert | delete | member | element => exact ⟨Tree.noConfusion, Tree.noConfusion⟩
  | present _ ih => exact ih

/-! ## Slots of an object -/

section Members

variable {members members' : List (List Char × Tree)}

/-- All keys can be read. -/
def Readable (members : List (List Char × Tree)) : Prop :=
  ∀ m ∈ members, (Json.decode? m.1).isSome

/-- The values that an object gives to a name. -/
def given (members : List (List Char × Tree)) (name : String) : List Tree :=
  (members.filter fun m => Json.decode? m.1 == some name).map Prod.snd

/-- What is given once, or nothing; none when there is more. -/
def single : List Tree → Option (Option Tree)
  | [] => some none
  | [t] => some (some t)
  | _ => none

/-- The members of a name come in order. -/
theorem given_append (before after : List (List Char × Tree)) (name : String) :
    given (before ++ after) name = given before name ++ given after name := by
  rw [given, List.filter_append, List.map_append]
  rfl

/-- A member of the name comes first. -/
theorem given_cons_of_eq {m : List Char × Tree} {name : String}
    (same : Json.decode? m.1 = some name) : given (m :: members) name = m.2 :: given members name := by
  rw [given, List.filter_cons_of_pos (by exact beq_iff_eq.mpr same)]
  rfl

/-- A member of another name does not count. -/
theorem given_cons_of_ne {m : List Char × Tree} {name : String}
    (other : Json.decode? m.1 ≠ some name) : given (m :: members) name = given members name := by
  rw [given, List.filter_cons_of_neg (by exact mt beq_iff_eq.mp other)]
  rfl

/-- Of the members that could be read, those of a name are the given ones. -/
theorem filter_known {known : List (String × Tree)} {name : String}
    (read : members.mapM (fun m => (Json.decode? m.1).map fun key => (key, m.2)) = some known) :
    (known.filter fun m => m.1 == name).map Prod.snd = given members name := by
  -- on the members, which are read one by one in their order
  induction members generalizing known with
  | nil =>
    cases read
    rfl
  | cons m ms ih =>
    rw [List.mapM_cons] at read
    obtain ⟨first, read₁, read⟩ := Option.bind_eq_some_iff.mp read
    obtain ⟨rest, read₂, result⟩ := Option.bind_eq_some_iff.mp read
    obtain ⟨key, decoded, rfl⟩ := Option.map_eq_some_iff.mp read₁
    cases result
    by_cases same : key = name
    · subst same
      rw [given_cons_of_eq decoded, List.filter_cons_of_pos (by exact beq_self_eq_true key),
        List.map_cons, ih read₂]
    · rw [given_cons_of_ne (decoded ▸ mt Option.some.inj same),
        List.filter_cons_of_neg (by exact mt eq_of_beq same), ih read₂]

/-- A list is read exactly if each entry is. -/
theorem mapM_isSome {α β : Type} {f : α → Option β} {l : List α} :
    (l.mapM f).isSome ↔ ∀ a ∈ l, (f a).isSome := by
  induction l with
  | nil => simp
  | cons a l ih =>
    rw [List.mapM_cons, List.forall_mem_cons, ← ih]
    cases f a <;> cases l.mapM f <;> simp

/-- An object is searched name by name, once all of its keys have been read. -/
theorem slots?_object (names : List String) (readable : Readable members) :
    slots? names (.object members) = names.mapM fun name => single (given members name) := by
  have read : (members.mapM fun m =>
      (Json.decode? m.1).map fun key => (key, m.2)).isSome := by
    rw [mapM_isSome]
    intro m hm
    rw [Option.isSome_map]
    exact readable m hm
  obtain ⟨known, read⟩ := Option.isSome_iff_exists.mp read
  unfold slots?
  dsimp only
  rw [read]
  refine congrArg (names.mapM ·) (funext fun name => ?_)
  rw [← filter_known read]
  -- all that counts is whether the name was given never, once or more often
  generalize (known.filter fun m => m.1 == name) = found
  rcases found with _ | ⟨m, _ | ⟨n, rest⟩⟩ <;> rfl

/-- A record with an unreadable name is not read at all. -/
theorem slots?_object_eq_none (names : List String) (unreadable : ¬ Readable members) :
    slots? names (.object members) = none := by
  have unread : ¬ (members.mapM fun m =>
      (Json.decode? m.1).map fun key => (key, m.2)).isSome := by
    rw [mapM_isSome]
    refine fun all => unreadable fun m hm => ?_
    rw [← Option.isSome_map]
    exact all m hm
  unfold slots?
  dsimp only
  rw [Option.not_isSome_iff_eq_none.mp unread]
  rfl

/-! ## Slots of a changed object -/

/-- What is found for a field, before and after a change. -/
inductive SlotEdit (shape : Shape) : Option Tree → Option Tree → Prop where
  | same (slot : Option Tree) : SlotEdit shape slot slot
  | within {t t' : Tree} (inner : Edit shape t t') : SlotEdit shape (some t) (some t')

/-- What is found for the fields, one after the other. -/
inductive SlotEdits : List (String × Shape) → List (Option Tree) → List (Option Tree) → Prop where
  | nil : SlotEdits [] [] []
  | cons {name : String} {shape : Shape} {fields : List (String × Shape)} {s s' : Option Tree}
      {ss ss' : List (Option Tree)} (first : SlotEdit shape s s') (rest : SlotEdits fields ss ss') :
      SlotEdits ((name, shape) :: fields) (s :: ss) (s' :: ss')

variable {fields : List (String × Shape)}

/-- Equal slots are edits of each other. -/
theorem SlotEdit.rel_of_eq {shape : Shape} {o o' : Option (Option Tree)} (same : o = o') :
    o.Rel (SlotEdit shape) o' := by
  subst same
  cases o with
  | none => exact .none
  | some slot => exact .some (.same slot)

/-- Slots that are edits of each other one by one are so together. -/
theorem SlotEdits.mapM {f f' : String → Option (Option Tree)}
    (each : ∀ p ∈ fields, (f p.1).Rel (SlotEdit p.2) (f' p.1)) :
    ((fields.map Prod.fst).mapM f).Rel (SlotEdits fields) ((fields.map Prod.fst).mapM f') := by
  induction fields with
  | nil => exact .some .nil
  | cons p ps ih =>
    obtain ⟨first, rest⟩ := List.forall_mem_cons.mp each
    rw [List.map_cons, List.mapM_cons, List.mapM_cons]
    generalize f p.1 = slot, f' p.1 = slot' at first
    cases first with
    | none => exact .none
    | some first =>
      generalize (ps.map Prod.fst).mapM f = slots, (ps.map Prod.fst).mapM f' = slots' at ih
      cases ih rest with
      | none => exact .none
      | some rest => exact .some (.cons first rest)

/-- It is enough to look at every field alone. -/
theorem SlotEdits.slots? (readable : Readable members ↔ Readable members')
    (each : ∀ p ∈ fields,
      (single (given members p.1)).Rel (SlotEdit p.2) (single (given members' p.1))) :
    (slots? (fields.map Prod.fst) (.object members)).Rel (SlotEdits fields)
      (slots? (fields.map Prod.fst) (.object members')) := by
  by_cases h : Readable members
  · rw [slots?_object _ h, slots?_object _ (readable.mp h)]
    exact SlotEdits.mapM each
  · rw [slots?_object_eq_none _ h, slots?_object_eq_none _ (mt readable.mpr h)]
    exact .none

/-- The order of values makes no difference to whether there is just one. -/
theorem single_perm {ts ts' : List Tree} (perm : ts.Perm ts') : single ts = single ts' := by
  rcases ts with _ | ⟨t, _ | ⟨u, us⟩⟩
  · rw [perm.nil_eq]
  · rw [perm.singleton_eq]
  · obtain ⟨v, w, vs, rfl⟩ : ∃ v w vs, ts' = v :: w :: vs := by
      have long := perm.length_eq
      rcases ts' with _ | ⟨v, _ | ⟨w, vs⟩⟩
      · cases long
      · cases long
      · exact ⟨v, w, vs, rfl⟩
    rfl

/-- A value of several stands for itself only if it is the only one. -/
theorem single_middle {shape : Shape} {t t' : Tree} (ts us : List Tree) (inner : Edit shape t t') :
    (single (ts ++ t :: us)).Rel (SlotEdit shape) (single (ts ++ t' :: us)) := by
  rcases ts with _ | ⟨v, vs⟩
  · cases us with
    | nil => exact .some (.within inner)
    | cons u us => exact .none
  · rcases vs with _ | ⟨w, ws⟩ <;> exact .none

/-- A readable name does not decide whether the others are readable. -/
theorem readable_middle {before after : List (List Char × Tree)} {m : List Char × Tree} {name : String}
    (readable : Json.decode? m.1 = some name) :
    Readable (before ++ m :: after) ↔ Readable (before ++ after) := by
  have : (Json.decode? m.1).isSome := Option.isSome_of_eq_some readable
  simp only [Readable, List.forall_mem_append, List.forall_mem_cons, this, true_and]

/-- A member of another name does not count wherever it stands. -/
theorem given_middle {before after : List (List Char × Tree)} {m : List Char × Tree}
    {name other : String} (readable : Json.decode? m.1 = some name) (ne : name ≠ other) :
    given (before ++ m :: after) other = given (before ++ after) other := by
  rw [given_append, given_append, given_cons_of_ne]
  rw [readable]
  exact mt Option.some.inj ne

/-- A member of another name than the fields gives nothing to any of them. -/
theorem given_unknown {before after : List (List Char × Tree)} {key : List Char} {name : String}
    (value : Tree) (readable : Json.decode? key = some name) (unknown : name ∉ fields.map Prod.fst)
    {p : String × Shape} (hp : p ∈ fields) :
    given (before ++ (key, value) :: after) p.1 = given (before ++ after) p.1 :=
  given_middle readable fun same => unknown (same ▸ List.mem_map_of_mem hp)

/-- A field has one shape. -/
theorem shape_unique {name : String} {shape shape' : Shape}
    (distinct : (fields.map Prod.fst).Nodup) (h : (name, shape) ∈ fields)
    (h' : (name, shape') ∈ fields) : shape = shape' :=
  congrArg Prod.snd (List.inj_on_of_nodup_map distinct h h' rfl)

/-- A change of a record does not add or remove a field, and changes it at most within. -/
theorem Edit.slots? {t t' : Tree} (distinct : (fields.map Prod.fst).Nodup)
    (edit : Edit (.record fields) t t') :
    (slots? (fields.map Prod.fst) t).Rel (SlotEdits fields) (slots? (fields.map Prod.fst) t') := by
  cases edit with
  | permute perm =>
    -- a field is read from the only member of its name, wherever that stands
    refine SlotEdits.slots? ?_ fun p _ => SlotEdit.rel_of_eq (single_perm ((perm.filter _).map _))
    exact forall_congr' fun m => by rw [perm.mem_iff]
  | insert value readable unknown =>
    refine SlotEdits.slots? (readable_middle readable).symm fun p hp => SlotEdit.rel_of_eq ?_
    rw [given_unknown value readable unknown hp]
  | delete value readable unknown =>
    refine SlotEdits.slots? (readable_middle readable) fun p hp => SlotEdit.rel_of_eq ?_
    rw [given_unknown value readable unknown hp]
  | @member _ before after key name shape t t' known readable inner =>
    refine SlotEdits.slots? ?_ ?_
    · rw [readable_middle (m := (key, t)) readable, readable_middle (m := (key, t')) readable]
    rintro ⟨field, shape'⟩ hp
    dsimp only
    by_cases same : name = field
    · -- the field is given one value for the other, in the same place
      subst same
      obtain rfl := shape_unique distinct known hp
      rw [given_append, given_append, given_cons_of_eq readable, given_cons_of_eq readable]
      exact single_middle _ _ inner
    · apply SlotEdit.rel_of_eq
      rw [given_middle (m := (key, t)) readable same, given_middle (m := (key, t')) readable same]

end Members

/-! ## Readers -/

section Readers

variable {α : Type} {read : Reader α} {shape : Shape}

/-- The reader finds the same before and after a change. -/
def Respects (read : Reader α) (shape : Shape) : Prop :=
  ∀ t t', Edit shape t t' → read t = read t'

/-- A list respects the edits of its entries. -/
theorem respects_list (respects : Respects read shape) : Respects (readList read) (.list shape) := by
  intro t t' edit
  cases edit with
  | element inner =>
    rw [readList, readList, List.mapM_append, List.mapM_append, List.mapM_cons, List.mapM_cons,
      respects _ _ inner]

/-- What is not null is read as it is. -/
theorem readNullable_of_ne_null {t : Tree} (solid : t ≠ .null) :
    readNullable read t = (read t).map some := by
  rw [readNullable]
  exact solid

/-- What may be null respects the edits of what it is otherwise. -/
theorem respects_nullable (respects : Respects read shape) :
    Respects (readNullable read) (.nullable shape) := by
  intro t t' edit
  cases edit with
  | present inner =>
    obtain ⟨solid, solid'⟩ := inner.ne_null
    rw [readNullable_of_ne_null solid, readNullable_of_ne_null solid', respects t t' inner]

/-- A missing member is read as the same default after an edit. -/
theorem SlotEdit.optional {s s' : Option Tree} (slot : SlotEdit shape s s')
    (respects : Respects read shape) (missing : α) :
    optional read missing s = optional read missing s' := by
  cases slot with
  | same => rfl
  | within inner => exact respects _ _ inner

/-- Nothing of a value without records is changed. -/
theorem SlotEdit.plain {s s' : Option Tree} (slot : SlotEdit .plain s s') : s = s' := by
  cases slot with
  | same => rfl
  | within inner => cases inner

/-- A record is read from its slots alone, so it is enough to follow a change to these. -/
theorem respects_record {fields : List (String × Shape)} (names : List String)
    (named : fields.map Prod.fst = names) (distinct : names.Nodup)
    (refuses : ∀ t, slots? names t = none → read t = none)
    (same : ∀ t t' ss ss', slots? names t = some ss → slots? names t' = some ss' →
      SlotEdits fields ss ss' → read t = read t') :
    Respects read (.record fields) := by
  subst named
  intro t t' edit
  -- the slots of both values are found, or those of neither
  have slots := edit.slots? distinct
  cases found : slots? (fields.map Prod.fst) t <;>
    cases found' : slots? (fields.map Prod.fst) t' <;> rw [found, found'] at slots
  · rw [refuses t found, refuses t' found']
  · cases slots
  · cases slots
  · cases slots with
    | some slots => exact same t t' _ _ found found' slots

end Readers

end ScriptBind.Api
