import ScriptBind.Api.Format
import ScriptBind.Proofs.Json.Tree

/-!
# Descriptions read back

Writing a description and reading the text gives the description again, whatever it contains. So
descriptions that differ have texts that differ, and a fingerprint digests all there is.

`Stands` relates a JSON value to what a reader finds in it. There is one lemma for each kind of
value that is written, and one for each record, which uses those of its fields.

Main results:

* `slots?_writeRecord` — a record is read field by field.
* `Document.stands` — a description and its JSON value.
* `Document.text_round_trip` — a description and its text.
-/

namespace ScriptBind.Api

open Json (Tree Token)

/-! ## Plain values -/

/-- A JSON value that can be written as text, and in which a reader finds `a`. -/
structure Stands {α : Type} (read : Reader α) (t : Tree) (a : α) : Prop where
  spelled : t.Spelled
  reads : read t = some a

/-- A tree of one token is spelled as the token is. -/
theorem spelled_leaf {t : Tree} {u : Token} (tokens : t.tokens = [u]) (spelled : u.Spelled) :
    t.Spelled := by
  unfold Tree.Spelled
  rw [tokens]
  exact List.forall_mem_singleton.mpr spelled

/-- A text stands for itself. -/
theorem stands_text (s : String) : Stands readText (writeText s) s where
  spelled := spelled_leaf (by rw [writeText, Tree.tokens]) (Json.spelled_string s)
  reads := Json.decode?_encode s

/-- A flag stands for itself. -/
theorem stands_flag (b : Bool) : Stands readFlag (.bool b) b where
  spelled := spelled_leaf (u := .bool b) (by rw [Tree.tokens]) trivial
  reads := rfl

/-- An integer within the bounds stands for itself. -/
theorem stands_integer {low high n : Int} (above : low ≤ n) (below : n ≤ high) :
    Stands (readInteger low high) (writeInteger n) n where
  spelled := spelled_leaf (by rw [writeInteger, Tree.tokens]) (Json.spelled_number n)
  reads := by
    rw [writeInteger, readInteger, Json.integer?_integerSpelling]
    exact Option.filter_some_pos (by simp [above, below])

/-- A word stands for itself. -/
theorem stands_word (n : UInt32) : Stands readWord (writeInteger n.toNat) n := by
  have below : (n.toNat : Int) ≤ UInt32.size - 1 := by
    have := n.toNat_lt
    unfold UInt32.size
    omega
  have integer := stands_integer (Int.natCast_nonneg n.toNat) below
  refine ⟨integer.spelled, ?_⟩
  rw [readWord, integer.reads, Option.map_some, Int.toNat_natCast, UInt32.ofNat_toNat]

/-- An integer of 64 bits stands for itself. -/
theorem stands_int64 (n : Int64) : Stands readInt64 (writeInteger n.toInt) n := by
  have integer := stands_integer n.minValue_le_toInt n.toInt_le
  refine ⟨integer.spelled, ?_⟩
  rw [readInt64, integer.reads, Option.map_some, Int64.ofInt_toInt]

/-! ## Lists and values that may be null -/

section Compound

variable {α : Type} {read : Reader α} {write : α → Tree}

/-- A list is read entry by entry. -/
theorem mapM_map {β γ : Type} {f : β → Option γ} {g : α → β} {h : α → γ} {l : List α}
    (each : ∀ a ∈ l, f (g a) = some (h a)) : (l.map g).mapM f = some (l.map h) := by
  induction l with
  | nil => rfl
  | cons a l ih =>
    rw [List.map_cons, List.mapM_cons, each a List.mem_cons_self,
      ih fun b hb => each b (List.mem_cons_of_mem _ hb)]
    rfl

/-- A list stands for its entries. -/
theorem stands_list (stands : ∀ a, Stands read (write a) a) (as : List α) :
    Stands (readList read) (writeList write as) as where
  spelled := Tree.spelled_array (List.forall_mem_map.mpr fun a _ => (stands a).spelled)
  reads := by
    show (as.map write).mapM read = some as
    rw [mapM_map (h := id) fun a _ => (stands a).reads, List.map_id]

/-- Null stands for nothing, so it must not stand for something as well. -/
theorem stands_nullable (stands : ∀ a, Stands read (write a) a) (solid : ∀ a, write a ≠ .null)
    (a : Option α) : Stands (readNullable read) (writeNullable write a) a := by
  cases a with
  | none => exact ⟨spelled_leaf (u := .null) (by rw [writeNullable, Tree.tokens]) trivial, rfl⟩
  | some a =>
    refine ⟨(stands a).spelled, ?_⟩
    rw [writeNullable, readNullable, (stands a).reads, Option.map_some]
    -- the reader has not taken the value for null
    exact solid a

/-- A missing text is written as null. -/
theorem stands_nullable_text (s : Option String) :
    Stands (readNullable readText) (writeNullable writeText s) s :=
  stands_nullable stands_text (fun _ => nofun) s

end Compound

/-! ## Records -/

section Records

variable {fields : List (String × Tree)}

/-- A record is spelled if its fields are. -/
theorem spelled_record (spelled : ∀ f ∈ fields, f.2.Spelled) : (writeRecord fields).Spelled :=
  Tree.spelled_object (List.forall_mem_map.mpr fun f _ => Json.spelled_string f.1)
    (List.forall_mem_map.mpr spelled)

/-- A field is the only one of its name. -/
theorem filter_name (distinct : (fields.map Prod.fst).Nodup) {f : String × Tree}
    (hf : f ∈ fields) : fields.filter (fun g => g.1 == f.1) = [f] := by
  induction fields with
  | nil => cases hf
  | cons g gs ih =>
    obtain ⟨fresh, distinct⟩ := List.nodup_cons.mp distinct
    rcases List.mem_cons.mp hf with rfl | hf
    · rw [List.filter_cons_of_pos (by exact beq_self_eq_true f.1)]
      congr 1
      refine List.filter_eq_nil_iff.mpr fun h hh same => fresh ?_
      exact eq_of_beq same ▸ List.mem_map_of_mem hh
    · rw [List.filter_cons_of_neg, ih distinct hf]
      intro same
      exact fresh (eq_of_beq same ▸ List.mem_map_of_mem hf)

/-- A record that is written with the fields that are asked for gives all of them. -/
theorem slots?_writeRecord {names : List String} (named : fields.map Prod.fst = names)
    (distinct : names.Nodup) :
    slots? names (writeRecord fields) = some (fields.map fun f => some f.2) := by
  subst named
  -- the keys are read back first, then each name finds its field
  have known : (fields.map fun f => (Json.encode f.1, f.2)).mapM
      (fun m => (Json.decode? m.1).map fun key => (key, m.2)) = some fields := by
    rw [mapM_map (h := id), List.map_id]
    intro f _
    rw [Json.decode?_encode]
    rfl
  unfold slots? writeRecord
  dsimp only
  rw [known]
  refine mapM_map fun f hf => ?_
  rw [filter_name distinct hf]

end Records

/-! ## Parts of entries -/

/-- An argument is read back, its default value included. -/
theorem Argument.stands (a : Argument) : Stands Argument.ofJson? a.toJson a := by
  have name := stands_text a.name
  have type := stands_text a.type
  have default := stands_nullable_text a.default
  constructor
  · exact spelled_record (by simp [name.spelled, type.spelled, default.spelled])
  · rw [ofJson?, toJson, slots?_writeRecord]
    · simp [required, optional, name.reads, type.reads, default.reads]
    · rfl
    · decide

/-- A value of an enum is read back. -/
theorem EnumValue.stands (v : EnumValue) : Stands EnumValue.ofJson? v.toJson v := by
  have name := stands_text v.name
  have value := stands_int64 v.value
  constructor
  · exact spelled_record (by simp [name.spelled, value.spelled])
  · rw [ofJson?, toJson, slots?_writeRecord]
    · simp [required, name.reads, value.reads]
    · rfl
    · decide

/-- An enum is read back. -/
theorem EnumEntry.stands (e : EnumEntry) : Stands EnumEntry.ofJson? e.toJson e := by
  have name := stands_text e.name
  have isBitfield := stands_flag e.isBitfield
  have values := stands_list EnumValue.stands e.values
  constructor
  · exact spelled_record (by simp [name.spelled, isBitfield.spelled, values.spelled])
  · rw [ofJson?, toJson, slots?_writeRecord]
    · simp [required, optional, name.reads, isBitfield.reads, values.reads]
    · rfl
    · decide

/-! ## Builtin types -/

/-- A constant of a builtin type is read back. -/
theorem Constant.stands (c : Constant) : Stands Constant.ofJson? c.toJson c := by
  have name := stands_text c.name
  have type := stands_text c.type
  have value := stands_text c.value
  constructor
  · exact spelled_record (by simp [name.spelled, type.spelled, value.spelled])
  · rw [ofJson?, toJson, slots?_writeRecord]
    · simp [required, optional, name.reads, type.reads, value.reads]
    · rfl
    · decide

/-- A constructor is read back. -/
theorem Constructor.stands (c : Constructor) : Stands Constructor.ofJson? c.toJson c := by
  have index := stands_word c.index
  have arguments := stands_list Argument.stands c.arguments
  constructor
  · exact spelled_record (by simp [index.spelled, arguments.spelled])
  · rw [ofJson?, toJson, slots?_writeRecord]
    · simp [required, optional, index.reads, arguments.reads]
    · rfl
    · decide

/-- A method of a builtin type is read back. -/
theorem BuiltinMethod.stands (m : BuiltinMethod) : Stands BuiltinMethod.ofJson? m.toJson m := by
  have name := stands_text m.name
  have returnType := stands_nullable_text m.returnType
  have isVararg := stands_flag m.isVararg
  have isConst := stands_flag m.isConst
  have isStatic := stands_flag m.isStatic
  have arguments := stands_list Argument.stands m.arguments
  constructor
  · exact spelled_record (by
      simp [name.spelled, returnType.spelled, isVararg.spelled, isConst.spelled, isStatic.spelled,
        arguments.spelled])
  · rw [ofJson?, toJson, slots?_writeRecord]
    · simp [required, optional, name.reads, returnType.reads, isVararg.reads, isConst.reads,
        isStatic.reads, arguments.reads]
    · rfl
    · decide

/-- A member is read back. -/
theorem Member.stands (m : Member) : Stands Member.ofJson? m.toJson m := by
  have name := stands_text m.name
  have type := stands_text m.type
  constructor
  · exact spelled_record (by simp [name.spelled, type.spelled])
  · rw [ofJson?, toJson, slots?_writeRecord]
    · simp [required, name.reads, type.reads]
    · rfl
    · decide

/-- A builtin type is read back. -/
theorem BuiltinType.stands (b : BuiltinType) : Stands BuiltinType.ofJson? b.toJson b := by
  have name := stands_text b.name
  have constants := stands_list Constant.stands b.constants
  have constructors := stands_list Constructor.stands b.constructors
  have methods := stands_list BuiltinMethod.stands b.methods
  have members := stands_list Member.stands b.members
  have enums := stands_list EnumEntry.stands b.enums
  constructor
  · exact spelled_record (by
      simp [name.spelled, constants.spelled, constructors.spelled, methods.spelled, members.spelled,
        enums.spelled])
  · rw [ofJson?, toJson, slots?_writeRecord]
    · simp [required, optional, name.reads, constants.reads, constructors.reads, methods.reads,
        members.reads, enums.reads]
    · rfl
    · decide

/-! ## Classes -/

/-- A constant of a class is read back. -/
theorem ClassConstant.stands (c : ClassConstant) : Stands ClassConstant.ofJson? c.toJson c := by
  have name := stands_text c.name
  have value := stands_int64 c.value
  constructor
  · exact spelled_record (by simp [name.spelled, value.spelled])
  · rw [ofJson?, toJson, slots?_writeRecord]
    · simp [required, name.reads, value.reads]
    · rfl
    · decide

theorem ReturnValue.stands (r : ReturnValue) : Stands ReturnValue.ofJson? r.toJson r := by
  have type := stands_text r.type
  constructor
  · exact spelled_record (by simp [type.spelled])
  · rw [ofJson?, toJson, slots?_writeRecord]
    · simp [required, type.reads]
    · rfl
    · decide

/-- A method of a class is read back. -/
theorem ClassMethod.stands (m : ClassMethod) : Stands ClassMethod.ofJson? m.toJson m := by
  have name := stands_text m.name
  have isConst := stands_flag m.isConst
  have isVararg := stands_flag m.isVararg
  have isStatic := stands_flag m.isStatic
  have isVirtual := stands_flag m.isVirtual
  have returnValue := stands_nullable ReturnValue.stands (fun _ => nofun) m.returnValue
  have arguments := stands_list Argument.stands m.arguments
  constructor
  · exact spelled_record (by
      simp [name.spelled, isConst.spelled, isVararg.spelled, isStatic.spelled, isVirtual.spelled,
        returnValue.spelled, arguments.spelled])
  · rw [ofJson?, toJson, slots?_writeRecord]
    · simp [required, optional, name.reads, isConst.reads, isVararg.reads, isStatic.reads,
        isVirtual.reads, returnValue.reads, arguments.reads]
    · rfl
    · decide

/-- A class is read back. -/
theorem ClassEntry.stands (c : ClassEntry) : Stands ClassEntry.ofJson? c.toJson c := by
  have name := stands_text c.name
  have inherits := stands_nullable_text c.inherits
  have isInstantiable := stands_flag c.isInstantiable
  have isRefcounted := stands_flag c.isRefcounted
  have apiType := stands_text c.apiType
  have constants := stands_list ClassConstant.stands c.constants
  have enums := stands_list EnumEntry.stands c.enums
  have methods := stands_list ClassMethod.stands c.methods
  constructor
  · exact spelled_record (by
      simp [name.spelled, inherits.spelled, isInstantiable.spelled, isRefcounted.spelled,
        apiType.spelled, constants.spelled, enums.spelled, methods.spelled])
  · rw [ofJson?, toJson, slots?_writeRecord]
    · simp [required, optional, name.reads, inherits.reads, isInstantiable.reads,
        isRefcounted.reads, apiType.reads, constants.reads, enums.reads, methods.reads]
    · rfl
    · decide

/-! ## The description -/

/-- The header is read back. -/
theorem Header.stands (h : Header) : Stands Header.ofJson? h.toJson h := by
  have major := stands_word h.major
  have minor := stands_word h.minor
  have patch := stands_word h.patch
  have fullName := stands_text h.fullName
  constructor
  · exact spelled_record (by simp [major.spelled, minor.spelled, patch.spelled, fullName.spelled])
  · rw [ofJson?, toJson, slots?_writeRecord]
    · simp [optional, major.reads, minor.reads, patch.reads, fullName.reads]
    · rfl
    · decide

/-- A document is read back. -/
theorem Document.stands (d : Document) : Stands Document.ofJson? d.toJson d := by
  have header := d.header.stands
  have builtins := stands_list BuiltinType.stands d.builtins
  have classes := stands_list ClassEntry.stands d.classes
  have enums := stands_list EnumEntry.stands d.enums
  constructor
  · exact spelled_record (by
      simp [header.spelled, builtins.spelled, classes.spelled, enums.spelled])
  · rw [ofJson?, toJson, slots?_writeRecord]
    · simp [optional, header.reads, builtins.reads, classes.reads, enums.reads]
    · rfl
    · decide

/-- The text of a document is parsed to the document. -/
theorem Document.parse_text (d : Document) : Document.parse d.text = .ok d := by
  unfold Document.parse Document.text
  rw [Tree.parse?_text d.stands.spelled, Option.bind_some, d.stands.reads]

/-- Bytes that are listed alike are the same. -/
theorem toList_injective : Function.Injective ByteArray.toList := by
  -- the loop puts the bytes from an index on behind those that it has found
  have listed (bytes : ByteArray) (i : Nat) (found : List UInt8) :
      ByteArray.toList.loop bytes i found = found.reverse ++ bytes.data.toList.drop i := by
    fun_induction ByteArray.toList.loop bytes i found with
    | case1 i found below ih =>
      have here := List.drop_eq_getElem_cons (l := bytes.data.toList) (i := i) below
      rw [ih, here, List.reverse_cons, List.append_assoc, List.singleton_append]
      congr 2
      exact getElem!_pos bytes.data i below
    | case2 i found above =>
      rw [List.drop_eq_nil_of_le (Nat.le_of_not_lt above), List.append_nil]
  intro a b same
  unfold ByteArray.toList at same
  rw [listed, listed] at same
  exact ByteArray.ext (Array.ext' same)

/-- A description is read from the text that its fingerprint digests, and different descriptions
have different digests to make. -/
theorem Document.text_round_trip :
    (∀ d : Document, Document.parse d.text = .ok d) ∧
      (∀ d : Document, d.fingerprint = Hash.digest d.text.toUTF8.toList) ∧
      Function.Injective fun d : Document => d.text.toUTF8.toList := by
  refine ⟨Document.parse_text, fun _ => rfl, fun d e same => ?_⟩
  have text : d.text = e.text := String.toByteArray_inj.mp (toList_injective same)
  -- one text cannot be read as two descriptions
  have parsed : Document.parse d.text = .ok e := by rw [text, Document.parse_text]
  rw [Document.parse_text] at parsed
  exact Except.ok.inj parsed

end ScriptBind.Api
