import Mathlib.Logic.Relation
import ScriptBind.Proofs.Api.Edits
import ScriptBind.Proofs.Json.Layout
import ScriptBind.Registry.Basic

/-!
# Descriptions depend on their known members alone

A description can be read from any text that has its members: in any order, among others of unknown
names, and with blanks anywhere between the tokens. There is one shape for each record, with the names
of its fields and the records within, and one lemma that its reader finds the same after a change.

Main results:

* `Document.respects` — a change of a value does not change the description in it.
* `Document.parse_edited` — a text of a changed value has the same description.
-/

namespace ScriptBind.Api

open Json (Tree)

/-! ## Parts of entries -/

def Argument.shape : Shape :=
  .record [("name", .plain), ("type", .plain), ("default_value", .plain)]

theorem Argument.respects : Respects Argument.ofJson? Argument.shape := by
  refine respects_record ["name", "type", "default_value"] rfl (by decide)
    (fun t h => by rw [ofJson?, h]) ?_
  intro t t' ss ss' h h' slots
  obtain _ | ⟨name, _ | ⟨type, _ | ⟨default, _ | _⟩⟩⟩ := slots
  rw [ofJson?, ofJson?, h, h', name.plain, type.plain, default.plain]

def EnumValue.shape : Shape :=
  .record [("name", .plain), ("value", .plain)]

theorem EnumValue.respects : Respects EnumValue.ofJson? EnumValue.shape := by
  refine respects_record ["name", "value"] rfl (by decide)
    (fun t h => by rw [ofJson?, h]) ?_
  intro t t' ss ss' h h' slots
  obtain _ | ⟨name, _ | ⟨value, _ | _⟩⟩ := slots
  rw [ofJson?, ofJson?, h, h', name.plain, value.plain]

def EnumEntry.shape : Shape :=
  .record [("name", .plain), ("is_bitfield", .plain), ("values", .list EnumValue.shape)]

theorem EnumEntry.respects : Respects EnumEntry.ofJson? EnumEntry.shape := by
  refine respects_record ["name", "is_bitfield", "values"] rfl (by decide)
    (fun t h => by rw [ofJson?, h]) ?_
  intro t t' ss ss' h h' slots
  obtain _ | ⟨name, _ | ⟨isBitfield, _ | ⟨values, _ | _⟩⟩⟩ := slots
  rw [ofJson?, ofJson?, h, h']
  simp only [name.plain, isBitfield.plain, values.optional (respects_list EnumValue.respects)]

/-! ## Builtin types -/

def Constant.shape : Shape :=
  .record [("name", .plain), ("type", .plain), ("value", .plain)]

theorem Constant.respects : Respects Constant.ofJson? Constant.shape := by
  refine respects_record ["name", "type", "value"] rfl (by decide)
    (fun t h => by rw [ofJson?, h]) ?_
  intro t t' ss ss' h h' slots
  obtain _ | ⟨name, _ | ⟨type, _ | ⟨value, _ | _⟩⟩⟩ := slots
  rw [ofJson?, ofJson?, h, h', name.plain, type.plain, value.plain]

def Constructor.shape : Shape :=
  .record [("index", .plain), ("arguments", .list Argument.shape)]

theorem Constructor.respects : Respects Constructor.ofJson? Constructor.shape := by
  refine respects_record ["index", "arguments"] rfl (by decide)
    (fun t h => by rw [ofJson?, h]) ?_
  intro t t' ss ss' h h' slots
  obtain _ | ⟨index, _ | ⟨arguments, _ | _⟩⟩ := slots
  rw [ofJson?, ofJson?, h, h']
  simp only [index.plain, arguments.optional (respects_list Argument.respects)]

def BuiltinMethod.shape : Shape :=
  .record [("name", .plain), ("return_type", .plain), ("is_vararg", .plain), ("is_const", .plain),
    ("is_static", .plain), ("arguments", .list Argument.shape)]

theorem BuiltinMethod.respects : Respects BuiltinMethod.ofJson? BuiltinMethod.shape := by
  refine respects_record ["name", "return_type", "is_vararg", "is_const", "is_static",
    "arguments"] rfl (by decide)
    (fun t h => by rw [ofJson?, h]) ?_
  intro t t' ss ss' h h' slots
  obtain _ | ⟨name, _ | ⟨returnType, _ | ⟨isVararg, _ | ⟨isConst, _ | ⟨isStatic, _ | ⟨arguments,
    _ | _⟩⟩⟩⟩⟩⟩ := slots
  rw [ofJson?, ofJson?, h, h']
  simp only [name.plain, returnType.plain, isVararg.plain, isConst.plain, isStatic.plain,
    arguments.optional (respects_list Argument.respects)]

def Member.shape : Shape :=
  .record [("name", .plain), ("type", .plain)]

theorem Member.respects : Respects Member.ofJson? Member.shape := by
  refine respects_record ["name", "type"] rfl (by decide)
    (fun t h => by rw [ofJson?, h]) ?_
  intro t t' ss ss' h h' slots
  obtain _ | ⟨name, _ | ⟨type, _ | _⟩⟩ := slots
  rw [ofJson?, ofJson?, h, h', name.plain, type.plain]

def BuiltinType.shape : Shape :=
  .record [("name", .plain), ("constants", .list Constant.shape),
    ("constructors", .list Constructor.shape), ("methods", .list BuiltinMethod.shape),
    ("members", .list Member.shape), ("enums", .list EnumEntry.shape)]

theorem BuiltinType.respects : Respects BuiltinType.ofJson? BuiltinType.shape := by
  refine respects_record ["name", "constants", "constructors", "methods", "members",
    "enums"] rfl (by decide)
    (fun t h => by rw [ofJson?, h]) ?_
  intro t t' ss ss' h h' slots
  obtain _ | ⟨name, _ | ⟨constants, _ | ⟨constructors, _ | ⟨methods, _ | ⟨members, _ | ⟨enums,
    _ | _⟩⟩⟩⟩⟩⟩ := slots
  rw [ofJson?, ofJson?, h, h']
  simp only [name.plain, constants.optional (respects_list Constant.respects),
    constructors.optional (respects_list Constructor.respects),
    methods.optional (respects_list BuiltinMethod.respects),
    members.optional (respects_list Member.respects),
    enums.optional (respects_list EnumEntry.respects)]

/-! ## Classes -/

def ClassConstant.shape : Shape :=
  .record [("name", .plain), ("value", .plain)]

theorem ClassConstant.respects : Respects ClassConstant.ofJson? ClassConstant.shape := by
  refine respects_record ["name", "value"] rfl (by decide)
    (fun t h => by rw [ofJson?, h]) ?_
  intro t t' ss ss' h h' slots
  obtain _ | ⟨name, _ | ⟨value, _ | _⟩⟩ := slots
  rw [ofJson?, ofJson?, h, h', name.plain, value.plain]

def ReturnValue.shape : Shape :=
  .record [("type", .plain)]

theorem ReturnValue.respects : Respects ReturnValue.ofJson? ReturnValue.shape := by
  refine respects_record ["type"] rfl (by decide)
    (fun t h => by rw [ofJson?, h]) ?_
  intro t t' ss ss' h h' slots
  obtain _ | ⟨type, _ | _⟩ := slots
  rw [ofJson?, ofJson?, h, h', type.plain]

def ClassMethod.shape : Shape :=
  .record [("name", .plain), ("is_const", .plain), ("is_vararg", .plain), ("is_static", .plain),
    ("is_virtual", .plain), ("return_value", .nullable ReturnValue.shape),
    ("arguments", .list Argument.shape)]

theorem ClassMethod.respects : Respects ClassMethod.ofJson? ClassMethod.shape := by
  refine respects_record ["name", "is_const", "is_vararg", "is_static", "is_virtual",
    "return_value", "arguments"] rfl (by decide)
    (fun t h => by rw [ofJson?, h]) ?_
  intro t t' ss ss' h h' slots
  obtain _ | ⟨name, _ | ⟨isConst, _ | ⟨isVararg, _ | ⟨isStatic, _ | ⟨isVirtual, _ | ⟨returnValue,
    _ | ⟨arguments, _ | _⟩⟩⟩⟩⟩⟩⟩ := slots
  rw [ofJson?, ofJson?, h, h']
  simp only [name.plain, isConst.plain, isVararg.plain, isStatic.plain, isVirtual.plain,
    returnValue.optional (respects_nullable ReturnValue.respects),
    arguments.optional (respects_list Argument.respects)]

def ClassEntry.shape : Shape :=
  .record [("name", .plain), ("inherits", .plain), ("is_instantiable", .plain),
    ("is_refcounted", .plain), ("api_type", .plain), ("constants", .list ClassConstant.shape),
    ("enums", .list EnumEntry.shape), ("methods", .list ClassMethod.shape)]

theorem ClassEntry.respects : Respects ClassEntry.ofJson? ClassEntry.shape := by
  refine respects_record ["name", "inherits", "is_instantiable", "is_refcounted", "api_type",
    "constants", "enums", "methods"] rfl (by decide)
    (fun t h => by rw [ofJson?, h]) ?_
  intro t t' ss ss' h h' slots
  obtain _ | ⟨name, _ | ⟨inherits, _ | ⟨isInstantiable, _ | ⟨isRefcounted, _ | ⟨apiType,
    _ | ⟨constants, _ | ⟨enums, _ | ⟨methods, _ | _⟩⟩⟩⟩⟩⟩⟩⟩ := slots
  rw [ofJson?, ofJson?, h, h']
  simp only [name.plain, inherits.plain, isInstantiable.plain, isRefcounted.plain, apiType.plain,
    constants.optional (respects_list ClassConstant.respects),
    enums.optional (respects_list EnumEntry.respects),
    methods.optional (respects_list ClassMethod.respects)]

/-! ## The description -/

def Header.shape : Shape :=
  .record [("version_major", .plain), ("version_minor", .plain), ("version_patch", .plain),
    ("version_full_name", .plain)]

theorem Header.respects : Respects Header.ofJson? Header.shape := by
  refine respects_record ["version_major", "version_minor", "version_patch",
    "version_full_name"] rfl (by decide)
    (fun t h => by rw [ofJson?, h]) ?_
  intro t t' ss ss' h h' slots
  obtain _ | ⟨major, _ | ⟨minor, _ | ⟨patch, _ | ⟨fullName, _ | _⟩⟩⟩⟩ := slots
  rw [ofJson?, ofJson?, h, h', major.plain, minor.plain, patch.plain, fullName.plain]

def Document.shape : Shape :=
  .record [("header", Header.shape), ("builtin_classes", .list BuiltinType.shape),
    ("classes", .list ClassEntry.shape), ("global_enums", .list EnumEntry.shape)]

theorem Document.respects : Respects Document.ofJson? Document.shape := by
  refine respects_record ["header", "builtin_classes", "classes", "global_enums"] rfl (by decide)
    (fun t h => by rw [ofJson?, h]) ?_
  intro t t' ss ss' h h' slots
  obtain _ | ⟨header, _ | ⟨builtins, _ | ⟨classes, _ | ⟨enums, _ | _⟩⟩⟩⟩ := slots
  rw [ofJson?, ofJson?, h, h']
  simp only [header.optional Header.respects,
    builtins.optional (respects_list BuiltinType.respects),
    classes.optional (respects_list ClassEntry.respects),
    enums.optional (respects_list EnumEntry.respects)]

/-- What is in a value is in every value that it can be changed to. -/
theorem Document.ofJson?_edits {t t' : Tree}
    (edits : Relation.ReflTransGen (Edit Document.shape) t t') :
    Document.ofJson? t = Document.ofJson? t' := by
  induction edits with
  | refl => rfl
  | tail _ edit ih => exact ih.trans (Document.respects _ _ edit)

/-- A text has a description exactly if it is a text of a value that has it. -/
theorem Document.parse_eq_ok {text : String} {d : Document} :
    Document.parse text = .ok d ↔ ∃ t : Tree, t.LaidOut text ∧ Document.ofJson? t = some d := by
  have laid (t : Tree) : t.LaidOut text ↔ Tree.parse? text = some t := Tree.parse?_eq_some.symm
  simp only [laid]
  unfold Document.parse
  rw [← Option.bind_eq_some_iff]
  cases (Tree.parse? text).bind Document.ofJson? with
  | none => simp
  | some e => simp

/-- A text with a description is the text of one value. Let the members of the records in this value
be permuted, and members of other names be put in or taken out: every text of what comes of it, with
whatever blanks, has the same description, so the same fingerprint and the same registry. -/
theorem Document.parse_edited {text : String} {d : Document} (parsed : Document.parse text = .ok d) :
    ∃ t : Tree, (∀ u : Tree, u.LaidOut text ↔ u = t) ∧
      ∀ (t' : Tree) (text' : String), Relation.ReflTransGen (Edit Document.shape) t t' →
        t'.LaidOut text' →
          Document.parse text' = .ok d ∧
            (Document.parse text').map Document.fingerprint = .ok d.fingerprint ∧
            (Document.parse text').bind Registry.ofApi = Registry.ofApi d := by
  obtain ⟨t, laid, read⟩ := Document.parse_eq_ok.mp parsed
  refine ⟨t, fun u => ?_, fun t' text' edits laid' => ?_⟩
  · rw [← Tree.parse?_eq_some, Tree.parse?_eq_some.mpr laid, Option.some_inj, eq_comm]
  · have parsed' : Document.parse text' = .ok d :=
      Document.parse_eq_ok.mpr ⟨t', laid', Document.ofJson?_edits edits ▸ read⟩
    rw [parsed']
    exact ⟨rfl, rfl, rfl⟩

/-- Another text of a description of one class: the members are the other way round, the class has
one more, whose value a reader could not make sense of, and there are blanks. -/
theorem Document.parse_edited_class :
    ∃ d : Document,
      Document.parse "\x7b\"header\":\x7b\x7d,\"classes\":[\x7b\"name\":\"A\"\x7d]\x7d" = .ok d ∧
        d.classes.map ClassEntry.name = ["A"] ∧
        Document.parse
          "\x7b \"classes\" : [\x7b\"x\":[null,\x7b\"\\ud800\":-1.5e999\x7d],\"name\":\"A\"\x7d] ,
            \"header\" : \x7b \x7d \x7d" = .ok d := by
  have parsed : ∃ d : Document,
      Document.parse "\x7b\"header\":\x7b\x7d,\"classes\":[\x7b\"name\":\"A\"\x7d]\x7d" = .ok d ∧
        d.classes.map ClassEntry.name = ["A"] := ⟨_, rfl, rfl⟩
  obtain ⟨d, parsed, names⟩ := parsed
  obtain ⟨t, only, edited⟩ := Document.parse_edited parsed
  -- both texts are read, and the tree of the first is edited into that of the second
  have written : Tree.LaidOut
      (.object
        [("header".toList, .object []),
          ("classes".toList, .array [.object [("name".toList, .string ['A'])]])])
      "\x7b\"header\":\x7b\x7d,\"classes\":[\x7b\"name\":\"A\"\x7d]\x7d" :=
    Tree.parse?_eq_some.mp rfl
  have rewritten : Tree.LaidOut
      (.object
        [("classes".toList, .array
            [.object
              [(['x'], .array [.null, .object [("\\ud800".toList, .number "-1.5e999".toList)]]),
                ("name".toList, .string ['A'])]]),
          ("header".toList, .object [])])
      "\x7b \"classes\" : [\x7b\"x\":[null,\x7b\"\\ud800\":-1.5e999\x7d],\"name\":\"A\"\x7d] ,
            \"header\" : \x7b \x7d \x7d" :=
    Tree.parse?_eq_some.mp rfl
  obtain rfl := (only _).mp written
  refine ⟨d, parsed, names, (edited _ _ ?_ rewritten).1⟩
  refine .tail (.single (.permute (.swap _ _ _))) ?_
  refine @Edit.member _ [] _ _ "classes" _ _ _ ?_ rfl (@Edit.element ClassEntry.shape [] _ _ _ ?_)
  · exact List.mem_cons_of_mem _ (List.mem_cons_of_mem _ List.mem_cons_self)
  · exact @Edit.insert _ [] _ _ "x" _ rfl (by decide)

end ScriptBind.Api
