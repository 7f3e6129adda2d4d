import ScriptBind.Api.Document
import ScriptBind.Json.Tree
import ScriptBind.Json.Spelling
import ScriptBind.Hash.XXHash

/-!
# The JSON form of an API description

Every record is written as an object with all its fields in declaration order. It is read from an
object whose members may come in any order, or from an array of its fields in declaration order;
members of other names are skipped, a field may not be given twice, and most fields have a value
that stands for them when they are missing.

* `Document.ofJson?`, `Document.toJson` — the description as a JSON value.
* `Document.parse` — the description in a text.
* `Document.text`, `Document.fingerprint` — the text without blanks, and its digest: equal
  descriptions have equal fingerprints.
-/

namespace ScriptBind.Api

open Json (Tree)

/-! ## Plain values -/

/-- Reads a value; none when it has another shape. -/
abbrev Reader (α : Type) := Tree → Option α

def readText : Reader String
  | .string s => Json.decode? s
  | _ => none

def readFlag : Reader Bool
  | .bool b => some b
  | _ => none

/-- An integer from `low` to `high`. -/
def readInteger (low high : Int) : Reader Int
  | .number s => (Json.integer? s).filter fun n => low ≤ n && n ≤ high
  | _ => none

def readWord : Reader UInt32 := fun t =>
  (readInteger 0 (UInt32.size - 1) t).map fun n => .ofNat n.toNat

def readInt64 : Reader Int64 := fun t =>
  (readInteger Int64.minValue.toInt Int64.maxValue.toInt t).map .ofInt

def readList {α : Type} (read : Reader α) : Reader (List α)
  | .array items => items.mapM read
  | _ => none

/-- A value that may be null. -/
def readNullable {α : Type} (read : Reader α) : Reader (Option α)
  | .null => some none
  | t => (read t).map some

def writeText (s : String) : Tree := .string (Json.encode s)

def writeInteger (n : Int) : Tree := .number (Json.integerSpelling n)

def writeList {α : Type} (write : α → Tree) (xs : List α) : Tree := .array (xs.map write)

def writeNullable {α : Type} (write : α → Tree) : Option α → Tree
  | none => .null
  | some a => write a

/-! ## Records -/

/-- The values given to the named fields, in the order of the names. All keys of an object must be
readable, also those of members that are skipped. -/
def slots? (names : List String) : Tree → Option (List (Option Tree))
  | .object members => do
    let known ← members.mapM fun m => (Json.decode? m.1).map fun key => (key, m.2)
    names.mapM fun name =>
      match known.filter fun m => m.1 == name with
      | [] => some none
      | [m] => some (some m.2)
      | _ => none
  | .array items =>
    if items.length ≤ names.length then
      some (items.map some ++ List.replicate (names.length - items.length) none)
    else none
  | _ => none

/-- A field that must be given. -/
def required {α : Type} (read : Reader α) (slot : Option Tree) : Option α := slot.bind read

/-- A field with a value that stands for it when it is missing. -/
def optional {α : Type} (read : Reader α) (missing : α) : Option Tree → Option α
  | none => some missing
  | some t => read t

/-- An object with the given fields. -/
def writeRecord (fields : List (String × Tree)) : Tree :=
  .object (fields.map fun f => (Json.encode f.1, f.2))

/-! ## Parts of entries -/

def Argument.ofJson? : Reader Argument := fun t =>
  match slots? ["name", "type", "default_value"] t with
  | some [name, type, default] => do
    return { name := ← required readText name
             type := ← required readText type
             default := ← optional (readNullable readText) none default }
  | _ => none

def Argument.toJson (a : Argument) : Tree :=
  writeRecord
    [("name", writeText a.name), ("type", writeText a.type),
      ("default_value", writeNullable writeText a.default)]

def EnumValue.ofJson? : Reader EnumValue := fun t =>
  match slots? ["name", "value"] t with
  | some [name, value] => do
    return { name := ← required readText name, value := ← required readInt64 value }
  | _ => none

def EnumValue.toJson (v : EnumValue) : Tree :=
  writeRecord [("name", writeText v.name), ("value", writeInteger v.value.toInt)]

def EnumEntry.ofJson? : Reader EnumEntry := fun t =>
  match slots? ["name", "is_bitfield", "values"] t with
  | some [name, isBitfield, values] => do
    return { name := ← required readText name
             isBitfield := ← optional readFlag false isBitfield
             values := ← optional (readList EnumValue.ofJson?) [] values }
  | _ => none

def EnumEntry.toJson (e : EnumEntry) : Tree :=
  writeRecord
    [("name", writeText e.name), ("is_bitfield", .bool e.isBitfield),
      ("values", writeList EnumValue.toJson e.values)]

/-! ## Builtin types -/

def Constant.ofJson? : Reader Constant := fun t =>
  match slots? ["name", "type", "value"] t with
  | some [name, type, value] => do
    return { name := ← required readText name
             type := ← required readText type
             value := ← optional readText "" value }
  | _ => none

def Constant.toJson (c : Constant) : Tree :=
  writeRecord
    [("name", writeText c.name), ("type", writeText c.type), ("value", writeText c.value)]

def Constructor.ofJson? : Reader Constructor := fun t =>
  match slots? ["index", "arguments"] t with
  | some [index, arguments] => do
    return { index := ← required readWord index
             arguments := ← optional (readList Argument.ofJson?) [] arguments }
  | _ => none

def Constructor.toJson (c : Constructor) : Tree :=
  writeRecord
    [("index", writeInteger c.index.toNat), ("arguments", writeList Argument.toJson c.arguments)]

def BuiltinMethod.ofJson? : Reader BuiltinMethod := fun t =>
  match slots? ["name", "return_type", "is_vararg", "is_const", "is_static", "arguments"] t with
  | some [name, returnType, isVararg, isConst, isStatic, arguments] => do
    return { name := ← required readText name
             returnType := ← optional (readNullable readText) none returnType
             isVararg := ← optional readFlag false isVararg
             isConst := ← optional readFlag false isConst
             isStatic := ← optional readFlag false isStatic
             arguments := ← optional (readList Argument.ofJson?) [] arguments }
  | _ => none

def BuiltinMethod.toJson (m : BuiltinMethod) : Tree :=
  writeRecord
    [("name", writeText m.name), ("return_type", writeNullable writeText m.returnType),
      ("is_vararg", .bool m.isVararg), ("is_const", .bool m.isConst),
      ("is_static", .bool m.isStatic), ("arguments", writeList Argument.toJson m.arguments)]

def Member.ofJson? : Reader Member := fun t =>
  match slots? ["name", "type"] t with
  | some [name, type] => do
    return { name := ← required readText name, type := ← required readText type }
  | _ => none

def Member.toJson (m : Member) : Tree :=
  writeRecord [("name", writeText m.name), ("type", writeText m.type)]

def BuiltinType.ofJson? : Reader BuiltinType := fun t =>
  match slots? ["name", "constants", "constructors", "methods", "members", "enums"] t with
  | some [name, constants, constructors, methods, members, enums] => do
    return { name := ← required readText name
             constants := ← optional (readList Constant.ofJson?) [] constants
             constructors := ← optional (readList Constructor.ofJson?) [] constructors
             methods := ← optional (readList BuiltinMethod.ofJson?) [] methods
             members := ← optional (readList Member.ofJson?) [] members
             enums := ← optional (readList EnumEntry.ofJson?) [] enums }
  | _ => none

def BuiltinType.toJson (b : BuiltinType) : Tree :=
  writeRecord
    [("name", writeText b.name), ("constants", writeList Constant.toJson b.constants),
      ("constructors", writeList Constructor.toJson b.constructors),
      ("methods", writeList BuiltinMethod.toJson b.methods),
      ("members", writeList Member.toJson b.members), ("enums", writeList EnumEntry.toJson b.enums)]

/-! ## Classes -/

def ClassConstant.ofJson? : Reader ClassConstant := fun t =>
  match slots? ["name", "value"] t with
  | some [name, value] => do
    return { name := ← required readText name, value := ← required readInt64 value }
  | _ => none

def ClassConstant.toJson (c : ClassConstant) : Tree :=
  writeRecord [("name", writeText c.name), ("value", writeInteger c.value.toInt)]

def ReturnValue.ofJson? : Reader ReturnValue := fun t =>
  match slots? ["type"] t with
  | some [type] => do return { type := ← required readText type }
  | _ => none

def ReturnValue.toJson (r : ReturnValue) : Tree := writeRecord [("type", writeText r.type)]

def ClassMethod.ofJson? : Reader ClassMethod := fun t =>
  match slots? ["name", "is_const", "is_vararg", "is_static", "is_virtual", "return_value",
      "arguments"] t with
  | some [name, isConst, isVararg, isStatic, isVirtual, returnValue, arguments] => do
    return { name := ← required readText name
             isConst := ← optional readFlag false isConst
             isVararg := ← optional readFlag false isVararg
             isStatic := ← optional readFlag false isStatic
             isVirtual := ← optional readFlag false isVirtual
             returnValue := ← optional (readNullable ReturnValue.ofJson?) none returnValue
             arguments := ← optional (readList Argument.ofJson?) [] arguments }
  | _ => none

def ClassMethod.toJson (m : ClassMethod) : Tree :=
  writeRecord
    [("name", writeText m.name), ("is_const", .bool m.isConst), ("is_vararg", .bool m.isVararg),
      ("is_static", .bool m.isStatic), ("is_virtual", .bool m.isVirtual),
      ("return_value", writeNullable ReturnValue.toJson m.returnValue),
      ("arguments", writeList Argument.toJson m.arguments)]

def ClassEntry.ofJson? : Reader ClassEntry := fun t =>
  match slots? ["name", "inherits", "is_instantiable", "is_refcounted", "api_type", "constants",
      "enums", "methods"] t with
  | some [name, inherits, isInstantiable, isRefcounted, apiType, constants, enums, methods] => do
    return { name := ← required readText name
             inherits := ← optional (readNullable readText) none inherits
             isInstantiable := ← optional readFlag false isInstantiable
             isRefcounted := ← optional readFlag false isRefcounted
             apiType := ← optional readText "" apiType
             constants := ← optional (readList ClassConstant.ofJson?) [] constants
             enums := ← optional (readList EnumEntry.ofJson?) [] enums
             methods := ← optional (readList ClassMethod.ofJson?) [] methods }
  | _ => none

def ClassEntry.toJson (c : ClassEntry) : Tree :=
  writeRecord
    [("name", writeText c.name), ("inherits", writeNullable writeText c.inherits),
      ("is_instantiable", .bool c.isInstantiable), ("is_refcounted", .bool c.isRefcounted),
      ("api_type", writeText c.apiType),
      ("constants", writeList ClassConstant.toJson c.constants),
      ("enums", writeList EnumEntry.toJson c.enums),
      ("methods", writeList ClassMethod.toJson c.methods)]

/-! ## The description -/

def Header.ofJson? : Reader Header := fun t =>
  match slots? ["version_major", "version_minor", "version_patch", "version_full_name"] t with
  | some [major, minor, patch, fullName] => do
    return { major := ← optional readWord 0 major
             minor := ← optional readWord 0 minor
             patch := ← optional readWord 0 patch
             fullName := ← optional readText "" fullName }
  | _ => none

def Header.toJson (h : Header) : Tree :=
  writeRecord
    [("version_major", writeInteger h.major.toNat), ("version_minor", writeInteger h.minor.toNat),
      ("version_patch", writeInteger h.patch.toNat), ("version_full_name", writeText h.fullName)]

def Document.ofJson? : Reader Document := fun t =>
  match slots? ["header", "builtin_classes", "classes", "global_enums"] t with
  | some [header, builtins, classes, enums] => do
    return { header := ← optional Header.ofJson? Header.empty header
             builtins := ← optional (readList BuiltinType.ofJson?) [] builtins
             classes := ← optional (readList ClassEntry.ofJson?) [] classes
             enums := ← optional (readList EnumEntry.ofJson?) [] enums }
  | _ => none

def Document.toJson (d : Document) : Tree :=
  writeRecord
    [("header", d.header.toJson), ("builtin_classes", writeList BuiltinType.toJson d.builtins),
      ("classes", writeList ClassEntry.toJson d.classes),
      ("global_enums", writeList EnumEntry.toJson d.enums)]

/-- The description in a text. -/
def Document.parse (text : String) : Except ApiError Document :=
  match (Tree.parse? text).bind Document.ofJson? with
  | some d => .ok d
  | none => .error .json

/-- The text of a description without blanks. -/
def Document.text (d : Document) : String := d.toJson.text

/-- The digest of a description's text. -/
def Document.fingerprint (d : Document) : UInt64 := Hash.digestText d.text

end ScriptBind.Api
