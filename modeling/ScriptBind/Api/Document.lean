import ScriptBind.Api.Error

/-!
# API descriptions

The engine's description of what can be bound: builtin value types, classes and global enums.
The fields of every record are listed in the order in which the description writes them.

* `Api.Document` — the whole description.
* `Api.BuiltinType`, `Api.ClassEntry`, `Api.EnumEntry` — its three kinds of entries.
* `Api.MethodFlags` — the qualifiers of a method.
-/

namespace ScriptBind.Api

/-! ## Parts of entries -/

/-- A declared argument. -/
structure Argument where
  name : String
  type : String
  default : Option String
deriving DecidableEq

/-- A named integer of an enum. -/
structure EnumValue where
  name : String
  value : Int64
deriving DecidableEq

/-- An enum, global or within a type. -/
structure EnumEntry where
  name : String
  isBitfield : Bool
  values : List EnumValue
deriving DecidableEq

/-- The qualifiers of a method. -/
structure MethodFlags where
  isConst : Bool
  isVararg : Bool
  isStatic : Bool
  isVirtual : Bool
deriving DecidableEq, Inhabited

/-! ## Builtin types -/

/-- A named constant of a builtin type. Its value is what the engine answers, the text is only a
rendering. -/
structure Constant where
  name : String
  type : String
  value : String
deriving DecidableEq

/-- A constructor of a builtin type. -/
structure Constructor where
  index : UInt32
  arguments : List Argument
deriving DecidableEq

/-- A method of a builtin type. -/
structure BuiltinMethod where
  name : String
  returnType : Option String
  isVararg : Bool
  isConst : Bool
  isStatic : Bool
  arguments : List Argument
deriving DecidableEq

/-- The qualifiers of a builtin method, which is never virtual. -/
def BuiltinMethod.flags (m : BuiltinMethod) : MethodFlags :=
  ⟨m.isConst, m.isVararg, m.isStatic, false⟩

/-- A member of a builtin type, such as a coordinate. -/
structure Member where
  name : String
  type : String
deriving DecidableEq

/-- A builtin value type. -/
structure BuiltinType where
  name : String
  constants : List Constant
  constructors : List Constructor
  methods : List BuiltinMethod
  members : List Member
  enums : List EnumEntry
deriving DecidableEq

/-- The tag of a builtin type. -/
def BuiltinType.tag (b : BuiltinType) : Except ApiError Tag :=
  match Tag.ofName? b.name with
  | some t => .ok t
  | none => .error (.unknownType b.name)

/-! ## Classes -/

/-- A named integer of a class. -/
structure ClassConstant where
  name : String
  value : Int64
deriving DecidableEq

/-- The type of a method's result. -/
structure ReturnValue where
  type : String
deriving DecidableEq

/-- A method of a class. -/
structure ClassMethod where
  name : String
  isConst : Bool
  isVararg : Bool
  isStatic : Bool
  isVirtual : Bool
  returnValue : Option ReturnValue
  arguments : List Argument
deriving DecidableEq

/-- The qualifiers of a class method. -/
def ClassMethod.flags (m : ClassMethod) : MethodFlags :=
  ⟨m.isConst, m.isVararg, m.isStatic, m.isVirtual⟩

/-- An engine class. -/
structure ClassEntry where
  name : String
  inherits : Option String
  isInstantiable : Bool
  isRefcounted : Bool
  apiType : String
  constants : List ClassConstant
  enums : List EnumEntry
  methods : List ClassMethod
deriving DecidableEq

/-! ## The description -/

/-- The engine's version. -/
structure Header where
  major : UInt32
  minor : UInt32
  patch : UInt32
  fullName : String
deriving DecidableEq

/-- A version that says nothing. -/
def Header.empty : Header := ⟨0, 0, 0, ""⟩

/-- A whole description. -/
structure Document where
  header : Header
  builtins : List BuiltinType
  classes : List ClassEntry
  enums : List EnumEntry
deriving DecidableEq

/-- The first builtin type of a name. -/
def Document.builtin? (d : Document) (name : String) : Option BuiltinType :=
  d.builtins.find? fun b => b.name == name

/-- The first class of a name. -/
def Document.class? (d : Document) (name : String) : Option ClassEntry :=
  d.classes.find? fun c => c.name == name

end ScriptBind.Api
