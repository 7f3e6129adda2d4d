import ScriptBind.Api.Document

/-!
# The bundled description

The API description that goes with the reference engine: the math types with their constants,
constructors, methods and members, a small class hierarchy and three global enums.

* `Document.bundled` — the description.
-/

namespace ScriptBind.Api

/-! ## Shorthands -/

/-- An argument that must be given. -/
def argument (name type : String) : Argument := ⟨name, type, none⟩

/-- An argument that may be left out. -/
def argumentOr (name type default : String) : Argument := ⟨name, type, some default⟩

/-- A builtin method that leaves its receiver as it is. -/
def constMethod (name result : String) (arguments : List Argument) : BuiltinMethod :=
  ⟨name, some result, false, true, false, arguments⟩

/-- A builtin method without receiver. -/
def staticMethod (name result : String) (arguments : List Argument) : BuiltinMethod :=
  ⟨name, some result, false, false, true, arguments⟩

/-- A class method that only reads the object. -/
def getter (name result : String) (arguments : List Argument) : ClassMethod :=
  ⟨name, true, false, false, false, some ⟨result⟩, arguments⟩

/-- A class method without result. -/
def action (name : String) (arguments : List Argument) : ClassMethod :=
  ⟨name, false, false, false, false, none, arguments⟩

/-- A class method with a result that takes any further arguments. -/
def varargMethod (name result : String) (arguments : List Argument) : ClassMethod :=
  ⟨name, false, true, false, false, some ⟨result⟩, arguments⟩

/-! ## Builtin types -/

/-- A builtin type that scripts see as a plain value. -/
def plainType (name : String) : BuiltinType := ⟨name, [], [], [], [], []⟩

/-- The description of `Vector2`. -/
def vector2Type : BuiltinType where
  name := "Vector2"
  constants :=
    [⟨"AXIS_X", "int", "0"⟩,
     ⟨"AXIS_Y", "int", "1"⟩,
     ⟨"ZERO", "Vector2", "Vector2(0, 0)"⟩,
     ⟨"ONE", "Vector2", "Vector2(1, 1)"⟩,
     ⟨"LEFT", "Vector2", "Vector2(-1, 0)"⟩,
     ⟨"RIGHT", "Vector2", "Vector2(1, 0)"⟩,
     ⟨"UP", "Vector2", "Vector2(0, -1)"⟩,
     ⟨"DOWN", "Vector2", "Vector2(0, 1)"⟩]
  constructors :=
    [⟨0, []⟩,
     ⟨1, [argument "from" "Vector2"]⟩,
     ⟨2, [argument "from" "Vector2i"]⟩,
     ⟨3, [argument "x" "float", argument "y" "float"]⟩]
  methods :=
    [constMethod "length" "float" [],
     constMethod "length_squared" "float" [],
     constMethod "normalized" "Vector2" [],
     constMethod "abs" "Vector2" [],
     constMethod "dot" "float" [argument "with" "Vector2"],
     constMethod "lerp" "Vector2" [argument "to" "Vector2", argument "weight" "float"],
     staticMethod "from_angle" "Vector2" [argument "angle" "float"]]
  members := [⟨"x", "float"⟩, ⟨"y", "float"⟩]
  enums := []

/-- The description of `Vector2i`. -/
def vector2iType : BuiltinType where
  name := "Vector2i"
  constants := [⟨"ZERO", "Vector2i", "Vector2i(0, 0)"⟩, ⟨"ONE", "Vector2i", "Vector2i(1, 1)"⟩]
  constructors :=
    [⟨0, []⟩,
     ⟨1, [argument "from" "Vector2i"]⟩,
     ⟨2, [argument "from" "Vector2"]⟩,
     ⟨3, [argument "x" "int", argument "y" "int"]⟩]
  methods := [constMethod "abs" "Vector2i" []]
  members := [⟨"x", "int"⟩, ⟨"y", "int"⟩]
  enums := []

/-- The description of `Vector3`. -/
def vector3Type : BuiltinType where
  name := "Vector3"
  constants :=
    [⟨"ZERO", "Vector3", "Vector3(0, 0, 0)"⟩,
     ⟨"ONE", "Vector3", "Vector3(1, 1, 1)"⟩,
     ⟨"UP", "Vector3", "Vector3(0, 1, 0)"⟩,
     ⟨"FORWARD", "Vector3", "Vector3(0, 0, -1)"⟩]
  constructors :=
    [⟨0, []⟩,
     ⟨1, [argument "from" "Vector3"]⟩,
     ⟨2, [argument "from" "Vector3i"]⟩,
     ⟨3, [argument "x" "float", argument "y" "float", argument "z" "float"]⟩]
  methods :=
    [constMethod "length" "float" [],
     constMethod "normalized" "Vector3" [],
     constMethod "dot" "float" [argument "with" "Vector3"],
     constMethod "cross" "Vector3" [argument "with" "Vector3"]]
  members := [⟨"x", "float"⟩, ⟨"y", "float"⟩, ⟨"z", "float"⟩]
  enums := []

/-- The description of `Vector3i`. -/
def vector3iType : BuiltinType where
  name := "Vector3i"
  constants :=
    [⟨"ZERO", "Vector3i", "Vector3i(0, 0, 0)"⟩,
     ⟨"ONE", "Vector3i", "Vector3i(1, 1, 1)"⟩]
  constructors := [⟨0, []⟩, ⟨3, [argument "x" "int", argument "y" "int", argument "z" "int"]⟩]
  methods := [constMethod "abs" "Vector3i" []]
  members := [⟨"x", "int"⟩, ⟨"y", "int"⟩, ⟨"z", "int"⟩]
  enums := []

/-- The description of `Color`. -/
def colorType : BuiltinType where
  name := "Color"
  constants :=
    [⟨"WHITE", "Color", "Color(1, 1, 1, 1)"⟩,
     ⟨"BLACK", "Color", "Color(0, 0, 0, 1)"⟩,
     ⟨"RED", "Color", "Color(1, 0, 0, 1)"⟩,
     ⟨"TRANSPARENT", "Color", "Color(1, 1, 1, 0)"⟩]
  constructors :=
    [⟨0, []⟩,
     ⟨1, [argument "from" "Color"]⟩,
     ⟨3, [argument "r" "float", argument "g" "float", argument "b" "float"]⟩,
     ⟨4, [argument "r" "float", argument "g" "float", argument "b" "float",
         argument "a" "float"]⟩]
  methods :=
    [constMethod "inverted" "Color" [],
     constMethod "lerp" "Color" [argument "to" "Color", argument "weight" "float"],
     constMethod "to_html" "String" [argumentOr "with_alpha" "bool" "true"],
     staticMethod "from_hsv" "Color" [argument "h" "float", argument "s" "float",
         argument "v" "float", argumentOr "alpha" "float" "1.0"]]
  members := [⟨"r", "float"⟩, ⟨"g", "float"⟩, ⟨"b", "float"⟩, ⟨"a", "float"⟩]
  enums := []

/-! ## Classes -/

/-- The description of `Node2D`. -/
def node2DClass : ClassEntry where
  name := "Node2D"
  inherits := some "CanvasItem"
  isInstantiable := true
  isRefcounted := false
  apiType := "core"
  constants := []
  enums := []
  methods :=
    [action "set_position" [argument "position" "Vector2"],
     getter "get_position" "Vector2" [],
     action "rotate" [argument "radians" "float"],
     getter "get_rotation" "float" []]

/-- The description of `Object`. -/
def objectClass : ClassEntry where
  name := "Object"
  inherits := none
  isInstantiable := true
  isRefcounted := false
  apiType := "core"
  constants := [⟨"NOTIFICATION_POSTINITIALIZE", 0⟩, ⟨"NOTIFICATION_PREDELETE", 1⟩]
  enums :=
    [⟨"ConnectFlags", true, [⟨"CONNECT_DEFERRED", 1⟩, ⟨"CONNECT_PERSIST", 2⟩,
        ⟨"CONNECT_ONE_SHOT", 4⟩]⟩]
  methods :=
    [getter "get_class" "String" [],
     getter "is_class" "bool" [argument "class" "String"],
     getter "get_instance_id" "int" [],
     action "set_meta" [argument "name" "StringName", argument "value" "Variant"],
     getter "get_meta" "Variant" [argument "name" "StringName",
         argumentOr "default" "Variant" "null"],
     varargMethod "notify" "int" [argument "what" "int"]]

/-- The description of `RefCounted`. -/
def refCountedClass : ClassEntry where
  name := "RefCounted"
  inherits := some "Object"
  isInstantiable := true
  isRefcounted := true
  apiType := "core"
  constants := []
  enums := []
  methods := [getter "get_reference_count" "int" []]

/-- The description of `Node`. -/
def nodeClass : ClassEntry where
  name := "Node"
  inherits := some "Object"
  isInstantiable := true
  isRefcounted := false
  apiType := "core"
  constants := [⟨"NOTIFICATION_READY", 13⟩, ⟨"NOTIFICATION_PROCESS", 17⟩]
  enums :=
    [⟨"ProcessMode", false, [⟨"PROCESS_MODE_INHERIT", 0⟩, ⟨"PROCESS_MODE_PAUSABLE", 1⟩,
        ⟨"PROCESS_MODE_WHEN_PAUSED", 2⟩, ⟨"PROCESS_MODE_ALWAYS", 3⟩,
        ⟨"PROCESS_MODE_DISABLED", 4⟩]⟩]
  methods :=
    [action "set_name" [argument "name" "String"],
     getter "get_name" "StringName" [],
     action "add_child" [argument "node" "Node"],
     getter "get_child_count" "int" [],
     action "set_process_mode" [argument "mode" "enum::Node.ProcessMode"],
     getter "get_process_mode" "enum::Node.ProcessMode" []]

/-- The description of `CanvasItem`. -/
def canvasItemClass : ClassEntry where
  name := "CanvasItem"
  inherits := some "Node"
  isInstantiable := false
  isRefcounted := false
  apiType := "core"
  constants := [⟨"NOTIFICATION_DRAW", 30⟩]
  enums := []
  methods := [action "show" [], action "hide" [], getter "is_visible" "bool" []]

/-! ## The description -/

/-- The description of the reference engine. -/
def Document.bundled : Document where
  header := ⟨4, 2, 0, "Reference Host v4.2.0"⟩
  builtins :=
    [plainType "Nil", plainType "bool", plainType "int", plainType "float", plainType "String",
     vector2Type, vector2iType, vector3Type, vector3iType, colorType]
  classes := [node2DClass, objectClass, refCountedClass, nodeClass, canvasItemClass]
  enums :=
    [⟨"Side", false, [⟨"SIDE_LEFT", 0⟩, ⟨"SIDE_TOP", 1⟩, ⟨"SIDE_RIGHT", 2⟩, ⟨"SIDE_BOTTOM", 3⟩]⟩,
     ⟨"Error", false, [⟨"OK", 0⟩, ⟨"FAILED", 1⟩, ⟨"ERR_UNAVAILABLE", 2⟩,
         ⟨"ERR_INVALID_PARAMETER", 31⟩]⟩,
     ⟨"KeyModifierMask", true, [⟨"KEY_MASK_SHIFT", 33554432⟩, ⟨"KEY_MASK_ALT", 67108864⟩,
         ⟨"KEY_MASK_CTRL", 268435456⟩]⟩]

end ScriptBind.Api
