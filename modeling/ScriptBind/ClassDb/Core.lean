import ScriptBind.ClassDb.Basic

/-!
# The core classes

The class hierarchy that the reference engine starts with: `Object`, `RefCounted`, `Node`,
`CanvasItem` (abstract) and `Node2D`.

Every core method checks its arguments before it changes the object, so a failing call leaves the
object as it was. Meta values live under names of their own, `meta/` and the name given.

* `ClassDb.core` — the database with the core classes.
-/

namespace ScriptBind.CoreClasses

/-! ## Method shapes -/

/-- A method that only reads the object. -/
def reading (f : EngineObject → Variant) : ObjectMethod := fun _ o _ => (.ok (f o), o)

/-- A method that reports a property. -/
def getting (property : String) : ObjectMethod := reading fun o => o.get property

/-- A method that either fails or sets a property. -/
def setting (property : String)
    (value : EngineObject → List Variant → Except HostError Variant) : ObjectMethod :=
  fun _ o args =>
    match value o args with
    | .ok v => (.ok .nil, o.set property v)
    | .error e => (.error e, o)

/-! ## Arguments -/

def invalid (method : String) (index : Nat) (reason : String) : HostError :=
  .invalidArgument method index reason

/-- The text of an argument. -/
def textArg (method : String) (args : List Variant) (index : Nat) : Except HostError String :=
  match args[index]?.bind Variant.asText with
  | some s => .ok s
  | none => .error (invalid method index "expected a string")

/-- The integer of an argument. -/
def intArg (method : String) (args : List Variant) (index : Nat) : Except HostError Int64 :=
  match args[index]?.bind Variant.asInt with
  | some n => .ok n
  | none => .error (invalid method index "expected an int")

/-! ## Object -/

/-- The property that holds a meta value. -/
def metaProperty (name : String) : String := "meta/" ++ name

def isClass : ObjectMethod := fun lineage o args =>
  match textArg "is_class" args 0 with
  | .error e => (.error e, o)
  | .ok name =>
    match lineage.isA? o.cls name with
    | some answer => (.ok (.bool answer), o)
    | none => (.error (.endlessHierarchy o.cls), o)

def setMeta : ObjectMethod := fun _ o args =>
  match textArg "set_meta" args 0 with
  | .error e => (.error e, o)
  | .ok name => (.ok .nil, o.set (metaProperty name) (args.getD 1 .nil))

def getMeta : ObjectMethod := fun _ o args =>
  match textArg "get_meta" args 0 with
  | .error e => (.error e, o)
  | .ok name => (.ok ((Keyed.get? (metaProperty name) o.properties).getD (args.getD 1 .nil)), o)

/-- Remembers the notification and answers how many further arguments there were. -/
def notify : ObjectMethod := fun _ o args =>
  match intArg "notify" args 0 with
  | .error e => (.error e, o)
  | .ok what => (.ok (.int (.ofInt (args.length - 1))), o.set "last_notification" (.int what))

def objectClass : ClassDef :=
  ClassDef.new "Object"
    |>.method "get_class" (reading fun o => .string o.cls)
    |>.method "is_class" isClass
    |>.method "get_instance_id" (reading fun o => .int o.id.number.toInt64)
    |>.method "set_meta" setMeta
    |>.method "get_meta" getMeta
    |>.method "notify" notify

def refCountedClass : ClassDef :=
  ClassDef.new "RefCounted"
    |>.inherits "Object"
    |>.method "get_reference_count" (reading fun _ => .int 1)

/-! ## Node -/

/-- The number of children after one more. A node is not its own child. -/
def addChild (o : EngineObject) (args : List Variant) : Except HostError Variant :=
  match args.head? with
  | some (.object child) =>
    if child = o.id then
      .error (invalid "add_child" 0 "can't add a node as its own child")
    else
      let count := (o.get "child_count").asInt.getD 0
      if count = Int64.maxValue then .error (.overflow "add_child") else .ok (.int (count + 1))
  | _ => .error (invalid "add_child" 0 "expected a Node")

def processMode (_ : EngineObject) (args : List Variant) : Except HostError Variant := do
  let mode ← intArg "set_process_mode" args 0
  if 0 ≤ mode.toInt ∧ mode.toInt ≤ 4 then
    return .int mode
  throw (invalid "set_process_mode" 0 "unknown process mode")

def nodeClass : ClassDef :=
  ClassDef.new "Node"
    |>.inherits "Object"
    |>.property "name" (.stringName "")
    |>.property "child_count" (.int 0)
    |>.property "process_mode" (.int 0)
    |>.method "set_name" (setting "name" fun _ args => .stringName <$> textArg "set_name" args 0)
    |>.method "get_name" (getting "name")
    |>.method "add_child" (setting "child_count" addChild)
    |>.method "get_child_count" (getting "child_count")
    |>.method "set_process_mode" (setting "process_mode" processMode)
    |>.method "get_process_mode" (getting "process_mode")

/-! ## CanvasItem and Node2D -/

def canvasItemClass : ClassDef :=
  ClassDef.new "CanvasItem"
    |>.inherits "Node"
    |>.notInstantiable
    |>.property "visible" (.bool true)
    |>.method "show" (setting "visible" fun _ _ => .ok (.bool true))
    |>.method "hide" (setting "visible" fun _ _ => .ok (.bool false))
    |>.method "is_visible" (getting "visible")

def position (_ : EngineObject) (args : List Variant) : Except HostError Variant :=
  match args.head? with
  | some (.vector2 v) => .ok (.vector2 v)
  | _ => .error (invalid "set_position" 0 "expected a Vector2")

/-- The rotation after turning further. -/
def rotate (o : EngineObject) (args : List Variant) : Except HostError Variant :=
  match args.head?.bind Variant.asFloat with
  | some radians => .ok (.float ((o.get "rotation").asFloat.getD 0 + radians))
  | none => .error (invalid "rotate" 0 "expected a float")

def node2DClass : ClassDef :=
  ClassDef.new "Node2D"
    |>.inherits "CanvasItem"
    |>.property "position" (.vector2 Vector2.zero)
    |>.property "rotation" (.float 0)
    |>.method "set_position" (setting "position" position)
    |>.method "get_position" (getting "position")
    |>.method "rotate" (setting "rotation" rotate)
    |>.method "get_rotation" (getting "rotation")

end ScriptBind.CoreClasses

namespace ScriptBind

/-- The database with the core classes and no objects. -/
def ClassDb.core : ClassDb :=
  [CoreClasses.objectClass, CoreClasses.refCountedClass, CoreClasses.nodeClass,
    CoreClasses.canvasItemClass, CoreClasses.node2DClass].foldl register empty

end ScriptBind
