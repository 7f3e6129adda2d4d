import ScriptBind.Binding.Request

/-!
# Native values on the stack

Values of native types move on and off the stack. Math values travel as userdata that carry an
engine value and the metatable registered under their type's name; objects travel as userdata that
carry an object id and a metatable marked as an object metatable.

* `World.builtinAt?`, `objectAt?`, `variantAt?`, `nativeAt?` — the value at an index.
* `ScriptM.pushBuiltin`, `pushObject`, `pushVariant`, `pushNative` — push a value.
-/

namespace ScriptBind

/-- The field that marks object metatables. -/
def objectMark : String := "__isobject"

/-! ## Reading -/

namespace World

/-- Whether a metatable is marked as an object metatable. -/
def isObjectMetatable (w : World) (mt : TableId) : Bool := ((w.table mt).field objectMark).isTruthy

/-- The object at an index. -/
def objectAt? (w : World) (index : Int) : Option ObjectId := do
  let u := w.userdatum (← w.state.toUserdata? index)
  let mt ← u.metatable
  match u.payload with
  | .object id => if w.isObjectMetatable mt then some id else none
  | _ => none

/-- The engine value of a builtin type at an index: it must carry the metatable of its type. -/
def builtinAt? (w : World) (index : Int) (type : Tag) : Option Variant := do
  match (w.userdatum (← w.testUserdata? index type.name)).payload with
  | .variant v => if v.tag = type then some v else none
  | _ => none

/-- The engine value of any builtin type at an index. -/
def anyBuiltinAt? (w : World) (index : Int) : Option Variant := do
  match (w.userdatum (← w.state.toUserdata? index)).payload with
  | .variant v => w.builtinAt? index v.tag
  | _ => none

/-- The integer that the value at an index is or spells. -/
def integerAt? (w : World) (index : Int) : Option Int64 := do
  let x ← w.state.toNumber? index
  if (Number.integer64? x).isSome then some (Number.truncate64 x) else none

def booleanAt? (w : World) (index : Int) : Option Bool :=
  match w.state.value? index with
  | some (.boolean b) => some b
  | _ => none

/-- The engine value of the value at an index; numbers become floats. Tables and functions have
none. -/
def variantAt? (w : World) (index : Int) : Option Variant := do
  match ← w.state.value? index with
  | .nil => some .nil
  | .boolean b => some (.bool b)
  | .number x => some (.float x)
  | .string s => some (.string s)
  | .userdata _ =>
    match w.objectAt? index with
    | some id => some (.object id)
    | none => w.anyBuiltinAt? index
  | .table _ => none
  | .function _ => none

/-- The value at an index as a value of a native type. -/
def nativeAt? (w : World) (index : Int) : NativeType → Option NativeValue
  | .boolean => (w.booleanAt? index).map .boolean
  | .int64 => (w.integerAt? index).map .int64
  | .int32 => ((w.integerAt? index).bind narrow?).map .int32
  | .float64 => (w.state.toNumber? index).map .float64
  | .float32 => (w.state.toNumber? index).map fun x => .float32 x.toFloat32
  | .string => (w.state.toText? index).map .string
  | .math t => (w.builtinAt? index t.tag).map .math
  | .object => (w.objectAt? index).map .object
  | .variant => (w.variantAt? index).map .variant

end World

/-! ## Pushing -/

namespace ScriptM

/-- The metatable registered under a name, which is made when there is none. -/
def instanceMetatable (name : String) : ScriptM TableId := do
  match (← get).metatableNamed name with
  | some mt => return mt
  | none =>
    discard (newMetatable name)
    let mt ← check fun s => s.checkTable (-1)
    pop 1
    return mt

/-- Pushes a new userdata with a metatable. -/
def pushTagged (p : Payload) (mt : TableId) : ScriptM Unit := do
  let u ← pushUserdata p
  attach (.userdata u) (some mt)

/-- Pushes an engine value with the metatable of its type. -/
def pushBuiltin (v : Variant) : ScriptM Unit := do
  pushTagged (.variant v) (← instanceMetatable v.tag.name)

/-- The metatable that objects of unregistered classes share, marked unless it is read-only. -/
def plainObjectMetatable : ScriptM TableId := do
  let mt ← instanceMetatable Tag.object.name
  if !((← get).table mt).readonly then
    setText mt objectMark (.boolean true)
  return mt

/-- Pushes an object with the metatable of its class, or of the nearest ancestor that has one. -/
def pushObject (id : ObjectId) : ScriptM Unit := do
  let c ← context
  let cls ← granted (← askClassName c.host id)
  let chain := (← registry c).ancestors cls
  let w ← get
  match chain.findSome? fun k => w.metatableNamed k.name with
  | some mt => pushTagged (.object id) mt
  | none => pushTagged (.object id) (← plainObjectMetatable)

/-- Pushes an engine value in its script representation. -/
def pushVariant : Variant → ScriptM Unit
  | .nil => push .nil
  | .bool b => push (.boolean b)
  | .int n => push (.number (Number.ofInt64 n))
  | .float x => push (.number x)
  | .string s => push (.string s)
  | .stringName s => push (.string s)
  | .object id => pushObject id
  | v => pushBuiltin v

/-- Pushes a value of a native type. -/
def pushNative : NativeValue → ScriptM Unit
  | .boolean b => push (.boolean b)
  | .int64 n => push (.number (Number.ofInt64 n))
  | .int32 n => push (.number (.ofInt n.toInt))
  | .float64 x => push (.number x)
  | .float32 x => push (.number x.toFloat)
  | .string s => push (.string s)
  | .math v => pushBuiltin v
  | .object id => pushObject id
  | .variant v => pushVariant v

/-- The value at an index, which must be of a native type. -/
def checkNative (type : NativeType) (index : Int) : ScriptM NativeValue := do
  let w ← get
  match w.nativeAt? index type with
  | some v => return v
  | none => throw (w.state.argError index type.name)

end ScriptM

end ScriptBind
