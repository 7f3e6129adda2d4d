import ScriptBind.Script.Value
import ScriptBind.Variant.Native
import ScriptBind.Host.StandIn

/-!
# Code

What functions do. A function runs a list of instructions, fetches a lazy constant, or is one of
the binding layer's handlers. The instructions are the operations that a script state and its
bindings offer, so a list of them is an arbitrary program over the same stack.

* `Operand` — a value given to an instruction.
* `Instr` — the instructions.
* `Handler` — the functions of the binding layer.
* `Code` — what a function runs.
-/

namespace ScriptBind

/-- What a userdata carries. -/
inductive Payload where
  | variant (value : Variant)
  | object (id : ObjectId)
  | raw (value : Int)
deriving DecidableEq, Inhabited

/-- A value given to an instruction. -/
inductive Operand where
  | nil
  | boolean (value : Bool)
  | number (value : Float)
  | string (value : String)
  /-- The value at a stack index, nil outside the frame. -/
  | at (index : Int)
  /-- The metatable registered under a name, nil when there is none. -/
  | metatable (name : String)
deriving DecidableEq

/-- The functions of the binding layer. -/
inductive Handler where
  /-- Constructs a builtin value; upvalue: type name. -/
  | builtinCtor
  /-- Looks a name up in a library table. -/
  | builtinGlobalIndex
  /-- Reads a member or method of a builtin value. -/
  | builtinMemberIndex
  /-- Calls a method of a builtin value by the name of the call in progress. -/
  | builtinNamecall
  /-- Calls a method of a builtin value; upvalue: method name. -/
  | builtinMethod
  /-- Calls a static method; upvalues: type name, method name. -/
  | builtinStaticCall
  | builtinText
  | builtinEqual
  /-- Constructs an object; upvalue: class name. -/
  | classCtor
  /-- Refuses to construct an object of an abstract class; upvalue: class name. -/
  | classNoCtor
  /-- Calls a method of an object by the name of the call in progress. -/
  | classNamecall
  | objectText
  | objectEqual
deriving DecidableEq, Inhabited

/-- Where a registry comes from. -/
inductive ApiSource where
  /-- The registry of a number. -/
  | existing (registry : Nat)
  | bundled
  | document (text : String)
deriving DecidableEq

/-- Where a host comes from. -/
inductive HostSource where
  /-- The host of a number. -/
  | existing (host : Nat)
  | fresh (plan : StandIn)
deriving DecidableEq

/-- The type or class whose method is meant. -/
inductive MethodOwner where
  | builtin (type : String)
  /-- The class or the nearest of its ancestors that declares the method. -/
  | object (cls : String)
deriving DecidableEq

/-- An operation on a script state and its bindings. -/
inductive Instr where
  -- the stack
  | push (value : Operand)
  | pushValue (index : Int)
  | pop (count : Nat)
  | popValue
  | remove (index : Int)
  | insert (index : Int)
  | setTop (index : Int)
  | getTop
  | absolute (index : Int)
  | value (index : Int)
  | kind (index : Int)
  -- reading values
  | toBoolean (index : Int)
  | toNumber (index : Int)
  | toText (index : Int)
  | toTable (index : Int)
  | toUserdata (index : Int)
  | checkNumber (index : Int)
  | checkInteger (index : Int)
  | checkText (index : Int)
  | checkTable (index : Int)
  -- tables
  | newTable
  | getField (index : Int) (key : String)
  | setField (index : Int) (key : String)
  | getGlobal (name : String)
  | setGlobal (name : String)
  | pushGlobals
  | setMetatable (index : Int)
  | pushMetatable (index : Int)
  | newMetatable (name : String)
  | getMetatable (name : String)
  | metatableNamed (name : String)
  | metafield (index : Int) (event : String)
  | setReadonly (index : Int) (readonly : Bool)
  | index (target : Int) (key : Operand)
  | tableGet (index : Int) (key : Operand)
  | tableSet (index : Int) (key value : Operand)
  | tableSetMetatable (index : Int) (metatable : Operand)
  | tableInfo (index : Int)
  -- userdata
  | newUserdata (payload : Payload)
  | testUserdata (index : Int) (name : String)
  | checkUserdata (index : Int) (name : String)
  | bumpRaw (index : Int)
  -- functions and calls
  | pushFunction (name : String) (body : List Instr) (results : Nat) (quiet : Bool)
      (upvalues : List Operand)
  | pushConstantFunction (name : String) (constant : Nat) (upvalues : List Operand)
  | pushHandler (name : String) (handler : Handler) (upvalues : List Operand)
  | functionDebug (index : Int)
  | call (args : Nat) (results : Option Nat)
  | callMethod (method : String) (args : Nat) (results : Option Nat)
  | namecallName
  | upvalue (n : Nat)
  | pushUpvalue (n : Nat)
  | raise (message : String)
  | argError (index : Int) (expected : String)
  | display (index : Int)
  | equal (index other : Int)
  | rawEqual (index other : Int)
  | stateDebug
  /-- Runs a body a number of times without logging. -/
  | repeated (count : Nat) (body : List Instr)
  /-- Within a function body: an error of this instruction does not end the body. -/
  | attempt (instr : Instr)
  -- application data
  | setNumberData (value : Int64)
  | setTextData (value : String)
  | getData
  | removeNumberData
  | removeTextData
  | removeContext
  -- bindings
  | install (api : ApiSource) (host : HostSource)
  | openBuiltins
  | openClasses
  | openEnums
  | newLibrary (name metatable : String)
  | finishLibrary (isObject : Bool)
  | libraryType (index : Int)
  | pushBuiltin (value : Variant)
  | pushObject (id : ObjectId)
  | getBuiltin (index : Int) (type : Tag)
  | getAnyBuiltin (index : Int)
  | checkArg (index : Int) (spelling : String)
  | matchesArg (index : Int) (spelling : String)
  | collectArgs (first : Int) (owner : MethodOwner) (method : String)
  | pushResult (owner : MethodOwner) (method : String) (value : Variant)
  -- native types
  | pushNative (value : NativeValue)
  | getNative (type : NativeType) (index : Int)
  | checkNative (type : NativeType) (index : Int)
  | isNative (type : NativeType) (index : Int)
  | nativeOfVariant (type : NativeType) (value : Variant)
  | pushConstantAs (type : NativeType) (constant : Nat)
  -- lazy constants
  | newConstant (type : Tag) (name : String)
  | constantValue (constant host : Nat)
  | pushConstant (constant : Nat)
  | constantInfo (constant : Nat)
  -- hosts
  | hostNew (host : Nat) (cls : String)
  | hostFree (host : Nat) (id : ObjectId)
  | hostObject (host : Nat) (id : ObjectId) (properties : List String)
  | hostCount (host : Nat)

/-- What a function runs. -/
inductive Code where
  /-- A body of instructions, and how many results it claims to have pushed. What a quiet body does
  is not logged. -/
  | body (steps : List Instr) (results : Nat) (quiet : Bool)
  /-- The lazy constant of a number. -/
  | constant (index : Nat)
  | handler (h : Handler)

end ScriptBind
