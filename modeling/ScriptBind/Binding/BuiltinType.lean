import ScriptBind.Binding.Constant
import ScriptBind.Binding.Library

/-!
# Builtin types

The libraries of builtin types and the handlers behind them and their values.

* `ScriptM.openBuiltins` — opens a library for every builtin type that is not a plain value.
* `ScriptM.builtinGlobalIndex` — a name of a library: constant, enum value or static method.
* `ScriptM.callBuiltinMethod` — a method of a value, under its name in a method call or as a
  fetched function.
* `ScriptM.builtinConstructor` — `new`: the first declared constructor that fits the arguments.
-/

namespace ScriptBind.ScriptM

open Registry (Builtin Constructor Method)

/-! ## Names -/

def invalidMember (key type : String) : ScriptError :=
  .runtime ("'" ++ key ++ "' is not a valid member of " ++ type)

def invalidMethod (method type : String) : ScriptError :=
  .runtime ("'" ++ method ++ "' is not a valid method of " ++ type)

/-- The binding of a builtin type. -/
def builtinBinding (c : Context) (type : String) : ScriptM Builtin := do
  match (← registry c).builtin? type with
  | some b => return b
  | none => throw (.runtime ("unknown builtin type " ++ type))

/-- The upvalue of a number, when it is a string. -/
def textUpvalue (n : Nat) : ScriptM (Option String) := do
  match (← state).upvalue? n with
  | some (.string s) => return some s
  | _ => return none

/-- The builtin value that is the first argument. -/
def receiver : ScriptM Variant := do demand 1 "builtin" ((← get).anyBuiltinAt? 1)

/-- The method name of the method call in progress. -/
def calledMethod : ScriptM String := do
  match (← state).namecall with
  | some method => return method
  | none => throw (.runtime "no method name for namecall")

/-! ## Libraries -/

/-- A static method of a builtin type. -/
def staticMethod? (b : Builtin) (name : String) : Option Method :=
  (b.method? name).filter fun m => m.flags.isStatic

/-- A method that a value of a builtin type has. -/
def instanceMethod? (b : Builtin) (name : String) : Option Method :=
  (b.method? name).filter fun m => !m.flags.isStatic

/-- Pushes what a library of a builtin type holds under a key. -/
def pushLibraryEntry (c : Context) (b : Builtin) (type key : String) : ScriptM Nat := do
  match Constant.declared? c.registry b key with
  | some constant => pushConstant constant
  | none =>
    match b.enumValue? key with
    | some n =>
      push (.number (Number.ofInt64 n))
      return 1
    | none =>
      match staticMethod? b key with
      | some m =>
        pushHandler m.name .builtinStaticCall [.string b.name, .string m.name]
        return 1
      | none => throw (invalidMember key type)

/-- Looks up a name in a library: the library and the key are the arguments. -/
def builtinGlobalIndex : ScriptM Nat := do
  let key ← check fun s => s.checkText 2
  let type ← demand 1 "library" ((← get).libraryType 1)
  let c ← context
  match (← registry c).builtin? type with
  | some b => pushLibraryEntry c b type key
  | none => throw (invalidMember key type)

/-- Calls a static method; upvalues: type name, method name. -/
def builtinStaticCall : ScriptM Nat := do
  match ← textUpvalue 1, ← textUpvalue 2 with
  | some type, some method =>
    let c ← context
    let b ← builtinBinding c type
    match b.method? method with
    | none => throw (invalidMethod method type)
    | some m =>
      let args ← collectArgs c 1 m
      pushResult m (← granted (← askCallStatic c.host b.tag m.name args))
  | _, _ => throw (.runtime "static method is missing its binding")

/-! ## Values -/

/-- Gives the first argument a new engine value. -/
def writeReceiver (v : Variant) : ScriptM Unit := do
  match (← state).toUserdata? 1 with
  | some u => modifyUserdata u fun old => { old with payload := .variant v }
  | none => pure ()

/-- Calls a method of the builtin value that is the first argument. A method that is not constant
leaves its receiver changed. -/
def callBuiltinMethod (method : String) : ScriptM Nat := do
  let target ← receiver
  let c ← context
  let type := target.tag.name
  let b ← builtinBinding c type
  match instanceMethod? b method with
  | none => throw (invalidMethod method type)
  | some m =>
    let args ← collectArgs c 2 m
    let (answer, changed) ← askCall c.host target m.name args
    let result ← granted answer
    if !m.flags.isConst then
      writeReceiver changed
    pushResult m result

/-- Calls a method by the name of the method call in progress. -/
def builtinNamecall : ScriptM Nat := do callBuiltinMethod (← calledMethod)

/-- Calls a fetched method; upvalue: method name. -/
def builtinMethod : ScriptM Nat := do
  match ← textUpvalue 1 with
  | some method => callBuiltinMethod method
  | none => throw (.runtime "method is missing its binding")

/-- Reads a member of a value, or fetches a method of it. -/
def builtinMemberIndex : ScriptM Nat := do
  let target ← receiver
  let key ← check fun s => s.checkText 2
  let c ← context
  let type := target.tag.name
  let b ← builtinBinding c type
  if (b.member? key).isSome then
    pushVariant (← granted (← askMember c.host target key))
    return 1
  else if (instanceMethod? b key).isSome then
    pushHandler key .builtinMethod [.string key]
    return 1
  else throw (invalidMember key type)

/-- Pushes the engine's text of a value. -/
def builtinText : ScriptM Nat := do
  let target ← receiver
  let c ← context
  push (.string (← askText c.host target))
  return 1

/-- Pushes whether the two arguments are equal builtin values. -/
def builtinEqual : ScriptM Nat := do
  let w ← get
  match w.anyBuiltinAt? 1, w.anyBuiltinAt? 2 with
  | some a, some b => push (.boolean (a.same b))
  | _, _ => push (.boolean false)
  return 1

/-! ## Construction -/

/-- The first constructor that takes the arguments of the running frame. -/
def fittingConstructor (c : Context) (count : Nat) : List Constructor → ScriptM (Option Constructor)
  | [] => return none
  | k :: rest => do
    if k.arguments.length = count then
      if ← matchArgs c 1 k.arguments then
        return some k
    fittingConstructor c count rest

/-- Constructs a value; upvalue: type name. -/
def builtinConstructor : ScriptM Nat := do
  match ← textUpvalue 1 with
  | none => throw (.runtime "constructor is missing its type")
  | some type =>
    let c ← context
    let b ← builtinBinding c type
    match ← fittingConstructor c (← state).top b.constructors with
    | none => throw (.runtime ("no constructor of " ++ type ++ " matches the given arguments"))
    | some k =>
      let args ← checkArgs c 1 k.arguments
      pushVariant (← granted (← askConstruct c.host b.tag k.index args))
      return 1

/-! ## Opening -/

/-- Opens the library of a builtin type. -/
def openBuiltin (b : Builtin) : ScriptM Unit := do
  newLibrary b.name b.name
  installHandler (-3) "__namecall" "builtin_namecall" .builtinNamecall []
  installHandler (-3) "__index" "builtin_member_index" .builtinMemberIndex []
  installHandler (-3) "__tostring" "builtin_tostring" .builtinText []
  installHandler (-3) "__eq" "builtin_eq" .builtinEqual []
  installHandler (-2) "new" "builtin_ctor" .builtinCtor [.string b.name]
  finishLibrary false

/-- Opens the libraries of all builtin types that are not plain values; the answer is their
number. -/
def openBuiltins : ScriptM Nat := do
  let c ← context
  let opened := (← registry c).builtins.filter fun b => !b.tag.isScriptNative
  opened.forM openBuiltin
  return opened.length

end ScriptBind.ScriptM
