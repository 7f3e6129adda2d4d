import ScriptBind.Host.Error

/-!
# Script errors

Why an operation on a script state fails.

* `ScriptError` — the causes.
* `ScriptError.message` — the wording.
-/

namespace ScriptBind

/-- Why an operation on a script state fails. Kinds are the names of value types. -/
inductive ScriptError where
  /-- An error with a message of its own. -/
  | runtime (message : String)
  /-- An argument has the wrong type or is missing. -/
  | argumentType (index : Int) (expected actual : String)
  /-- A call has the wrong number of arguments. -/
  | argumentCount (expected actual : Nat)
  | notCallable (kind : String)
  | notIndexable (kind : String)
  | invalidIndex (index : Int)
  | readOnly
  | invalidKey (kind : String)
  | stackOverflow (limit : Nat)
  /-- The engine refuses a request. -/
  | host (cause : HostError)
deriving DecidableEq, Inhabited

/-- The wording of an error. -/
def ScriptError.message : ScriptError → String
  | runtime message => message
  | argumentType index expected actual =>
    "invalid argument #" ++ Number.intText index ++ " (" ++ expected ++ " expected, got " ++
      actual ++ ")"
  | argumentCount expected actual =>
    "wrong number of arguments: expected " ++ Number.natText expected ++ ", got " ++
      Number.natText actual
  | notCallable kind => "attempt to call a " ++ kind ++ " value"
  | notIndexable kind => "attempt to index a " ++ kind ++ " value"
  | invalidIndex index => "invalid stack index " ++ Number.intText index
  | readOnly => "attempt to modify a readonly table"
  | invalidKey kind => "invalid table key (" ++ kind ++ ")"
  | stackOverflow limit =>
    "stack overflow (call depth exceeded " ++ Number.natText limit ++ ")"
  | host cause => cause.message

end ScriptBind
