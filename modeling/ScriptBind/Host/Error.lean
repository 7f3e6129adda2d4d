import ScriptBind.Variant.Tag
import ScriptBind.Number.Integer

/-!
# Engine errors

Why the engine refuses a request.

* `HostError` — the causes. The last two say that a request has no answer at all: fixed-width
  arithmetic overflowed, or the walk up a class hierarchy runs in a circle.
* `HostError.message` — the wording.
-/

namespace ScriptBind

/-- Why the engine refuses a request. -/
inductive HostError where
  | constantNotFound (type : Tag) (name : String)
  | methodNotFound (owner method : String)
  | memberNotFound (type : Tag) (member : String)
  | constructorNotFound (type : Tag) (index : UInt32)
  | classNotFound (name : String)
  | notInstantiable (name : String)
  | invalidObject (number : UInt64)
  | invalidArgument (method : String) (index : Nat) (reason : String)
  | callFailed (method reason : String)
  | overflow (method : String)
  | endlessHierarchy (name : String)
deriving DecidableEq, Inhabited

/-- The wording of an error. -/
def HostError.message : HostError → String
  | constantNotFound type name => "constant '" ++ name ++ "' not found on " ++ type.name
  | methodNotFound owner method => "method '" ++ method ++ "' not found on " ++ owner
  | memberNotFound type member => "member '" ++ member ++ "' not found on " ++ type.name
  | constructorNotFound type index =>
    "constructor " ++ Number.natText index.toNat ++ " not found on " ++ type.name
  | classNotFound name => "class '" ++ name ++ "' not found"
  | notInstantiable name => "class '" ++ name ++ "' is not instantiable"
  | invalidObject number => "invalid object id " ++ Number.natText number.toNat
  | invalidArgument method index reason =>
    "invalid argument " ++ Number.natText index ++ " to '" ++ method ++ "': " ++ reason
  | callFailed method reason => "call to '" ++ method ++ "' failed: " ++ reason
  | overflow method => "integer overflow in '" ++ method ++ "'"
  | endlessHierarchy name => "the ancestors of class '" ++ name ++ "' never end"

end ScriptBind
