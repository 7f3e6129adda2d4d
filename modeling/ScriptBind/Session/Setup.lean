import ScriptBind.Session.Run

/-!
# Setting up a state

A new state with a host, a registry and the libraries of its bindings.

* `Setup` — what to build it from and which libraries to open.
* `SetupError` — why it cannot be built, with its wording.
* `ScriptM.openLibraries` — opens the chosen groups in order.
-/

namespace ScriptBind

/-- What a state is built from. -/
structure Setup where
  api : Option ApiSource
  /-- Whether equal descriptions share one registry. -/
  shared : Bool
  host : Option HostSource
  builtins : Bool
  classes : Bool
  enums : Bool
deriving DecidableEq

/-- Why a state cannot be built. -/
inductive SetupError where
  | missingHost
  | missingApi
  | api (cause : ApiError)
  | script (cause : ScriptError)
deriving DecidableEq

/-- The wording of an error. -/
def SetupError.message : SetupError → String
  | missingHost => "no host engine supplied"
  | missingApi => "no extension API supplied"
  | api cause => "invalid extension API: " ++ cause.message
  | script cause => "failed to open bindings: " ++ cause.message

/-- Opens the chosen groups of libraries. -/
def ScriptM.openLibraries (s : Setup) : ScriptM Unit := do
  if s.builtins then
    discard openBuiltins
  if s.classes then
    discard openClasses
  if s.enums then
    discard openEnums

namespace World

/-- The world with a new empty state as the current one. -/
def withNewState (w : World) : World :=
  { w with
    state := State.new ⟨w.tables.size⟩
    tables := w.tables.push Table.empty }

/-- The world with a new state that works with a host and a registry and has its libraries
open. -/
def withRuntime (w : World) (s : Setup) (host registry : Nat) : Except SetupError World :=
  let fresh := w.withNewState
  let ready := { fresh with state := { fresh.state with context := some ⟨host, registry⟩ } }
  match (ScriptM.openLibraries s).run ready with
  | (.ok (), w) => .ok w
  | (.error e, _) => .error (.script e)

/-- A summary of the current state and its registry. -/
def runtimeReply (w : World) (registry : Nat) : Reply :=
  let r := w.registry registry
  let builtins := r.builtins.length
  let classes := r.classes.length
  .record [
    ("builtins", .count builtins),
    ("classes", .count classes),
    ("registry", .count registry),
    ("debug", .text ("Runtime \x7b state: " ++ w.state.debugText ++ ", builtins: " ++
      Number.natText builtins ++ ", classes: " ++ Number.natText classes ++ ", .. \x7d"))]

end World

end ScriptBind
