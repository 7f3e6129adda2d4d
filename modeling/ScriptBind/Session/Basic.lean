import ScriptBind.Session.Setup

/-!
# Sessions

A session runs commands on script states that share hosts and registries, and logs what it did.

* `Command` — makes a state, goes to another one, or runs an instruction in the current one.
* `Session` — the world and the states beside the current one.
* `Session.step` — runs a command; a failed command is logged and the session goes on.
* `Session.run` — runs commands in order, from `Session.start`.
* `Session.answer?` — the log of a run, unless an overflow ends the program.
-/

namespace ScriptBind

/-- A command of a session. -/
inductive Command where
  /-- Makes a plain state and goes to it. -/
  | newState
  /-- Goes to the state of a number. -/
  | use (state : Nat)
  /-- Makes a state with bindings and goes to it. -/
  | newRuntime (setup : Setup)
  | run (instr : Instr)

/-- Why a command failed. -/
inductive Fault where
  | script (cause : ScriptError)
  | api (cause : ApiError)
  | setup (cause : SetupError)
deriving DecidableEq

/-- One line of the log. -/
structure Line where
  command : Command
  outcome : Except Fault Reply
  stack : List Shown
  depth : Nat
  requests : List (Nat × Request)

/-- A running session. -/
structure Session where
  world : World
  /-- The states in the order they were made; that of the current one may be out of date. -/
  states : Array State
  current : Nat
  /-- The registries of shared descriptions by fingerprint. -/
  shared : List (UInt64 × Nat)

namespace Session

/-- A world with nothing but an empty state. -/
def emptyWorld : World :=
  { state := State.new ⟨0⟩
    tables := #[Table.empty]
    functions := #[]
    userdata := #[]
    hosts := #[]
    registries := #[]
    constants := #[]
    fetched := []
    requests := #[]
    reported := 0
    muted := false
    trace := #[] }

/-- A session with one plain state. -/
def start : Session := ⟨emptyWorld, #[State.new ⟨0⟩], 0, []⟩

/-! ## States -/

/-- Goes to the state of a number, if there is one. -/
def goTo (s : Session) (i : Nat) : Session :=
  let states := s.states.setIfInBounds s.current s.world.state
  match states[i]? with
  | some state => { s with world := { s.world with state }, states, current := i }
  | none => s

/-- Adds the current state of a world as a new state. -/
def enter (s : Session) (w : World) : Session :=
  { s with
    world := w
    states := (s.states.setIfInBounds s.current s.world.state).push w.state
    current := s.states.size }

/-! ## Setting up -/

/-- Where the registry of a setup comes from: a known or new one, or a description that is
shared. -/
inductive RegistryPlan where
  | own (api : Nat ⊕ Registry)
  | shared (d : Api.Document)

/-- Reads the description of a setup. -/
def registryPlan (setup : Setup) : Except ApiError (Option RegistryPlan) := do
  match setup.api with
  | none => return none
  | some (.existing i) => return some (.own (.inl i))
  | some source =>
    if setup.shared then
      match source with
      | .document text => return some (.shared (← Api.Document.parse text))
      | _ => return some (.shared Api.Document.bundled)
    else return some (.own (← source.load))

/-- The registry of a shared description, which is built when it is not known. -/
def sharedRegistry (s : Session) (w : World) (d : Api.Document) :
    Except SetupError (Nat × World × List (UInt64 × Nat)) :=
  match Keyed.get? d.fingerprint s.shared with
  | some i => .ok (i, w, s.shared)
  | none =>
    match Registry.ofApi d with
    | .error e => .error (.api e)
    | .ok r =>
      let (i, w) := w.adoptRegistry (.inr r)
      .ok (i, w, Keyed.put d.fingerprint i s.shared)

/-- The registry of a plan. -/
def planned (s : Session) (w : World) :
    Option RegistryPlan → Except SetupError (Nat × World × List (UInt64 × Nat))
  | none => .error .missingApi
  | some (.own api) =>
    let (i, w) := w.adoptRegistry api
    .ok (i, w, s.shared)
  | some (.shared d) => s.sharedRegistry w d

/-- Builds a state with bindings in a world that knows the host of a number. -/
def build (s : Session) (w : World) (setup : Setup) (host : Option Nat)
    (plan : Option RegistryPlan) : Except SetupError (Reply × Session) := do
  match host with
  | none => throw .missingHost
  | some host =>
    let (registry, w, shared) ← s.planned w plan
    let w ← w.withRuntime setup host registry
    return (w.runtimeReply registry, { s.enter w with shared })

/-- Makes a state with bindings. A description that cannot be read leaves no trace; a setup that
fails later leaves its host. -/
def setUp (s : Session) (setup : Setup) : Except Fault Reply × Session :=
  match registryPlan setup with
  | .error e => (.error (.api e), s)
  | .ok plan =>
    let (host, w) :=
      match setup.host with
      | none => (none, s.world)
      | some source =>
        let (i, w) := s.world.adoptHost source
        (some i, w)
    match s.build w setup host plan with
    | .ok (reply, s) => (.ok reply, s)
    | .error e => (.error (.setup e), { s with world := w })

/-! ## Commands -/

/-- Runs an operation in the current state. -/
def ran (s : Session) (act : ScriptM Reply) : Except Fault Reply × Session :=
  match act.run s.world with
  | (.ok reply, w) => (.ok reply, { s with world := w })
  | (.error e, w) => (.error (.script e), { s with world := w })

/-- Gives the current state a registry and a host, unless the description is refused. -/
def install (s : Session) (api : ApiSource) (host : HostSource) : Except Fault Reply × Session :=
  match api.load with
  | .error e => (.error (.api e), s)
  | .ok api => s.ran do return .count (← ScriptM.install api host)

/-- Runs a command. -/
def perform (s : Session) : Command → Except Fault Reply × Session
  | .newState => (.ok .nothing, s.enter s.world.withNewState)
  | .use i => (.ok .nothing, s.goTo i)
  | .newRuntime setup => s.setUp setup
  | .run (.install api host) => s.install api host
  | .run i => s.ran (ScriptM.exec runFunction i)

/-- A logged instruction as a line of the log. -/
def ofEntry (e : Entry) : Line :=
  { command := .run e.instr
    outcome := e.outcome.mapError .script
    stack := e.stack
    depth := e.depth
    requests := e.requests }

/-- Runs a command. The lines are those of the functions that it ran, then its own. -/
def step (s : Session) (c : Command) : List Line × Session :=
  let (outcome, s) := s.perform c
  let w := s.world
  let own : Line :=
    { command := c
      outcome
      stack := w.frameValues
      depth := w.state.frames.length
      requests := w.unreported }
  (w.trace.toList.map ofEntry ++ [own],
    { s with world := { w with trace := #[] }.reportAll })

/-- Runs commands in order. -/
def runFrom (s : Session) : List Command → List Line
  | [] => []
  | c :: rest =>
    let (lines, s) := s.step c
    lines ++ s.runFrom rest

/-- The log of a new session. -/
def run (commands : List Command) : List Line := start.runFrom commands

/-! ## Overflows -/

/-- Whether the program ends in an overflow at a line. -/
def stopsAt (l : Line) : Bool :=
  match l.command, l.outcome with
  | .run i, .ok reply => i.plain.overflows l.stack.length (.ok reply)
  | .run i, .error (.script e) => i.plain.overflows l.stack.length (.error e)
  | _, _ => false

/-- The log of a new session, which there is unless an overflow ends the program. -/
def answer? (commands : List Command) : Option (List Line) :=
  let lines := run commands
  if lines.any stopsAt then none else some lines

end Session

end ScriptBind
