import ScriptBind.Script.Meta

/-!
# Requests

How the binding layer asks the engine. Every request is recorded with the host that receives it
before it is answered; object requests may change the host's classes, the others never do.

* `ScriptM.context` — the host and registry of the current state.
* `ScriptM.askConstant`, `askCall`, … — one request each; the answer may be a refusal.
* `ScriptM.granted` — an answer, or the script error of a refusal.
-/

namespace ScriptBind

namespace World

/-- The host of a number. -/
def host (w : World) (i : Nat) : Host := w.hosts.getD i Host.reference

/-- The world with other classes and objects in a host. -/
def setClasses (w : World) (host : Nat) (db : ClassDb) : World :=
  { w with hosts := w.hosts.modify host fun h => { h with classes := db } }

/-- The registry of a number. -/
def registry (w : World) (i : Nat) : Registry := w.registries.getD i default

end World

namespace ScriptM

/-- The host and registry that the current state works with. -/
def context : ScriptM Context := do
  match (← state).context with
  | some c => return c
  | none => throw (.runtime "no binding context installed on this state")

/-- The registry of a context. -/
def registry (c : Context) : ScriptM Registry := do return (← get).registry c.registry

/-- An answer, or the error of a refusal. -/
def granted {α : Type} : Except HostError α → ScriptM α
  | .ok a => return a
  | .error e => throw (.host e)

/-! ## Asking -/

/-- Records a request. -/
def record (host : Nat) (r : Request) : ScriptM Unit :=
  modify fun w => { w with requests := w.requests.push (host, r) }

/-- A request that changes nothing. -/
def ask {α : Type} (host : Nat) (r : Request) (answer : Host → α) : ScriptM α := do
  record host r
  return answer ((← get).host host)

/-- A request that may change the host's classes. -/
def askClasses {α : Type} (host : Nat) (r : Request) (answer : ClassDb → α × ClassDb) :
    ScriptM α := do
  record host r
  let (a, db) := answer ((← get).host host).classes
  modify fun w => w.setClasses host db
  return a

/-! ## The requests -/

def askConstant (host : Nat) (type : Tag) (name : String) : ScriptM (Except HostError Variant) :=
  ask host (.constant type name) fun h => h.engine.constant type name

def askConstruct (host : Nat) (type : Tag) (index : UInt32) (args : List Variant) :
    ScriptM (Except HostError Variant) :=
  ask host (.construct type index args) fun h => h.engine.construct type index args

/-- Calls a method; the answer comes with the receiver that the engine leaves. -/
def askCall (host : Nat) (receiver : Variant) (method : String) (args : List Variant) :
    ScriptM (Except HostError Variant × Variant) :=
  ask host (.call receiver method args) fun h => h.engine.call receiver method args

def askCallStatic (host : Nat) (type : Tag) (method : String) (args : List Variant) :
    ScriptM (Except HostError Variant) :=
  ask host (.callStatic type method args) fun h => h.engine.callStatic type method args

def askMember (host : Nat) (target : Variant) (name : String) :
    ScriptM (Except HostError Variant) :=
  ask host (.member target name) fun h => h.engine.member target name

/-- The engine's text of a value. -/
def askText (host : Nat) (value : Variant) : ScriptM String :=
  ask host (.stringify value) fun h => h.engine.stringify h.classes value

/-- The class of an object. -/
def askClassName (host : Nat) (id : ObjectId) : ScriptM (Except HostError String) :=
  ask host (.className id) fun h => h.classes.classOf id

/-- Creates an object. -/
def askInstantiate (host : Nat) (cls : String) : ScriptM (Except HostError ObjectId) :=
  askClasses host (.instantiate cls) fun db => db.instantiate cls

/-- Calls a method of an object as seen from the class `cls`. -/
def askCallObject (host : Nat) (id : ObjectId) (cls method : String) (args : List Variant) :
    ScriptM (Except HostError Variant) :=
  askClasses host (.callObject id cls method args) fun db => db.call id cls method args

end ScriptM

end ScriptBind
