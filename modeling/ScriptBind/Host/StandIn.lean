import ScriptBind.Host.Basic

/-!
# Stand-in hosts

A host for trying out bindings: the reference engine with a few methods that every type knows,
constants and classes of one's own.

* `MethodPlan`, `ClassPlan` — classes described by data: methods that return a value, read or set a
  property, echo or count their arguments, ask for an ancestor, or fail.
* `StandIn` — what a stand-in host adds to the reference engine.
* `StandIn.host` — the host.

Every builtin type knows `become` (the receiver turns into the first argument), `echo`, `count`
and `fail`, and the static methods `s_echo` and `s_count`.
-/

namespace ScriptBind

/-! ## Planned classes -/

/-- A method of a planned class. -/
inductive MethodPlan where
  /-- Answers a fixed value. -/
  | fixed (value : Variant)
  /-- Answers a property. -/
  | read (property : String)
  /-- Sets a property to the first argument. -/
  | write (property : String)
  /-- Answers the first argument. -/
  | echo
  /-- Answers the number of arguments. -/
  | count
  /-- Answers whether the object is of a class or one derived from it. -/
  | ask (cls : String)
  /-- Fails for a reason. -/
  | fail (reason : String)
deriving DecidableEq

/-- The first argument, or nil. -/
def firstArg (args : List Variant) : Variant := args.head?.getD .nil

/-- The number of arguments as a value. -/
def argCount (args : List Variant) : Variant := .int (.ofInt args.length)

/-- What a planned method does. -/
def MethodPlan.run (name : String) : MethodPlan → ObjectMethod
  | fixed value => CoreClasses.reading fun _ => value
  | read property => CoreClasses.getting property
  | write property => CoreClasses.setting property fun _ args => .ok (firstArg args)
  | echo => fun _ o args => (.ok (firstArg args), o)
  | count => fun _ o args => (.ok (argCount args), o)
  | ask cls => fun lineage o _ =>
    match lineage.isA? o.cls cls with
    | some answer => (.ok (.bool answer), o)
    | none => (.error (.endlessHierarchy o.cls), o)
  | fail reason => fun _ o _ => (.error (.callFailed name reason), o)

/-- A class described by data. -/
structure ClassPlan where
  name : String
  parent : Option String
  isAbstract : Bool
  defaults : List (String × Variant)
  methods : List (String × MethodPlan)
deriving DecidableEq

/-- The class of a plan. -/
def ClassPlan.toClass (p : ClassPlan) : ClassDef where
  name := p.name
  parent := p.parent
  isInstantiable := !p.isAbstract
  defaults := p.defaults
  methods := p.methods.foldl (fun known m => Keyed.put m.1 (m.2.run m.1) known) []

/-! ## Stand-in hosts -/

/-- What a stand-in host adds to the reference engine. -/
structure StandIn where
  classes : List ClassPlan
  /-- Constants by type and name; they come before those of the reference engine. -/
  constants : List ((Tag × String) × Variant)
  /-- Whether objects are written without asking for their class. -/
  plainText : Bool
deriving DecidableEq

/-- Nothing added. -/
def StandIn.plain : StandIn := ⟨[], [], false⟩

namespace StandIn

def constant (s : StandIn) (type : Tag) (name : String) : Except HostError Variant :=
  match Keyed.get? (type, name) s.constants with
  | some v => .ok v
  | none => Math.constant type name

def call (target : Variant) (method : String) (args : List Variant) :
    Except HostError Variant × Variant :=
  if method = "become" then (.ok .nil, firstArg args)
  else if method = "echo" then (.ok (firstArg args), target)
  else if method = "count" then (.ok (argCount args), target)
  else if method = "fail" then (.error (.callFailed method "the host says no"), target)
  else Math.call target method args

def callStatic (type : Tag) (method : String) (args : List Variant) : Except HostError Variant :=
  if method = "s_echo" then .ok (firstArg args)
  else if method = "s_count" then .ok (argCount args)
  else Math.callStatic type method args

/-- The engine of a stand-in host. -/
def engine (s : StandIn) : Engine where
  constant := s.constant
  construct := Math.construct
  call := call
  callStatic := callStatic
  member := Math.member
  stringify := if s.plainText then fun _ v => v.text else Engine.describe

/-- The stand-in host, with its classes on top of the core classes. -/
def host (s : StandIn) : Host where
  engine := s.engine
  classes := (s.classes.map ClassPlan.toClass).foldl ClassDb.register ClassDb.core

end StandIn

end ScriptBind
