import ScriptBind.Host.Error
import ScriptBind.Variant.Basic
import ScriptBind.Registry.Keyed
import ScriptBind.Text.Quoted

/-!
# The class database

The engine's classes and live objects. A class is a table of named methods over a bag of
properties; an object carries the name of its class and its own properties.

Classes may be registered in any order and replaced later, so the parents of a class need not end:
every walk up the hierarchy is bounded by the number of registered classes and reports when that
bound shows a circle.

* `Lineage` — who derives from whom; `Lineage.isA?` asks for an ancestor.
* `ClassDef` — a class definition, built with `inherits`, `property`, `method`.
* `ClassDb.instantiate`, `call`, `free` — the life of an object. Ids count upwards from one and are
  never given out twice.
-/

namespace ScriptBind

/-! ## Objects -/

/-- A live object. -/
structure EngineObject where
  id : ObjectId
  cls : String
  properties : List (String × Variant)
deriving DecidableEq

/-- The value of a property, nil when it was never set. -/
def EngineObject.get (o : EngineObject) (property : String) : Variant :=
  (Keyed.get? property o.properties).getD .nil

def EngineObject.set (o : EngineObject) (property : String) (value : Variant) : EngineObject :=
  { o with properties := Keyed.put property value o.properties }

/-! ## Lineage -/

/-- The registered classes with their parents. -/
abbrev Lineage := List (String × Option String)

namespace Lineage

/-- The parent of a class; none for a root and for a class that is not registered. -/
def parent? (l : Lineage) (cls : String) : Option String := (Keyed.get? cls l).join

/-- Looks for an ancestor among the next `fuel` classes upwards; none when the walk goes on. -/
def search (l : Lineage) (ancestor : String) : Nat → String → Option Bool
  | 0, _ => none
  | fuel + 1, cls =>
    if cls = ancestor then some true
    else
      match l.parent? cls with
      | none => some false
      | some p => l.search ancestor fuel p

/-- Whether a class is `ancestor` or derives from it; none when the walk upwards never ends. More
steps than there are classes meet some class twice. -/
def isA? (l : Lineage) (cls ancestor : String) : Option Bool :=
  l.search ancestor (l.length + 1) cls

end Lineage

/-! ## Classes -/

/-- What a method does: it may ask about classes, read and change the object, and answers or
fails. -/
abbrev ObjectMethod :=
  Lineage → EngineObject → List Variant → Except HostError Variant × EngineObject

/-- A class definition. -/
structure ClassDef where
  name : String
  parent : Option String
  isInstantiable : Bool
  methods : List (String × ObjectMethod)
  /-- The initial properties of an instance, in the order declared. -/
  defaults : List (String × Variant)

namespace ClassDef

/-- A root class without methods. -/
def new (name : String) : ClassDef := ⟨name, none, true, [], []⟩

def inherits (d : ClassDef) (parent : String) : ClassDef := { d with parent := some parent }

/-- The class without instances of its own. -/
def notInstantiable (d : ClassDef) : ClassDef := { d with isInstantiable := false }

/-- The class with one more initial property. -/
def property (d : ClassDef) (name : String) (value : Variant) : ClassDef :=
  { d with defaults := d.defaults ++ [(name, value)] }

/-- The class with a method, which replaces one of the same name. -/
def method (d : ClassDef) (name : String) (run : ObjectMethod) : ClassDef :=
  { d with methods := Keyed.put name run d.methods }

/-- A one-line summary. -/
def debugText (d : ClassDef) : String :=
  let parent :=
    match d.parent with
    | none => "None"
    | some p => "Some(" ++ Text.quoted p ++ ")"
  "ClassDef \x7b name: " ++ Text.quoted d.name ++ ", parent: " ++ parent ++
    ", instantiable: " ++ (if d.isInstantiable then "true" else "false") ++
    ", methods: " ++ Number.natText d.methods.length ++ " \x7d"

end ClassDef

/-! ## The database -/

/-- Registered classes and live objects. -/
structure ClassDb where
  classes : List (String × ClassDef)
  objects : List (ObjectId × EngineObject)
  /-- How many ids were given out. -/
  created : UInt64

namespace ClassDb

/-- No classes and no objects. -/
def empty : ClassDb := ⟨[], [], 0⟩

/-- The database with a class, which replaces one of the same name. -/
def register (db : ClassDb) (d : ClassDef) : ClassDb :=
  { db with classes := Keyed.put d.name d db.classes }

def class? (db : ClassDb) (name : String) : Option ClassDef := Keyed.get? name db.classes

/-- Who derives from whom. -/
def lineage (db : ClassDb) : Lineage := db.classes.map fun c => (c.1, c.2.parent)

/-- Whether a class is `ancestor` or derives from it. -/
def isParentClass (db : ClassDb) (cls ancestor : String) : Except HostError Bool :=
  match db.lineage.isA? cls ancestor with
  | some answer => .ok answer
  | none => .error (.endlessHierarchy cls)

/-- The definition above another one. -/
def above? (db : ClassDb) (d : ClassDef) : Option ClassDef := d.parent.bind db.class?

/-- A class and the registered classes above it, nearest first, at most `fuel` of them; none when
there are more. -/
def chain? (db : ClassDb) : Nat → Option ClassDef → Option (List ClassDef)
  | _, none => some []
  | 0, some _ => none
  | fuel + 1, some d => (db.chain? fuel (db.above? d)).map (d :: ·)

/-- The initial properties that a chain of classes declares: those of a class win over those of the
classes above it, and later ones over earlier ones. -/
def initialProperties (chain : List ClassDef) : List (String × Variant) :=
  (chain.reverse.flatMap fun d => d.defaults).foldl (fun known p => Keyed.put p.1 p.2 known) []

/-- Creates an instance of a class. A refused request changes nothing. -/
def instantiate (db : ClassDb) (cls : String) : Except HostError ObjectId × ClassDb :=
  match db.class? cls with
  | none => (.error (.classNotFound cls), db)
  | some d =>
    if !d.isInstantiable then (.error (.notInstantiable cls), db)
    else
      match db.chain? db.classes.length (some d) with
      | none => (.error (.endlessHierarchy cls), db)
      | some chain =>
        let id : ObjectId := ⟨db.created + 1⟩
        (.ok id,
          { db with
            created := db.created + 1
            objects := Keyed.put id ⟨id, cls, initialProperties chain⟩ db.objects })

/-- The nearest definition of a method from a class upwards. -/
def findMethod (db : ClassDb) (cls method : String) :
    Nat → Option ClassDef → Except HostError ObjectMethod
  | _, none => .error (.methodNotFound cls method)
  | 0, some _ => .error (.endlessHierarchy cls)
  | fuel + 1, some d =>
    match Keyed.get? method d.methods with
    | some run => .ok run
    | none => db.findMethod cls method fuel (db.above? d)

/-- Calls a method as seen from the class `cls`, which the object's class must be or derive
from. -/
def call (db : ClassDb) (id : ObjectId) (cls method : String) (args : List Variant) :
    Except HostError Variant × ClassDb :=
  match Keyed.get? id db.objects with
  | none => (.error (.invalidObject id.number), db)
  | some o =>
    match db.isParentClass o.cls cls with
    | .error e => (.error e, db)
    | .ok false =>
      (.error (.callFailed method ("object of class " ++ o.cls ++ " is not a " ++ cls)), db)
    | .ok true =>
      match db.findMethod cls method db.classes.length (db.class? cls) with
      | .error e => (.error e, db)
      | .ok run =>
        let (answer, o') := run db.lineage o args
        (answer, { db with objects := Keyed.put id o' db.objects })

/-- The class of a live object. -/
def classOf (db : ClassDb) (id : ObjectId) : Except HostError String :=
  match Keyed.get? id db.objects with
  | some o => .ok o.cls
  | none => .error (.invalidObject id.number)

def object? (db : ClassDb) (id : ObjectId) : Option EngineObject := Keyed.get? id db.objects

def objectCount (db : ClassDb) : Nat := db.objects.length

/-- Frees an object; the answer tells whether it was alive. -/
def free (db : ClassDb) (id : ObjectId) : Bool × ClassDb :=
  ((db.object? id).isSome, { db with objects := Keyed.erase id db.objects })

end ClassDb

end ScriptBind
