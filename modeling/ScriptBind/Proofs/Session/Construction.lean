import ScriptBind.Proofs.ClassDb.Fresh
import ScriptBind.Proofs.ClassDb.Walks
import ScriptBind.Proofs.Session.ClassLibraries
import ScriptBind.Proofs.Session.Constants
import ScriptBind.Proofs.Session.Fields
import ScriptBind.Proofs.Session.Frozen
import ScriptBind.Proofs.Session.Hosts

/-!
# Construction of objects

What stands under `new` in the library of a class asks the host for an instance, and hands it out
with the metatable of the class. By then the host has listed the object, so nothing that is still to
be done may fail: the host knows the class of an object that it has just made, and the metatable of
a class that is open is registered under the name that the class and its ancestors are searched for
first. Where no object is made, only requests have been noted.

Main results:

* `run_construct` — the call of a constructor as one activation.
* `run_pushObject` — an object of a class that is open is handed out.
* `class_construction` — a constructor makes exactly one object, or fails and makes none.
-/

namespace ScriptBind

open ScriptM

/-- Calls what stands under `new` in a library. -/
def ScriptM.construct (run : Runner) (lib : TableId) (args : List Value) (wanted : Option Nat) :
    ScriptM Unit := do
  push (← indexValue run (.table lib) (.string "new"))
  args.forM push
  call run args.length wanted

namespace World

/-- What there is for the construction of the instances of a class: a host, which has done some
deeds so far, and a registry of the class. The parents of the class in the host do not go in a
circle. -/
structure Provides (w : World) (c : Context) (cls : String) (deeds : List ClassDb.Deed) :
    Prop where
  known : c.host < w.hosts.size
  history : ClassDb.History deeds (w.host c.host).classes
  open_ : ¬ (w.host c.host).classes.Endless cls
  built : ∃ d, Registry.ofApi d = .ok (w.registry c.registry)
  declared : ∃ k ∈ (w.registry c.registry).classes, k.name = cls

/-- One object has been made. The host lists it after those that it had, and the caller has got it
with a metatable; no other host, no table and no function has changed. -/
structure Constructed (w v : World) (c : Context) (cls : String) (mt : TableId)
    (wanted : Option Nat) (id : ObjectId) : Prop where
  returned : v.state =
    { w.state with stack := w.state.stack ++ adjust [.userdata ⟨w.userdata.size⟩] wanted }
  tagged : v.userdata = w.userdata.push ⟨.object id, some mt⟩
  reported : (v.host c.host).classes.classOf id = .ok cls
  listed : ∃ o : EngineObject, o.cls = cls ∧
    (v.host c.host).classes.objects = (w.host c.host).classes.objects ++ [(id, o)]
  hosts : ∀ i, i ≠ c.host → v.hosts[i]? = w.hosts[i]?
  tables : v.tables = w.tables
  functions : v.functions = w.functions

end World

theorem Registry.Class.upvalues_constructor (k : Registry.Class) :
    k.constructor.upvalues = [.string k.name] := by
  unfold Registry.Class.constructor
  split <;> rfl

namespace ScriptM

variable {w v : World} {c : Context} {k : Registry.Class} {f : FunctionId} {args : List Value}
  {cls : String}

theorem run_askInstantiate (host : Nat) (cls : String) (w : World) :
    askInstantiate host cls w =
      (.ok ((w.host host).classes.instantiate cls).1,
        (w.asking [(host, .instantiate cls)]).setClasses host
          ((w.host host).classes.instantiate cls).2) := by
  rw [World.asking_one]
  rfl

/-- The world with an object on the stack that carries a metatable. -/
def withObject (w : World) (id : ObjectId) (mt : TableId) : World :=
  { w with
    userdata := w.userdata.push ⟨.object id, some mt⟩
    state := w.state.push (.userdata ⟨w.userdata.size⟩) }

/-- An object is pushed once the host has told its class. -/
theorem run_pushObject_asked (id : ObjectId) (context : w.state.context = some c) :
    pushObject id w =
      (match (w.host c.host).classes.classOf id with
        | .error e => throw (.host e)
        | .ok cls =>
          match ((w.registry c.registry).ancestors cls).findSome?
              fun k => w.metatableNamed k.name with
          | some mt => pushTagged (.object id) mt
          | none => plainObjectMetatable >>= pushTagged (.object id) : ScriptM Unit)
        (w.asking [(c.host, .className id)]) := by
  unfold pushObject
  rw [run_context_bind context, run_bind, run_askClassName]
  dsimp only
  cases (w.host c.host).classes.classOf id with
  | error e => rfl
  | ok cls => rfl

/-- An object of a class is handed out with the first metatable that is registered for the class or
one of its ancestors. -/
theorem run_pushObject {id : ObjectId} {cls : String} {mt : TableId}
    (context : w.state.context = some c) (reported : (w.host c.host).classes.classOf id = .ok cls)
    (found : ((w.registry c.registry).ancestors cls).findSome?
      (fun k => w.metatableNamed k.name) = some mt) :
    pushObject id w = (.ok (), withObject (w.asking [(c.host, .className id)]) id mt) := by
  rw [run_pushObject_asked id context, reported]
  dsimp only
  rw [found]
  exact run_pushTagged ..

/-! ## In the frame of a constructor -/

/-- What stands under `new` is called with the arguments. -/
theorem run_construct {lib : TableId} (n : Nat) (framed : w.state.Framed)
    (entry : (w.table lib).field "new" = .function f) (args : List Value) (wanted : Option Nat) :
    construct (runAt n) lib args wanted w =
      invoke (runAt n) w.state.stack.length f wanted (w.withCall f args) := by
  have raw : w.rawGet lib (.string "new") = .function f := entry
  -- the entry is the table's own, so no metatable is asked for it
  have own : w.rawGet lib (.string "new") ≠ .nil := by
    rw [raw]
    nofun
  have fetched : indexValue (runAt n) (.table lib) (.string "new") w = (.ok (.function f), w) := by
    rw [← raw]
    exact indexChain_stop n framed rfl (.entry own) 99
  have stack : w.state.stack ++ [.function f] ++ args = w.state.stack ++ .function f :: args := by
    rw [List.append_assoc]
    rfl
  unfold construct
  rw [run_bind, fetched]
  dsimp only
  rw [run_push_bind, run_forM_push, ← run_call_withCall (runAt n) wanted framed]
  exact congrArg (fun stack => call (runAt n) args.length wanted (w.withStack stack)) stack

section Frame

variable (n : Nat) (args : List Value) (known : w.functions[f.index]? = some k.constructor)
include known

theorem handler?_constructor :
    (w.callFrame f args).handler? f =
      some (if k.isInstantiable then .classCtor else .classNoCtor) := by
  refine World.handler?_eq_some.mpr ⟨k.constructor, known, ?_⟩
  unfold Registry.Class.constructor
  split <;> rfl

/-- The constructor of a class that is declared without instances. -/
theorem run_refusal (abstract_ : k.isInstantiable = false) :
    runAt (n + 1) f (w.callFrame f args) =
      (.error (.runtime ("class " ++ k.name ++ " is not instantiable")), w.callFrame f args) := by
  have handler := handler?_constructor args known
  rw [abstract_, if_neg Bool.false_ne_true] at handler
  rw [runAt_handler handler]
  show classRefusal _ = _
  unfold classRefusal
  rw [run_bind, run_classUpvalue, upvalueText?_callFrame known k.upvalues_constructor]
  rfl

/-- The constructor of any other class. -/
theorem run_constructor (instantiable : k.isInstantiable = true) :
    runAt (n + 1) f (w.callFrame f args) =
      match w.state.context with
      | none => (.error noContext, w.callFrame f args)
      | some c =>
        (do
          pushObject (← granted (← askInstantiate c.host k.name))
          return 1 : ScriptM Nat) (w.callFrame f args) := by
  have handler := handler?_constructor args known
  rw [instantiable, if_pos rfl] at handler
  rw [runAt_handler handler]
  refine (run_classConstructor _).trans ?_
  rw [upvalueText?_callFrame known k.upvalues_constructor]
  rfl

variable (instantiable : k.isInstantiable = true) (context : w.state.context = some c)
include instantiable context

theorem run_constructor_declined {e : HostError}
    (declined : (w.host c.host).classes.instantiate k.name =
      (.error e, (w.host c.host).classes)) :
    runAt (n + 1) f (w.callFrame f args) =
      (.error (.host e), (w.callFrame f args).asking [(c.host, .instantiate k.name)]) := by
  have host : (w.callFrame f args).host c.host = w.host c.host := rfl
  have unchanged := World.setClasses_self
    ((w.callFrame f args).asking [(c.host, .instantiate k.name)]) c.host
  rw [run_constructor n args known instantiable, context]
  dsimp only
  rw [run_bind, run_askInstantiate, host, declined]
  exact congrArg (Prod.mk _) unchanged

theorem run_constructor_makes {id : ObjectId} {db : ClassDb} {mt : TableId}
    (inside : c.host < w.hosts.size)
    (made : (w.host c.host).classes.instantiate k.name = (.ok id, db))
    (found : ((w.registry c.registry).ancestors k.name).findSome?
      (fun k => w.metatableNamed k.name) = some mt) :
    runAt (n + 1) f (w.callFrame f args) =
      (.ok 1, withObject ((((w.callFrame f args).asking
        [(c.host, .instantiate k.name)]).setClasses c.host db).asking [(c.host, .className id)])
          id mt) := by
  have host : (w.callFrame f args).host c.host = w.host c.host := rfl
  generalize changed : ((w.callFrame f args).asking
    [(c.host, .instantiate k.name)]).setClasses c.host db = u
  -- the object has just been made, so the database reports the class that it was made of
  have reported : (u.host c.host).classes.classOf id = .ok k.name := by
    rw [← changed]
    refine Eq.trans ?_ (ClassDb.classOf_instantiate made)
    exact congrArg (fun db => ClassDb.classOf db id) (World.host_setClasses inside db)
  have pushed : pushObject id u =
      (.ok (), withObject (u.asking [(c.host, .className id)]) id mt) := by
    rw [← changed] at reported ⊢
    exact run_pushObject context reported found
  rw [run_constructor n args known instantiable, context]
  dsimp only
  rw [run_bind, run_askInstantiate, host, made, changed]
  dsimp only [granted]
  rw [pure_bind, run_bind, pushed]
  rfl

end Frame

/-! ## One object or none -/

/-- The first place where the metatable of a declared class is looked for is the class itself. -/
theorem findSome?_ancestors {d : Api.Document} {r : Registry} (built : Registry.ofApi d = .ok r)
    (declared : ∃ k ∈ r.classes, k.name = cls) {g : String → Option TableId} {mt : TableId}
    (named : g cls = some mt) : (r.ancestors cls).findSome? (fun k => g k.name) = some mt := by
  obtain ⟨k, mem, rfl⟩ := declared
  obtain ⟨above, chain⟩ := Registry.ancestors_head built mem
  rw [chain, List.findSome?_cons, named]

section Call

variable {lib : TableId} (n : Nat) (framed : w.state.Framed)
  (room : w.state.frames.length < maxCallDepth)
  (entry : (w.table lib).field "new" = .function f) (args : List Value) (wanted : Option Nat)
include framed room entry

/-- A constructor that fails leaves its caller as it was. -/
theorem construct_fails {e : ScriptError} {asked : List (Nat × Request)}
    (ran : runAt n f (w.callFrame f args) = (.error e, (w.callFrame f args).asking asked)) :
    construct (runAt n) lib args wanted w = (.error e, w.asking asked) :=
  (run_construct n framed entry args wanted).trans (run_invoke_fails wanted room ran rfl)

/-- A constructor whose request is granted has made one object. -/
theorem construct_makes {mt : TableId} {id : ObjectId} {db : ClassDb} {o : EngineObject}
    (known : w.functions[f.index]? = some k.constructor) (instantiable : k.isInstantiable = true)
    (context : w.state.context = some c) (inside : c.host < w.hosts.size)
    (found : ((w.registry c.registry).ancestors k.name).findSome?
      (fun k => w.metatableNamed k.name) = some mt)
    (made : (w.host c.host).classes.instantiate k.name = (.ok id, db)) (cls : o.cls = k.name)
    (listed : db.objects = (w.host c.host).classes.objects ++ [(id, o)]) :
    ∃ v, construct (runAt (n + 1)) lib args wanted w = (.ok (), v) ∧
      w.Constructed v c k.name mt wanted id := by
  have ran := run_constructor_makes n args known instantiable context inside made found
  have ended := run_invoke_returns wanted room ran rfl
  refine ⟨_, (run_construct (n + 1) framed entry args wanted).trans ended, ?_⟩
  -- one host has a new database, and the rest of the world is what it was
  have host := World.host_setClasses inside db
  exact
    { returned := rfl
      tagged := rfl
      reported := by
        refine Eq.trans ?_ (ClassDb.classOf_instantiate made)
        exact congrArg (fun db => ClassDb.classOf db id) host
      listed := ⟨o, cls, (congrArg ClassDb.objects host).trans listed⟩
      hosts := fun i other => by
        show (w.setClasses c.host db).hosts[i]? = _
        rw [World.setClasses, Array.getElem?_modify, if_neg other.symm]
      tables := rfl
      functions := rfl }

end Call

/-- After all classes have been opened, as long as the lock of the library of a class has not been
taken away, and in any state that has the metatable of the class: if the description says that the
class has instances, and so does the host, then `new` makes exactly one object and returns it. The
object has the metatable and an id that was never given out, and no object that was ever alive has
had this id. In every other case `new` fails, and nothing has changed but that requests have been
noted.

No constant or enum value of the class may be named `new`, since it would stand in place of the
constructor. What is asked of the state before the opening holds of a new state and at every moment
of a run (`Moment.framed`, `Moment.houses`), and a run spares a table whose lock no instruction
takes away (`spares_since`). -/
theorem class_construction {w₀ w₁ w : World} {c₀ : Context} {count : Nat} {k : Registry.Class}
    {lib : TableId} {deeds : List ClassDb.Deed} (framed₀ : w₀.state.Framed)
    (housed : w₀.Houses w₀.state) (context₀ : w₀.state.context = some c₀)
    (opens : openClasses w₀ = (.ok count, w₁))
    (declared : k ∈ (w₀.registry c₀.registry).classes) (free : "new" ∉ k.constants.map Prod.fst)
    (library : (w₁.table w₁.state.globals).field k.name = .table lib)
    (later : Leads w₁ w) (spared : Spares lib w₁ w) (framed : w.state.Framed)
    (room : w.state.frames.length < maxCallDepth)
    (registered : w.metatableNamed k.name = w₁.metatableNamed k.name)
    (bound : (ClassDb.issued deeds).length + 1 < UInt64.size)
    (provides : ∀ c, w.state.context = some c → w.Provides c k.name deeds) :
    ∃ mt, w₁.metatableNamed k.name = some mt ∧
      ∀ (n : Nat) (args : List Value) (wanted : Option Nat),
        (∀ c, w.state.context = some c → k.isInstantiable = true →
          (w.host c.host).classes.Instantiable k.name →
          ∃ v id, construct (runAt (n + 1)) lib args wanted w = (.ok (), v) ∧
            w.Constructed v c k.name mt wanted id ∧ id ∉ ClassDb.issued deeds ∧
            ∀ before after db, deeds = before ++ after → ClassDb.History before db →
              db.object? id = none) ∧
        ((∀ c, w.state.context = some c → k.isInstantiable = true →
          ¬ (w.host c.host).classes.Instantiable k.name) →
          ∃ e asked, construct (runAt (n + 1)) lib args wanted w = (.error e, w.asking asked)) := by
  obtain ⟨mt, lib', opened⟩ := classLibrary_openClasses framed₀ housed context₀ opens k declared
  obtain rfl : lib = lib' := opened.global lib library
  -- the constructor is still there, and it is the same function
  obtain ⟨f, entry, known⟩ := opened.constructor free
  rw [← spared opened.locked] at entry
  have known := later.function_known known
  refine ⟨mt, opened.named, fun n args wanted =>
    ⟨fun c context instantiable has_instances => ?_, fun other => ?_⟩⟩
  · obtain ⟨inside, history, open_, ⟨d, built⟩, here⟩ := provides c context
    have found := findSome?_ancestors built here (registered.trans opened.named)
    obtain ⟨id, db, made⟩ := has_instances.instantiate_ok open_
    obtain ⟨fresh, never, o, cls, listed⟩ := ClassDb.instantiate_new history bound made
    obtain ⟨v, ended, constructed⟩ := construct_makes n framed room entry args wanted known
      instantiable context inside found made cls listed
    exact ⟨v, id, ended, constructed, fresh, never⟩
  have fails : ∀ e asked, runAt (n + 1) f (w.callFrame f args) =
      (.error e, (w.callFrame f args).asking asked) →
      ∃ e asked, construct (runAt (n + 1)) lib args wanted w = (.error e, w.asking asked) :=
    fun _ _ ran => ⟨_, _, construct_fails (n + 1) framed room entry args wanted ran⟩
  -- nothing is asked if the class is declared without instances or there is no host
  have at_once : ∀ e, runAt (n + 1) f (w.callFrame f args) = (.error e, w.callFrame f args) →
      ∃ e asked, construct (runAt (n + 1)) lib args wanted w = (.error e, w.asking asked) :=
    fun e ran => fails e [] (by rw [World.asking_nil, ran])
  cases instantiable : k.isInstantiable with
  | false => exact at_once _ (run_refusal n args known instantiable)
  | true =>
    have ran := run_constructor n args known instantiable
    cases context : w.state.context with
    | none =>
      rw [context] at ran
      exact at_once _ ran
    | some c =>
      obtain ⟨e, declined⟩ := ClassDb.instantiate_of_not_instantiable (other c context instantiable)
      exact fails _ _ (run_constructor_declined n args known instantiable context declined)

/-- A description of one class. What the class declares beside its name is left open. -/
def nodeText (declarations : String) : String :=
  "\x7b\"header\":\x7b\x7d,\"classes\":[\x7b\"name\":\"Node\",\"is_instantiable\":true" ++
    declarations ++ "\x7d]\x7d"

/-- A run that makes the class known. -/
def nodeKnown (declarations : String) : List Session.Event :=
  [.command (.run (.install (.document (nodeText declarations)) (.fresh .plain)))]

/-- Right after the opening, every call of `Node.new` makes a node. -/
theorem class_construction_node :
    let w₀ := (Session.after (nodeKnown "")).world
    let w₁ := (openClasses w₀).2
    openClasses w₀ = (.ok 1, w₁) ∧ (w₁.table w₁.state.globals).field "Node" = .table ⟨2⟩ ∧
      ∃ mt, w₁.metatableNamed "Node" = some mt ∧
        ∀ (n : Nat) (args : List Value) (wanted : Option Nat), ∃ v id,
          construct (runAt (n + 1)) ⟨2⟩ args wanted w₁ = (.ok (), v) ∧
            w₁.Constructed v ⟨0, 0⟩ "Node" mt wanted id := by
  have facts :
      let w₀ := (Session.after (nodeKnown "")).world
      let w₁ := (openClasses w₀).2
      let db := (w₁.host 0).classes
      w₀.state.context = some ⟨0, 0⟩ ∧ (openClasses w₀).1 = .ok 1 ∧
        ((w₀.registry 0).classes.any fun k =>
          k.name = "Node" && k.isInstantiable && !(k.constants.map Prod.fst).contains "new") ∧
        (w₁.table w₁.state.globals).field "Node" = .table ⟨2⟩ ∧
        w₁.state.context = some ⟨0, 0⟩ ∧ w₁.state.frames = [] ∧ 0 < w₁.hosts.size ∧
        0 < w₁.registries.size ∧ ((w₁.registry 0).classes.any fun k => k.name = "Node") ∧
        db.objects = [] ∧ db.created = 0 ∧
        db.Instantiable "Node" ∧
        (db.classes.all fun c => c.2.parent.all fun p =>
          ClassDb.coreRank p < ClassDb.coreRank c.1) := by
    decide +kernel
  have moment := Session.Moment.last (nodeKnown "")
  -- from here on it does not matter what led to the world
  generalize (Session.after (nodeKnown "")).world = start at facts moment ⊢
  obtain ⟨context₀, count, declared, global, context, frames, host, registry, known, objects,
    created, has_instances, ranked⟩ := facts
  intro w₀ w₁
  have opens : openClasses w₀ = (.ok 1, w₁) := by
    exact Prod.ext count rfl
  have opening : Evolves w₀ w₁ := Evolving.openClasses w₀
  obtain ⟨k, mem, facts⟩ := List.any_eq_true.mp declared
  obtain ⟨⟨name, instantiable⟩, free⟩ : (k.name = "Node" ∧ k.isInstantiable = true) ∧
      "new" ∉ k.constants.map Prod.fst := by simpa using facts
  have acyclic : (w₁.host 0).classes.Acyclic := by
    refine ClassDb.acyclic_of_rank ClassDb.coreRank fun c hc parent above => ?_
    have below := List.all_eq_true.mp ranked c hc
    rw [Option.mem_def.mp above, Option.all_some] at below
    exact of_decide_eq_true below
  have provides : ∀ c, w₁.state.context = some c → w₁.Provides c k.name [] := by
    intro c current
    obtain rfl : c = ⟨0, 0⟩ := Option.some.inj (current.symm.trans context)
    obtain ⟨x, listed, same⟩ := List.any_eq_true.mp known
    have built := (opening.accounted moment.accounted).built _ (Array.getElem_mem registry)
    rw [← World.registry_eq (Array.getElem?_eq_getElem registry)] at built
    exact
      { known := host
        history := .new objects created
        open_ := ClassDb.acyclic_iff.mp acyclic k.name
        built
        declared := ⟨x, listed, (of_decide_eq_true same).trans name.symm⟩ }
  have room : w₁.state.frames.length < maxCallDepth := by
    rw [frames]
    decide
  obtain ⟨mt, named, constructs⟩ := class_construction moment.framed moment.houses context₀ opens
    mem free (name ▸ global) (.evolves (.refl w₁)) (fun _ => rfl) (opening.framed moment.framed)
    room rfl (by decide) provides
  refine ⟨opens, global, mt, name ▸ named, fun n args wanted => ?_⟩
  obtain ⟨v, id, ended, constructed, -⟩ :=
    (constructs n args wanted).1 ⟨0, 0⟩ context instantiable (name ▸ has_instances)
  exact ⟨v, id, ended, name ▸ constructed⟩

/-- What declares an enum with a value named `new`. -/
def newInEnum : String :=
  ",\"enums\":[\x7b\"name\":\"Age\",\"values\":[\x7b\"name\":\"new\",\"value\":3\x7d]\x7d]"

/-- Such a value stands in place of the constructor. The class declares no constants at all, and
both the description and the host say that it has instances, but scripts cannot make any. -/
theorem construct_newInEnum :
    let w₀ := (Session.after (nodeKnown newInEnum)).world
    let w₁ := (openClasses w₀).2
    (∃ d ∈ (Api.Document.parse (nodeText newInEnum)).toOption, ∃ e ∈ d.classes,
      e.name = "Node" ∧ e.isInstantiable = true ∧ e.constants = []) ∧
      (openClasses w₀).1 = .ok 1 ∧ w₁.state.context = some ⟨0, 0⟩ ∧
      (w₁.host 0).classes.Instantiable "Node" ∧
      (w₁.table w₁.state.globals).field "Node" = .table ⟨2⟩ ∧
      (construct runFunction ⟨2⟩ [] (some 1) w₁).1 = .error (.notCallable "number") := by
  decide +kernel

end ScriptM

end ScriptBind
