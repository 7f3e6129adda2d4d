import ScriptBind.Proofs.Session.ClassLibraries
import ScriptBind.Proofs.Session.Conversions
import ScriptBind.Proofs.Session.Hosts
import ScriptBind.Proofs.Session.MethodPaths
import ScriptBind.Proofs.Session.Preserved

/-!
# Methods of objects

To open a class is to give its metatable a `__namecall` handler, which finds the method of an object
by the class of the object. What is asked of the host on the way are classes, so that a call whose
arguments are accepted comes down to one request for the method, and its answer on the stack.

Main results:

* `World.withRuntime_classOpen` — the metatables of classes in a state with bindings.
* `ScriptM.callByName_object` — what a call of a method leaves.
-/

namespace ScriptBind

open ScriptM

/-! ## The metatables of classes -/

namespace World

/-- A metatable of objects, which is locked and leads their method calls to their classes. -/
structure ObjectMetatable (w : World) (mt : TableId) : Prop where
  locked : (w.table mt).readonly = true
  marked : w.isObjectMetatable mt = true
  namecall : w.Bears mt "__namecall" .classNamecall

/-- A class has been opened in the current state. -/
def ClassOpen (w : World) (cls : String) : Prop :=
  ∃ mt, w.metatableNamed cls = some mt ∧ w.ObjectMetatable mt

theorem ObjectMetatable.later {w v : World} {mt : TableId} (object : w.ObjectMetatable mt)
    (functions : ∀ f h, w.handler? f = some h → v.handler? f = some h) (spared : Spares mt w v) :
    v.ObjectMetatable mt := by
  obtain ⟨locked, marked, f, entry, known⟩ := object
  have same := spared locked
  rw [isObjectMetatable, ← same] at marked
  exact ⟨same ▸ locked, marked, f, same ▸ entry, functions f _ known⟩

theorem Preserves.classOpen {w v : World} (h : w.Preserves v) {cls : String}
    (open_ : w.ClassOpen cls) : v.ClassOpen cls := by
  obtain ⟨mt, named, object⟩ := open_
  exact ⟨mt, h.evolves.metatable_kept named, object.later h.functions (h.spared mt)⟩

end World

namespace ScriptM

section Opening

variable {n : Nat} {w v : World} {k : Registry.Class}
  (free : "__namecall" ∉ k.constants.map Prod.fst)
include free

/-- The handler of method calls stays while the library of the class is furnished. -/
theorem bears_furnishClass {below : List Value} {mt lib : TableId}
    (low : w.state.base ≤ below.length) (stack : w.state.stack = below ++ [.table mt, .table lib])
    (made : mt.index < w.tables.size) (ok : furnishClass k w = (.ok (), v)) :
    v.Bears mt "__namecall" .classNamecall := by
  obtain ⟨_, u₁, namecall, ok⟩ := run_bind_eq_ok.mp ok
  obtain ⟨_, u₂, text, ok⟩ := run_bind_eq_ok.mp ok
  obtain ⟨_, u₃, equality, ok⟩ := run_bind_eq_ok.mp ok
  obtain ⟨_, _, _, u₄, -, constructor, ok⟩ := installConstructor_ok ok
  obtain ⟨_, u₅, entered, finished⟩ := run_bind_eq_ok.mp ok
  have integers : Keeps (World.Installed mt "__namecall" .classNamecall false)
      (k.constants.forM (installInteger (-2))) :=
    .forM k.constants fun c mem => (Keeps.push _).bind fun _ =>
      .setField (-2) c.1 (.inr fun same => free (List.mem_map.mpr ⟨c, mem, same⟩))
  -- the handler is entered first, and no later entry has its name
  have at₁ : World.Installed mt "__namecall" .classNamecall false u₁ :=
    ⟨bears_installHandler low stack made namecall, nofun⟩
  have at₂ := (Keeps.installHandler (-3) "__tostring" (.inr (by decide)) _ _ _).after text at₁
  have at₃ := (Keeps.installHandler (-3) "__eq" (.inr (by decide)) _ _ _).after equality at₂
  have at₄ := (Keeps.installHandler (-2) "new" (.inr (by decide)) _ _ _).after constructor at₃
  have at₅ := integers.after entered at₄
  exact ((Keeps.finishLibrary true (.inr (by decide)) (.inr (by decide))).after finished at₅).bears

theorem classOpen_openClass (sealed_ : w.view.Sealed n) (housed : w.Houses w.state)
    (ok : openClass k w = (.ok (), v)) : v.ClassOpen k.name := by
  obtain ⟨mt, -, named, locked, marked, -⟩ := (opens_class.furnishes sealed_ ok).2.furnished
  refine ⟨mt, named, locked, marked, ?_⟩
  have framed := sealed_.ready.framed
  rw [openClass_eq] at ok
  obtain ⟨_, u, created, furnished⟩ := run_bind_eq_ok.mp ok
  obtain ⟨mt', lib, named', stack, -⟩ := newLibrary_ok framed created
  have creating : Evolves w u := (Evolving.newLibrary k.name k.name).ran created
  have kept := ((Evolving.furnishClass k).ran furnished).metatable_kept named'
  obtain rfl : mt' = mt := Option.some.inj (kept.symm.trans named)
  exact bears_furnishClass free (creating.base_eq.symm ▸ framed) stack
    ((creating.houses housed).of_named named') furnished

end Opening

end ScriptM

/-- The classes of the registry are open in a state with bindings. -/
theorem World.withRuntime_classOpen {w v : World} {setup : Setup} {host i : Nat}
    (classes : setup.classes = true) (ready : w.withRuntime setup host i = .ok v)
    {k : Registry.Class} (mem : k ∈ (w.registry i).classes)
    (free : "__namecall" ∉ k.constants.map Prod.fst) : v.ClassOpen k.name := by
  obtain ⟨opened, -⟩ := withRuntime_preserves ready
  obtain ⟨w₁, w₂, -, second, -, sealed₁, -, first, -, last⟩ :=
    openLibraries_groups (w.sealed_withContext host i) rfl opened
  have context : w₁.state.context = some ⟨host, i⟩ := first.context
  have registry : w₁.registry i = w.registry i := first.registry i
  rw [if_pos classes, run_openClasses context, registry] at second
  obtain ⟨u, u', before, sealed_, opens, after⟩ :=
    (opens_class.preserves_forM Evolving.openClass sealed₁ second).2 k mem
  have empty : (w.withContext host i).Houses (w.withContext host i).state :=
    fun _ mem => absurd mem List.not_mem_nil
  have housed : u.Houses u.state := (first.evolves.trans before.evolves).houses empty
  exact last.classOpen (after.classOpen (classOpen_openClass free sealed_ housed opens))

/-! ## Calls -/

namespace World

/-- The world that a function has left, once its results are on the stack of its caller. -/
def answered (w x : World) (values : List Value) : World :=
  { x with
    state :=
      { x.state with
        stack := w.state.stack ++ values
        frames := w.state.frames
        namecall := w.state.namecall } }

/-- Values have been pushed. No userdata and no host is another one. -/
structure Gains (w v : World) (values : List Value) : Prop where
  stack : v.state.stack = w.state.stack ++ values
  frames : v.state.frames = w.state.frames
  context : v.state.context = w.state.context
  hosts : v.hosts = w.hosts
  userdata (i : Nat) (d : Userdata) (known : w.userdata[i]? = some d) : v.userdata[i]? = some d

theorem Gains.refl (w : World) : w.Gains w [] :=
  ⟨(List.append_nil _).symm, rfl, rfl, rfl, fun _ _ known => known⟩

/-- A method has been called. Its results are on the stack, and the class database of the host is
the one that the host has left. -/
structure Left (w v : World) (c : Context) (db : ClassDb) (values : List Value) : Prop where
  evolves : Evolves w v
  spared (t : TableId) : Spares t w v
  stack : v.state.stack = w.state.stack ++ values
  context : v.state.context = w.state.context
  classes : (v.host c.host).classes = db
  userdata (i : Nat) (d : Userdata) (known : w.userdata[i]? = some d) : v.userdata[i]? = some d

/-- The frame of the handler of method calls. -/
def methodFrame (w : World) (f : FunctionId) (u : UserdataId) (name : String) (args : List Value) :
    World :=
  (w.withNamecall (some name)).callFrame f (.userdata u :: args)

/-- A userdata that carries a live object, whose class has a method of a name. -/
structure Resolves (w : World) (c : Context) (u : UserdataId) (id : ObjectId) (name : String)
    (owner : Registry.Class) (m : Registry.Method) : Prop where
  carried : w.CarriesObject u id
  reported : ∃ cls, (w.host c.host).classes.classOf id = .ok cls ∧
    (w.registry c.registry).findMethod? cls name = some (owner, m)

end World

namespace ScriptM

variable {w : World} {c : Context} {f : FunctionId} {u : UserdataId} {id : ObjectId} {name : String}
  {args : List Value} {owner : Registry.Class} {m : Registry.Method} {vs : List Variant}

theorem evolving_callByName (n : Nat) (v : Value) (name : String) (args : List Value)
    (wanted : Option Nat) : Evolving (callByName (runAt n) v name args wanted) :=
  (Evolving.push v).bind fun _ => (Evolving.forM Evolving.push args).bind fun _ =>
    (Disciplined.callMethod name args.length wanted).evolving (Evolving.runAt n)

/-- A handler of method calls that has left its frame with results above it returns them. -/
theorem callByName_leaves {run : Runner} {v : Value} {x : World} {results : List Value}
    (wanted : Option Nat) (framed : w.state.Framed) (room : w.state.frames.length < maxCallDepth)
    (handler : w.metafield v "__namecall" = some (.function f))
    (ran : run f ((w.withNamecall (some name)).callFrame f (v :: args)) = (.ok results.length, x))
    (stack : x.state.stack =
      ((w.withNamecall (some name)).callFrame f (v :: args)).state.stack ++ results)
    (frames : x.state.frames =
      ((w.withNamecall (some name)).callFrame f (v :: args)).state.frames) :
    callByName run v name args wanted w = (.ok (), w.answered x (adjust results wanted)) := by
  have ended := run_invoke_leaves (w := w.withNamecall (some name)) wanted room ran stack frames
  rw [callByName_eq run args wanted framed handler]
  exact congrArg (fun r => (r.1, r.2.withNamecall w.state.namecall)) ended

/-- The arguments of a method are those that its frame has above the receiver. -/
theorem accepts_callFrame {r : Value} (length : vs.length = args.length)
    (count : m.acceptsCount vs.length)
    (each : ∀ i x v, args[i]? = some x → vs[i]? = some v →
      (w.callFrame f (r :: args)).Conveys c (m.argumentType i) x v) :
    Accepts (w.callFrame f (r :: args)) c 2 m vs where
  length := by
    have top : (w.callFrame f (r :: args)).state.top = args.length + 1 := by
      show (w.state.stack ++ .function f :: r :: args).length - (w.state.stack.length + 1) = _
      rw [List.length_append, List.length_cons, List.length_cons]
      omega
    rw [top, length]
    omega
  count := count
  each i v given := by
    have bound : i < args.length := length ▸ (List.getElem?_eq_some_iff.mp given).1
    have held := List.getElem?_eq_getElem bound
    -- the receiver is the first argument of the frame, so those of the method follow it
    have slot : (w.callFrame f (r :: args)).state.value? ((2 + i : Nat) : Int) = some args[i] := by
      rw [show 2 + i = i + 1 + 1 by omega, value?_callFrame (i + 1), List.getElem?_cons_succ, held]
    exact (checkArg_eq_ok slot).mpr (each i _ v held given)

theorem run_askCallObject (host : Nat) (id : ObjectId) (cls method : String) (args : List Variant)
    (w : World) :
    askCallObject host id cls method args w =
      (.ok ((w.host host).classes.call id cls method args).1,
        (w.asking [(host, .callObject id cls method args)]).setClasses host
          ((w.host host).classes.call id cls method args).2) := by
  rw [World.asking_one]
  rfl

/-- In the frame of the handler, the method is called with the arguments that it accepts. -/
theorem run_methodFrame (n : Nat) (known : w.handler? f = some .classNamecall)
    (context : w.state.context = some c) (resolves : w.Resolves c u id name owner m)
    (accepts : Accepts (w.methodFrame f u name args) c 2 m vs) :
    ∃ asked, runAt (n + 1) f (w.methodFrame f u name args) =
      callObjectResolved c id owner m vs ((w.methodFrame f u name args).asking asked) := by
  obtain ⟨carried, cls, reported, found⟩ := resolves
  generalize frame : w.methodFrame f u name args = e at accepts
  have handler : e.handler? f = some .classNamecall := frame ▸ known
  have called : e.state.namecall = some name := by rw [← frame]; rfl
  have context : e.state.context = some c := frame ▸ context
  have receiver : e.objectAt? 1 = some id := by
    rw [← frame]
    exact World.objectAt?_eq_some.mpr ⟨u, value?_callFrame 0, carried.payload, carried.marked⟩
  have reported : (e.host c.host).classes.classOf id = .ok cls := frame ▸ reported
  have found : (e.registry c.registry).findMethod? cls name = some (owner, m) := frame ▸ found
  -- checking the arguments asks for classes of objects and changes nothing
  obtain ⟨asked, -, ran⟩ := (Inquires.collectArgs c 2 m).run_bind
    (callObjectResolved c id owner m) (e.asking [(c.host, .className id)])
  have collected : (collectArgs c 2 m (e.asking [(c.host, .className id)])).1 = .ok vs :=
    ((Inquires.collectArgs c 2 m).answer_asking e _).trans (collectArgs_eq_ok.mpr accepts)
  refine ⟨[(c.host, .className id)] ++ asked, ?_⟩
  rw [runAt_handler handler]
  refine (run_classNamecall e).trans ?_
  rw [called, receiver, context]
  dsimp only
  rw [reported]
  dsimp only
  rw [found, ← World.asking_one]
  dsimp only
  rw [ran, collected]
  dsimp only
  rw [World.asking_asking]

/-- The world in which the host has answered the call of a method. -/
def hostAnswered (w : World) (c : Context) (id : ObjectId) (owner : Registry.Class)
    (m : Registry.Method) (vs : List Variant) (asked : List (Nat × Request)) : World :=
  (w.asking asked).setClasses c.host ((w.host c.host).classes.call id owner.name m.name vs).2

/-- What a call of a method leaves whose arguments are accepted and whose request is granted. -/
theorem callByName_object (n : Nat) (wanted : Option Nat) (framed : w.state.Framed)
    (room : w.state.frames.length < maxCallDepth)
    (handler : w.metafield (.userdata u) "__namecall" = some (.function f))
    (known : w.handler? f = some .classNamecall) (context : w.state.context = some c)
    (inside : c.host < w.hosts.size) (resolves : w.Resolves c u id name owner m)
    (accepts : Accepts (w.methodFrame f u name args) c 2 m vs) {r : Variant}
    (granted : ((w.host c.host).classes.call id owner.name m.name vs).1 = .ok r) :
    ∃ asked, ∀ (values : List Value) (x : World),
      pushResult m r (hostAnswered (w.methodFrame f u name args) c id owner m vs asked) =
        (.ok values.length, x) →
      (hostAnswered (w.methodFrame f u name args) c id owner m vs asked).Gains x values →
      callByName (runAt (n + 1)) (.userdata u) name args wanted w =
          (.ok (), w.answered x (adjust values wanted)) ∧
        w.Left (w.answered x (adjust values wanted)) c
          ((w.host c.host).classes.call id owner.name m.name vs).2 (adjust values wanted) := by
  obtain ⟨asked, ran⟩ := run_methodFrame n known context resolves accepts
  refine ⟨asked ++ [(c.host, .callObject id owner.name m.name vs)], fun values x pushed gains => ?_⟩
  have answer : callObjectResolved c id owner m vs ((w.methodFrame f u name args).asking asked) =
      (.ok values.length, x) := by
    have granted : (((w.methodFrame f u name args).asking asked).host c.host).classes.call id
      owner.name m.name vs = (.ok r, _) := Prod.ext granted rfl
    unfold callObjectResolved
    rw [run_bind, run_askCallObject, granted, World.asking_asking]
    exact pushed
  rw [answer] at ran
  have ended := callByName_leaves wanted framed room handler ran gains.stack gains.frames
  refine ⟨ended, ?_⟩
  have evolves := evolving_callByName (n + 1) (.userdata u) name args wanted w
  rw [ended] at evolves
  -- locked tables are left alone by the handler, whatever it asks for
  have spared (t : TableId) : Spares t (w.methodFrame f u name args) x := by
    have handler : (w.methodFrame f u name args).handler? f = some .classNamecall := known
    rw [runAt_handler handler] at ran
    have kept : Spares t (w.methodFrame f u name args) (Handler.classNamecall.run _).2 :=
      .of_keeps (fun _ => Sparing.handler .classNamecall) _
    rw [ran] at kept
    exact kept
  exact
    { evolves
      spared := spared
      stack := rfl
      context := gains.context
      classes := by
        show (x.host c.host).classes = _
        rw [World.host, gains.hosts]
        exact World.host_setClasses inside _
      userdata := gains.userdata }

end ScriptM

end ScriptBind
