import ScriptBind.Binding.Argument
import ScriptBind.Proofs.Script.Balance

/-!
# What marshalling does

Values that move between a script and a host are checked on the way in and get a metatable on the
way out. Neither is a dealing with the host: at most it is asked for the class of an object.

* `Inquires` — an operation that only asks for classes. What it answers does not depend on what was
  asked before.
* `Discreet` — an operation that may change the state but has no dealings with a host.

Main results:

* `Inquires.checkArg`, `Inquires.checkArgs`, `Inquires.matchArgs` — arguments on the way in.
* `Discreet.pushNative`, `Discreet.pushVariant` — values on the way out.
* `Pushes.pushVariant` — an engine value is one value on the stack.
-/

namespace ScriptBind

/-! ## Dealings -/

/-- Whether a request asks for the class of an object. -/
def Request.isClassName : Request → Bool
  | className _ => true
  | _ => false

namespace World

/-- The requests of a world other than those for the class of an object. -/
def dealings (w : World) : List (Nat × Request) :=
  w.requests.toList.filter fun r => !r.2.isClassName

/-- The world in which more has been requested. -/
def asking (w : World) (rs : List (Nat × Request)) : World :=
  { w with requests := w.requests ++ rs }

/-- To ask for nothing leaves the world as it is. -/
theorem asking_nil (w : World) : w.asking [] = w := by
  unfold asking
  rw [Array.appendList_nil]

/-- To ask for one thing after another is to ask for both. -/
theorem asking_asking (w : World) (rs rs' : List (Nat × Request)) :
    (w.asking rs).asking rs' = w.asking (rs ++ rs') := by
  have assoc : w.requests ++ rs ++ rs' = w.requests ++ (rs ++ rs') := by
    apply Array.ext'
    simp only [Array.toList_appendList, List.append_assoc]
  unfold asking
  rw [assoc]

/-- One request is noted. -/
theorem asking_one (w : World) (r : Nat × Request) :
    w.asking [r] = { w with requests := w.requests.push r } := by
  unfold asking
  rw [Array.appendList_cons, Array.appendList_nil]

/-- Of what is asked for, all but the classes are dealings. -/
theorem dealings_asking (w : World) (rs : List (Nat × Request)) :
    (w.asking rs).dealings = w.dealings ++ rs.filter fun r => !r.2.isClassName := by
  unfold dealings asking
  rw [Array.toList_appendList, List.filter_append]

/-- To ask for classes is no dealing. -/
theorem dealings_asking_classes {w : World} {qs : List (Nat × Request)}
    (classes : ∀ q ∈ qs, q.2.isClassName) : (w.asking qs).dealings = w.dealings := by
  have none_left : qs.filter (fun r => !r.2.isClassName) = [] := by
    rw [List.filter_eq_nil_iff]
    intro q hq
    rw [classes q hq]
    decide
  rw [dealings_asking, none_left, List.append_nil]

end World

/-- Neither the known constants nor the dealings with hosts differ. -/
structure Undealt (w v : World) : Prop where
  fetched : v.fetched = w.fetched
  dealings : v.dealings = w.dealings

namespace Undealt

/-- Nothing is fetched and nothing dealt with. -/
theorem refl (w : World) : Undealt w w := ⟨rfl, rfl⟩

/-- Two stretches without dealings are one. -/
theorem trans {u v w : World} (h : Undealt u v) (h' : Undealt v w) : Undealt u w :=
  ⟨h'.fetched.trans h.fetched, h'.dealings.trans h.dealings⟩

end Undealt

namespace ScriptM

variable {α β : Type}

/-- The operation has no dealings with a host, whether it succeeds or fails. -/
def Discreet (act : ScriptM α) : Prop := ∀ w, Undealt w (act w).2

/-- The operation only asks for the classes of objects, and what was asked before does not matter to
it. -/
def Inquires (act : ScriptM α) : Prop :=
  ∀ w, ∃ qs : List (Nat × Request), (∀ q ∈ qs, q.2.isClassName) ∧
    ∀ rs, act (w.asking rs) = ((act w).1, w.asking (rs ++ qs))

/-! ## Discreet operations -/

namespace Discreet

theorem pure (a : α) : Discreet (Pure.pure a : ScriptM α) := fun w => .refl w

theorem throw (e : ScriptError) : Discreet (MonadExcept.throw e : ScriptM α) := fun w => .refl w

theorem get : Discreet (MonadState.get : ScriptM World) := fun w => .refl w

/-- A change that deals with nothing. -/
theorem change {f : World → World} (h : ∀ w, Undealt w (f w)) :
    Discreet (modify f : ScriptM Unit) := h

/-- One discreet operation after another. -/
theorem bind {a : ScriptM α} {f : α → ScriptM β} (ha : Discreet a) (hf : ∀ x, Discreet (f x)) :
    Discreet (a >>= f) := by
  intro w
  have before := ha w
  rw [run_bind]
  split
  next x v h =>
    rw [h] at before
    exact before.trans (hf x v)
  next e v h => rwa [h] at before

theorem ite {p : Prop} [Decidable p] {a b : ScriptM α} (ha : Discreet a) (hb : Discreet b) :
    Discreet (if p then a else b) := by
  split
  · exact ha
  · exact hb

/-- A step that is taken only under a condition. -/
theorem optional {p : Prop} [Decidable p] {a : ScriptM Unit} {rest : Unit → ScriptM β}
    (ha : Discreet a) (hrest : ∀ u, Discreet (rest u)) :
    Discreet (if p then a >>= rest else rest ()) :=
  ite (ha.bind hrest) (hrest ())

theorem discard {a : ScriptM α} (ha : Discreet a) : Discreet (Functor.discard a : ScriptM Unit) :=
  ha.bind fun _ => pure _

/-- The state is of no account to hosts. -/
theorem modifyState (f : State → State) : Discreet (ScriptM.modifyState f) :=
  change fun _ => ⟨rfl, rfl⟩

theorem push (v : Value) : Discreet (ScriptM.push v) := modifyState _

theorem check (f : State → Except ScriptError α) : Discreet (ScriptM.check f) := by
  intro w
  rw [run_check]
  exact .refl w

theorem pop (count : Nat) : Discreet (ScriptM.pop count) := by
  intro w
  rw [ScriptM.pop, run_onState]
  cases w.state.pop count with
  | ok s => exact ⟨rfl, rfl⟩
  | error e => exact .refl w

/-- Tables are of no account to hosts. -/
theorem changeTable (t : TableId) (f : Table → Except ScriptError Table) :
    Discreet (ScriptM.changeTable t f) := by
  refine get.bind fun w => ?_
  cases f (w.table t) with
  | ok new => exact change fun _ => ⟨rfl, rfl⟩
  | error e => exact throw e

theorem setText (t : TableId) (name : String) (v : Value) : Discreet (ScriptM.setText t name v) :=
  changeTable t fun old => old.set (.string name) v

end Discreet

/-! ## Operations that inquire -/

/-- A host answers the class of an object, and the request is noted. -/
theorem run_askClassName (host : Nat) (id : ObjectId) (w : World) :
    askClassName host id w =
      (.ok ((w.host host).classes.classOf id), w.asking [(host, .className id)]) := by
  rw [World.asking_one]
  rfl

namespace Inquires

/-- Only classes were asked for. -/
theorem discreet {act : ScriptM α} (h : Inquires act) : Discreet act := by
  intro w
  obtain ⟨qs, classes, run⟩ := h w
  have ran := run []
  rw [World.asking_nil, List.nil_append] at ran
  rw [ran]
  exact ⟨rfl, World.dealings_asking_classes classes⟩

/-- The state stays. -/
theorem neutral {act : ScriptM α} (h : Inquires act) : Neutral act := by
  intro w _
  obtain ⟨qs, -, run⟩ := h w
  have ran := run []
  rw [World.asking_nil, List.nil_append] at ran
  rw [ran]
  exact ⟨rfl, rfl⟩

/-- An operation that does nothing to the world, and answers alike whatever was requested. -/
theorem of_answers {act : ScriptM α} {answer : World → Except ScriptError α}
    (run : ∀ w, act w = (answer w, w)) (same : ∀ w rs, answer (w.asking rs) = answer w) :
    Inquires act := by
  intro w
  refine ⟨[], fun q hq => absurd hq List.not_mem_nil, fun rs => ?_⟩
  rw [run, run, same, List.append_nil]

/-- A value that is returned is no inquiry. -/
theorem pure (a : α) : Inquires (Pure.pure a : ScriptM α) :=
  of_answers (fun _ => rfl) fun _ _ => rfl

/-- An error is no inquiry. -/
theorem throw (e : ScriptError) : Inquires (MonadExcept.throw e : ScriptM α) :=
  of_answers (fun _ => rfl) fun _ _ => rfl

/-- One inquiry after another asks for what both of them ask for. -/
theorem bind {a : ScriptM α} {f : α → ScriptM β} (ha : Inquires a) (hf : ∀ x, Inquires (f x)) :
    Inquires (a >>= f) := by
  intro w
  obtain ⟨qs, classes, first⟩ := ha w
  have start := first []
  rw [World.asking_nil, List.nil_append] at start
  cases hr : (a w).1 with
  | error e =>
    refine ⟨qs, classes, fun rs => ?_⟩
    rw [run_bind, run_bind, first, start, hr]
  | ok x =>
    -- the second one asks the same in the world in which the first one has asked
    obtain ⟨qs', classes', second⟩ := hf x w
    refine ⟨qs ++ qs', fun q hq => (List.mem_append.mp hq).elim (classes q) (classes' q),
      fun rs => ?_⟩
    rw [run_bind, run_bind, first, start, hr]
    dsimp only
    rw [second, second, List.append_assoc]

/-- What is looked up first does not depend on what was requested. -/
theorem reading {f : World → ScriptM α} (same : ∀ w rs, f (w.asking rs) = f w)
    (h : ∀ w, Inquires (f w)) : Inquires (MonadState.get >>= f) := by
  intro w
  obtain ⟨qs, classes, run⟩ := h w w
  refine ⟨qs, classes, fun rs => ?_⟩
  rw [run_bind, run_bind, run_get, run_get]
  dsimp only
  rw [same, run]

/-- To read the state is no inquiry. -/
theorem state {f : State → ScriptM α} (h : ∀ s, Inquires (f s)) :
    Inquires (ScriptM.state >>= f) := by
  intro w
  obtain ⟨qs, classes, run⟩ := h w.state w
  exact ⟨qs, classes, run⟩

theorem ite {p : Prop} [Decidable p] {a b : ScriptM α} (ha : Inquires a) (hb : Inquires b) :
    Inquires (if p then a else b) := by
  split
  · exact ha
  · exact hb

/-- An inquiry whose error is caught. -/
theorem outcome {a : ScriptM α} (ha : Inquires a) : Inquires (ScriptM.outcome a) := by
  intro w
  obtain ⟨qs, classes, run⟩ := ha w
  refine ⟨qs, classes, fun rs => ?_⟩
  rw [run_outcome, run_outcome, run]

/-- The context is looked up without asking a host. -/
theorem context : Inquires ScriptM.context := by
  refine state fun s => ?_
  cases s.context with
  | some c => exact pure c
  | none => exact throw _

theorem registry (c : Context) : Inquires (ScriptM.registry c) :=
  reading (fun _ _ => rfl) fun _ => pure _

/-- The answer that a host has given needs no further request. -/
theorem granted (answer : Except HostError α) : Inquires (ScriptM.granted answer) := by
  cases answer with
  | ok a => exact pure a
  | error e => exact throw _

/-- The one question that is asked. -/
theorem askClassName (host : Nat) (id : ObjectId) : Inquires (ScriptM.askClassName host id) := by
  intro w
  refine ⟨[(host, .className id)], fun q hq => ?_, fun rs => ?_⟩
  · rw [List.mem_singleton.mp hq]
    rfl
  · rw [run_askClassName, run_askClassName, World.asking_asking]
    rfl

/-! ## Arguments on the way in -/

/-- What has not been found is an error, without a request. -/
theorem demand (index : Int) (expected : String) (found : Option α) :
    Inquires (ScriptM.demand index expected found) := by
  cases found with
  | some a => exact pure a
  | none => exact state fun _ => throw _

/-- To check an object, its class is asked for at most once, and nothing else. -/
theorem checkObject (c : Context) (index : Int) (cls : String) :
    Inquires (ScriptM.checkObject c index cls) := by
  refine state fun s => ite (pure _) (reading (fun _ _ => rfl) fun w => ?_)
  exact (demand index cls _).bind fun id => (askClassName c.host id).bind fun answer =>
    (granted answer).bind fun _ => (registry c).bind fun _ => ite (pure _) (state fun _ => throw _)

/-- A checked argument depends on the state, the objects and the registry alone. -/
theorem checkArg (c : Context) (index : Int) (type : ArgType) :
    Inquires (ScriptM.checkArg c index type) := by
  refine reading (fun _ _ => rfl) fun w => ?_
  split
  case h_3 => exact checkObject c index _
  case h_4 => exact checkObject c index _
  all_goals exact demand index _ _

/-- To try an argument is to check it. -/
theorem matchesArg (c : Context) (index : Int) (type : ArgType) :
    Inquires (ScriptM.matchesArg c index type) := by
  refine (checkArg c index type).outcome.bind fun r => ?_
  cases r with
  | ok _ => exact pure true
  | error _ => exact pure false

/-- To try all arguments is to check them up to the first that does not fit. -/
theorem matchArgs (c : Context) (types : List ArgType) (index : Int) :
    Inquires (ScriptM.matchArgs c index types) := by
  induction types generalizing index with
  | nil => exact pure true
  | cons type rest ih =>
    exact (matchesArg c index type).bind fun _ => ite (ih (index + 1)) (pure false)

/-- To check all arguments is to check them up to the first that does not fit. -/
theorem checkArgs (c : Context) (types : List ArgType) (index : Int) :
    Inquires (ScriptM.checkArgs c index types) := by
  induction types generalizing index with
  | nil => exact pure []
  | cons type rest ih =>
    exact (checkArg c index type).bind fun _ => (ih (index + 1)).bind fun _ => pure _

/-- To collect the arguments of a call is to check them, if their number is right. -/
theorem collectArgs (c : Context) (first : Int) (m : Registry.Method) :
    Inquires (ScriptM.collectArgs c first m) := by
  refine state fun s => ?_
  dsimp only
  split
  · exact (throw _).bind fun _ => checkArgs c _ first
  · exact checkArgs c _ first

end Inquires

/-! ## Values on the way out -/

namespace Discreet

/-- A metatable is found or made without a host. -/
theorem newMetatable (name : String) : Discreet (ScriptM.newMetatable name) := by
  refine get.bind fun w => ?_
  split
  · exact (push _).bind fun _ => pure _
  · refine Discreet.bind (fun w => ⟨rfl, rfl⟩) fun _ => (modifyState _).bind fun _ =>
      (push _).bind fun _ => pure _

/-- The metatable of a type is found or made without a host. -/
theorem instanceMetatable (name : String) : Discreet (ScriptM.instanceMetatable name) := by
  refine get.bind fun w => ?_
  split
  · exact pure _
  · exact (newMetatable name).discard.bind fun _ => (check _).bind fun _ =>
      (pop 1).bind fun _ => pure _

/-- A userdata is made without a host. -/
theorem pushTagged (p : Payload) (mt : TableId) : Discreet (ScriptM.pushTagged p mt) := by
  refine Discreet.bind (Discreet.bind (fun w => ⟨rfl, rfl⟩) fun _ => (push _).bind fun _ =>
    pure _) fun u => ?_
  exact change fun _ => ⟨rfl, rfl⟩

/-- A math value is pushed without a host. -/
theorem pushBuiltin (v : Variant) : Discreet (ScriptM.pushBuiltin v) :=
  (instanceMetatable _).bind fun mt => pushTagged (.variant v) mt

/-- The shared metatable of objects is found or made without a host. -/
theorem plainObjectMetatable : Discreet ScriptM.plainObjectMetatable := by
  refine (instanceMetatable _).bind fun mt => get.bind fun w => ?_
  dsimp only
  split
  · exact (setText _ _ _).bind fun _ => pure mt
  · exact pure mt

/-- To push an object, only its class is asked for. -/
theorem pushObject (id : ObjectId) : Discreet (ScriptM.pushObject id) := by
  refine Inquires.context.discreet.bind fun c => (Inquires.askClassName _ _).discreet.bind fun a =>
    (Inquires.granted a).discreet.bind fun cls => (Inquires.registry c).discreet.bind fun r =>
      get.bind fun w => ?_
  split
  · exact pushTagged _ _
  · exact plainObjectMetatable.bind fun mt => pushTagged _ _

/-- To push an engine value, at most the class of an object is asked for. -/
theorem pushVariant (v : Variant) : Discreet (ScriptM.pushVariant v) := by
  unfold ScriptM.pushVariant
  split
  case h_7 => exact pushObject _
  case h_8 => exact pushBuiltin v
  all_goals exact push _

theorem pushNative (v : NativeValue) : Discreet (ScriptM.pushNative v) := by
  cases v with
  | math v => exact pushBuiltin v
  | object id => exact pushObject id
  | variant v => exact pushVariant v
  | _ => exact push _

/-- To push a result, at most the class of an object is asked for. -/
theorem pushResult (m : Registry.Method) (result : Variant) :
    Discreet (ScriptM.pushResult m result) :=
  ite (pure 0) ((pushVariant result).bind fun _ => pure 1)

end Discreet

/-! ## An engine value on the stack -/

/-- What registering a name comes to: the metatable that it has, or a new one. -/
theorem run_newMetatable (name : String) (w : World) :
    newMetatable name w =
      match w.metatableNamed name with
      | some mt => (.ok false, { w with state := w.state.push (.table mt) })
      | none =>
        (.ok true,
          { w.registering name with
            state := (w.registering name).state.push (.table ⟨w.tables.size⟩) }) := by
  unfold newMetatable
  rw [run_bind, run_get]
  dsimp only
  cases w.metatableNamed name with
  | some mt => rfl
  | none => rfl

/-- The metatable of a name is registered if it has to be, and nothing else happens. -/
theorem run_instanceMetatable (name : String) {w : World} (framed : w.state.Framed) :
    instanceMetatable name w =
      match w.metatableNamed name with
      | some mt => (.ok mt, w)
      | none => (.ok ⟨w.tables.size⟩, w.registering name) := by
  unfold instanceMetatable
  rw [run_bind, run_get]
  dsimp only
  cases new : w.metatableNamed name with
  | some mt => rfl
  | none =>
    have framed : (w.registering name).state.Framed := framed
    dsimp only
    rw [run_bind, run_discard, run_newMetatable, new]
    dsimp only
    rw [run_bind, run_check, State.checkTable, State.toTable?, State.value?_push framed]
    -- the new table is read off the top of the stack, and taken away from there
    dsimp only [Option.bind, Value.asTable, State.expect]
    rw [run_bind, ScriptM.pop, run_onState, State.pop_push framed]
    rfl

/-- A new userdata that carries a metatable comes on the stack. -/
theorem run_pushTagged (p : Payload) (mt : TableId) (w : World) :
    pushTagged p mt w =
      (.ok (), { w with
        userdata := w.userdata.push ⟨p, some mt⟩
        state := w.state.push (.userdata ⟨w.userdata.size⟩) }) := by
  have tagged : (w.userdata.push ⟨p, none⟩).modify w.userdata.size
      (fun old => { old with metatable := some mt }) = w.userdata.push ⟨p, some mt⟩ := by
    refine Array.ext_getElem? fun i => ?_
    rw [Array.getElem?_modify, Array.getElem?_push, Array.getElem?_push]
    split
    next last => rw [if_pos last.symm, if_pos last.symm, Option.map_some]
    next before => rw [if_neg (Ne.symm before), if_neg (Ne.symm before)]
  rw [← tagged]
  rfl

/-- The metatable of a type is taken off the stack again. -/
theorem Neutral.instanceMetatable (name : String) : Neutral (ScriptM.instanceMetatable name) := by
  intro w framed
  rw [run_instanceMetatable name framed]
  cases w.metatableNamed name with
  | some mt => exact .refl w
  | none => exact ⟨rfl, rfl⟩

/-- The shared metatable of objects is taken off the stack again. -/
theorem Neutral.plainObjectMetatable : Neutral ScriptM.plainObjectMetatable := by
  refine (instanceMetatable _).bind fun mt => get.bind fun w => ?_
  have marked : Neutral (setText mt objectMark (.boolean true)) := changeTable _ _
  dsimp only
  split
  · exact marked.bind fun _ => pure mt
  · exact pure mt

namespace Pushes

/-- A userdata is pushed, one value. -/
theorem pushTagged (p : Payload) (mt : TableId) : Pushes (ScriptM.pushTagged p mt) :=
  fun _ _ => ⟨rfl, _, rfl⟩

/-- A math value is pushed as one value. -/
theorem pushBuiltin (v : Variant) : Pushes (ScriptM.pushBuiltin v) :=
  .after (Neutral.instanceMetatable _) fun mt => pushTagged (.variant v) mt

/-- An object is pushed as one value. -/
theorem pushObject (id : ObjectId) : Pushes (ScriptM.pushObject id) := by
  refine .after Inquires.context.neutral fun c =>
    .after (Inquires.askClassName _ _).neutral fun a =>
      .after (Inquires.granted a).neutral fun cls =>
        .after (Inquires.registry c).neutral fun r => .after .get fun w => ?_
  split
  · exact pushTagged _ _
  · exact .after Neutral.plainObjectMetatable fun mt => pushTagged _ _

/-- An engine value is pushed as one value. -/
theorem pushVariant (v : Variant) : Pushes (ScriptM.pushVariant v) := by
  unfold ScriptM.pushVariant
  split
  case h_7 => exact pushObject _
  case h_8 => exact pushBuiltin v
  all_goals exact push _

end Pushes

end ScriptM

end ScriptBind
