import ScriptBind.Proofs.ClassDb.Life
import ScriptBind.Session.Step

/-!
# How a world evolves

Every operation on a script state is a composition of a few elementary changes: a change of the
stack above the running frame, a new table, an entry of a table, a request to a host, the
activation of a function, and so on. `Evolves` lists them once, with the condition under which
each is made. What holds of every world that a run leads to is then an induction over `Evolves`,
with one case for each elementary change.

Functions are called through a runner, which is a parameter of the operations. `Enters` describes
the worlds in which an operation hands a function to its runner: above the caller's frame, in a
frame of its own, and only while there is room for one more activation. `Returns` leads from the
world in which the runner is done to the one that the operation ends in.

`Evolving` says of an operation that from every world, failed or not, it leads to a world that this
one evolves to. There is one lemma for each way to compose operations, and one for each operation
of the stack, the tables and the metatables.
-/

namespace ScriptBind

/-! ## Elementary changes -/

/-- Whether a request asks for a constant. -/
def Request.isConstant : Request → Bool
  | constant _ _ => true
  | _ => false

/-- What lies below the running frame. -/
def State.floor (s : State) : List Value := s.stack.take s.base

namespace World

/-- The world with another stack. -/
def withStack (w : World) (stack : List Value) : World := { w with state := { w.state with stack } }

/-- The world with another method call in progress. -/
def withNamecall (w : World) (namecall : Option String) : World :=
  { w with state := { w.state with namecall } }

/-- The world with other contents of a table. -/
def putTable (w : World) (t : TableId) (new : Table) : World :=
  { w with tables := w.tables.modify t.index fun _ => new }

/-- The world with another payload of a userdata. -/
def putPayload (w : World) (u : UserdataId) (payload : Payload) : World :=
  { w with userdata := w.userdata.modify u.index fun old => { old with payload } }

/-- The world with another metatable of a userdata. -/
def putTag (w : World) (u : UserdataId) (metatable : Option TableId) : World :=
  { w with userdata := w.userdata.modify u.index fun old => { old with metatable } }

/-- The world in which the function in `slot` has been activated. -/
def entered (w : World) (slot : Nat) (f : FunctionId) : World :=
  let upvalues := (w.functions[f.index]?.map fun g => g.upvalues).getD []
  { w with state := { w.state with frames := ⟨slot + 1, upvalues⟩ :: w.state.frames } }

/-- The world in which the innermost activation is over and `results` stand in place of everything
from `slot` upwards. -/
def left (w : World) (slot : Nat) (results : List Value) : World :=
  { w with
    state :=
      { w.state with
        stack := w.state.stack.take slot ++ results
        frames := w.state.frames.tail } }

/-- The world in which a new metatable is registered under a name. -/
def registering (w : World) (name : String) : World :=
  { w with
    state := { w.state with metatables := Keyed.put name ⟨w.tables.size⟩ w.state.metatables }
    tables := w.tables.push Table.empty }

/-- The constant is the one that its reference stands for: what a registry declares has the type and
the spelling of its entry. -/
def Stands (w : World) (c : Constant) : Prop :=
  match c.ref with
  | .declared registry type key =>
    ∃ b ∈ (w.registry registry).builtins,
      b.hash = type ∧ b.tag = c.type ∧ Keyed.get? key b.constants = some c.name
  | .loose _ => True

/-- The world in which a host has been asked for a constant and its answer is known. -/
def withFetched (w : World) (host : Nat) (c : Constant) : World :=
  { w with
    requests := w.requests.push (host, .constant c.type c.name)
    fetched := Keyed.put c.ref ((w.host host).engine.constant c.type c.name) w.fetched }

end World

/-- `Evolves w v`: elementary changes lead from `w` to `v`. The activation of a function and a
method call in progress are bracketed: what they set is restored when they end. -/
inductive Evolves : World → World → Prop
  | refl (w : World) : Evolves w w
  | trans {u v w : World} (first : Evolves u v) (second : Evolves v w) : Evolves u w
  -- the state
  | stack {w : World} {stack : List Value} (kept : w.state.floor <+: stack) :
      Evolves w (w.withStack stack)
  | data (w : World) (numberData : Option Int64) (textData : Option String)
      (context : Option Context) :
      Evolves w { w with state := { w.state with numberData, textData, context } }
  | register {w : World} {name : String} (new : w.metatableNamed name = none) :
      Evolves w (w.registering name)
  -- what handles refer to
  | newTable (w : World) : Evolves w { w with tables := w.tables.push Table.empty }
  | newFunction (w : World) (f : Function) : Evolves w { w with functions := w.functions.push f }
  | newUserdata (w : World) (p : Payload) :
      Evolves w { w with userdata := w.userdata.push ⟨p, none⟩ }
  | setKey {w : World} {t : TableId} {k : Key} {v : Value} {new : Table}
      (allowed : (w.table t).set k v = .ok new) : Evolves w (w.putTable t new)
  | setMetatable {w : World} {t : TableId} {mt : Option TableId} {new : Table}
      (allowed : (w.table t).setMetatable mt = .ok new) : Evolves w (w.putTable t new)
  | setReadonly (w : World) (t : TableId) (readonly : Bool) :
      Evolves w { w with tables := w.tables.modify t.index fun old => { old with readonly } }
  | setPayload (w : World) (u : UserdataId) (p : Payload) : Evolves w (w.putPayload u p)
  | setTag (w : World) (u : UserdataId) (mt : Option TableId) : Evolves w (w.putTag u mt)
  -- the engine
  | newHost (w : World) (h : Host) : Evolves w { w with hosts := w.hosts.push h }
  | classes {w : World} {host : Nat} {db : ClassDb} (step : (w.host host).classes.Step db) :
      Evolves w (w.setClasses host db)
  | newRegistry (w : World) {d : Api.Document} {r : Registry} (built : Registry.ofApi d = .ok r) :
      Evolves w { w with registries := w.registries.push r }
  | newConstant (w : World) (c : Tag × String) :
      Evolves w { w with constants := w.constants.push c }
  | fetched {w : World} (host : Nat) {c : Constant} (new : w.knownOutcome? c.ref = none)
      (stands : w.Stands c) : Evolves w (w.withFetched host c)
  | request (w : World) (host : Nat) {r : Request} (other : r.isConstant = false) :
      Evolves w { w with requests := w.requests.push (host, r) }
  -- the log
  | log (w : World) (reported : Nat) (muted : Bool) (trace : Array Entry) :
      Evolves w { w with reported, muted, trace }
  -- calls
  | namecall {w v : World} {method : String} (ran : Evolves (w.withNamecall (some method)) v) :
      Evolves w (v.withNamecall w.state.namecall)
  | call {w v : World} {slot : Nat} {f : FunctionId} {results : List Value}
      (low : w.state.base ≤ slot) (high : slot < w.state.stack.length)
      (room : w.state.frames.length < maxCallDepth) (ran : Evolves (w.entered slot f) v) :
      Evolves w (v.left slot results)

/-- `Enters w u`: an operation that starts in `w` may hand a function to its runner in `u`. -/
inductive Enters : World → World → Prop
  | call {w : World} {slot : Nat} {f : FunctionId} (low : w.state.base ≤ slot)
      (high : slot < w.state.stack.length) (room : w.state.frames.length < maxCallDepth) :
      Enters w (w.entered slot f)
  | after {w v u : World} (before : Evolves w v) (enters : Enters v u) : Enters w u
  | namecall {w u : World} {method : String} (enters : Enters (w.withNamecall (some method)) u) :
      Enters w u

/-- `Returns u v`: an operation that got a function run may end in `v` when the function was over in
`u`. -/
inductive Returns : World → World → Prop
  | left (u : World) (slot : Nat) (results : List Value) : Returns u (u.left slot results)
  | before {u v w : World} (returns : Returns u v) (after : Evolves v w) : Returns u w
  | namecall {u v : World} (returns : Returns u v) (namecall : Option String) :
      Returns u (v.withNamecall namecall)

/-! ## The running frame -/

namespace State

/-- The floor is the bottom of the stack. -/
theorem floor_prefix (s : State) : s.floor <+: s.stack := List.take_prefix ..

/-- What lies below a slot of the frame includes the floor. -/
theorem floor_prefix_take {s : State} {k : Nat} (h : s.base ≤ k) : s.floor <+: s.stack.take k :=
  List.take_prefix_take_left h

/-- A stack that starts with the floor still does so below the frame. -/
theorem floor_prefix_floor {s t : State} (frames : t.frames = s.frames)
    (kept : s.floor <+: t.stack) : s.floor <+: t.floor := by
  have hbase : t.base = s.base := by
    unfold base
    rw [frames]
  show s.floor <+: t.stack.take t.base
  rw [hbase, List.prefix_take_iff]
  exact ⟨kept, List.length_take_le ..⟩

end State

namespace Evolves

/-- Every activation that begins also ends. -/
theorem frames_eq {w v : World} (h : Evolves w v) : v.state.frames = w.state.frames := by
  induction h with
  | trans _ _ ih ih' => rw [ih', ih]
  | namecall _ ih => exact ih
  | call _ _ _ _ ih =>
    show List.tail _ = _
    rw [ih]
    rfl
  | _ => rfl

/-- The running frame starts where it did. -/
theorem base_eq {w v : World} (h : Evolves w v) : v.state.base = w.state.base := by
  unfold State.base
  rw [h.frames_eq]

/-- What lies below the running frame stays. -/
theorem floor_prefix {w v : World} (h : Evolves w v) : w.state.floor <+: v.state.stack := by
  induction h with
  | trans first _ ih ih' =>
    exact (State.floor_prefix_floor first.frames_eq ih).trans ih'
  | stack kept => exact kept
  | namecall _ ih => exact ih
  | @call w v slot f results low high _ _ ih =>
    -- the callee's floor is the caller's stack up to the callee itself
    have callee : w.state.stack.take (slot + 1) <+: v.state.stack := ih
    have below : w.state.stack.take slot <+: v.state.stack.take slot := by
      rw [List.prefix_take_iff]
      exact ⟨(List.take_prefix_take_left (Nat.le_succ slot)).trans callee, List.length_take_le ..⟩
    exact ((State.floor_prefix_take low).trans below).trans (List.prefix_append ..)
  | _ => exact State.floor_prefix _

end Evolves

/-! ## Running composed operations -/

namespace ScriptM

variable {α β : Type}

/-- The second operation runs on what the first one leaves, unless that fails. -/
theorem run_bind (a : ScriptM α) (f : α → ScriptM β) (w : World) :
    (a >>= f) w =
      match a w with
      | (.ok x, v) => f x v
      | (.error e, v) => (.error e, v) := by
  show (StateT.bind a (ExceptT.bindCont f) : StateM World _) w = _
  unfold StateT.bind
  obtain ⟨r, v⟩ := a w
  cases r <;> rfl

/-- A composed operation that succeeds has succeeded at first, and then again. -/
theorem run_bind_eq_ok {a : ScriptM α} {f : α → ScriptM β} {w v : World} {y : β} :
    (a >>= f) w = (.ok y, v) ↔ ∃ x u, a w = (.ok x, u) ∧ f x u = (.ok y, v) := by
  rw [run_bind]
  constructor
  · intro ok
    split at ok
    next x u hu => exact ⟨x, u, hu, ok⟩
    next => cases ok
  · rintro ⟨x, u, hu, ok⟩
    rw [hu]
    exact ok

/-- A value that is returned leaves the world as it is. -/
@[simp] theorem run_pure (a : α) (w : World) : (pure a : ScriptM α) w = (.ok a, w) := rfl

/-- An error leaves the world as it is: what was done before it stays done. -/
@[simp] theorem run_throw (e : ScriptError) (w : World) :
    (throw e : ScriptM α) w = (.error e, w) := rfl

@[simp] theorem run_get (w : World) : (get : ScriptM World) w = (.ok w, w) := rfl

@[simp] theorem run_modify (f : World → World) (w : World) :
    (modify f : ScriptM Unit) w = (.ok (), f w) := rfl

@[simp] theorem run_state (w : World) : state w = (.ok w.state, w) := rfl

@[simp] theorem run_modifyState (f : State → State) (w : World) :
    modifyState f w = (.ok (), { w with state := f w.state }) := rfl

@[simp] theorem run_outcome (a : ScriptM α) (w : World) :
    outcome a w = (.ok (a w).1, (a w).2) := rfl

/-- To drop the result of an operation changes neither its effects nor its failure. -/
theorem run_discard (a : ScriptM α) (w : World) :
    (discard a : ScriptM Unit) w =
      match a w with
      | (.ok _, v) => (.ok (), v)
      | (.error e, v) => (.error e, v) :=
  run_bind a (fun _ => pure ()) w

/-- A check reads the state, and changes nothing even when it fails. -/
theorem run_check (f : State → Except ScriptError α) (w : World) : check f w = (f w.state, w) := by
  unfold check
  rw [run_bind, run_state]
  dsimp only
  cases f w.state <;> rfl

/-- An operation of the state changes nothing but the state, and nothing at all when it fails. -/
theorem run_onState (f : State → Except ScriptError State) (w : World) :
    onState f w =
      match f w.state with
      | .ok s => (.ok (), { w with state := s })
      | .error e => (.error e, w) := by
  unfold onState
  rw [run_bind, run_state]
  dsimp only
  cases f w.state <;> rfl

/-- A value is taken off the stack, and nothing happens when there is none. -/
theorem run_popValue (w : World) :
    popValue w =
      match w.state.popValue with
      | .ok (v, s) => (.ok v, { w with state := s })
      | .error e => (.error e, w) := by
  unfold popValue
  rw [run_bind, run_check]
  cases w.state.popValue <;> rfl

end ScriptM

/-- What follows an operation starts in the world that it leaves. -/
theorem Evolves.bind {α β : Type} {a : ScriptM α} {f : α → ScriptM β} {w : World}
    (ha : Evolves w (a w).2) (hf : ∀ x v, a w = (.ok x, v) → Evolves v (f x v).2) :
    Evolves w ((a >>= f) w).2 := by
  rw [ScriptM.run_bind]
  split
  next x v h =>
    rw [h] at ha
    exact ha.trans (hf x v h)
  next e v h => rwa [h] at ha

/-- From every world, the operation leads to one that this world evolves to. -/
def Evolving {α : Type} (act : ScriptM α) : Prop := ∀ w, Evolves w (act w).2

namespace Evolving

variable {α β : Type}

/-- The world after an operation has evolved from the one before. -/
theorem ran {act : ScriptM α} (evolving : Evolving act) {w v : World} {r : Except ScriptError α}
    (ended : act w = (r, v)) : Evolves w v := by
  have evolves := evolving w
  rwa [ended] at evolves

/-- A value that is returned is no change. -/
theorem pure (a : α) : Evolving (Pure.pure a : ScriptM α) := fun w => .refl w

/-- An error is no change. -/
theorem throw (e : ScriptError) : Evolving (MonadExcept.throw e : ScriptM α) := fun w => .refl w

theorem get : Evolving (MonadState.get : ScriptM World) := fun w => .refl w

/-- One operation after another, or only the first one if it fails. -/
theorem bind {a : ScriptM α} {f : α → ScriptM β} (ha : Evolving a) (hf : ∀ x, Evolving (f x)) :
    Evolving (a >>= f) :=
  fun w => .bind (ha w) fun x v _ => hf x v

/-- One of two operations. -/
theorem ite {p : Prop} [Decidable p] {a b : ScriptM α} (ha : Evolving a) (hb : Evolving b) :
    Evolving (if p then a else b) := by
  split
  · exact ha
  · exact hb

/-- A step that is taken only under a condition. -/
theorem optional {p : Prop} [Decidable p] {a : ScriptM Unit} {rest : Unit → ScriptM β}
    (ha : Evolving a) (hrest : ∀ u, Evolving (rest u)) :
    Evolving (if p then a >>= rest else rest ()) :=
  ite (ha.bind hrest) (hrest ())

/-- An operation that only looks at the world. -/
theorem reads (f : World → α) : Evolving (do return f (← MonadState.get) : ScriptM α) :=
  get.bind fun _ => pure _

/-- An operation whose result is dropped. -/
theorem discard {a : ScriptM α} (ha : Evolving a) : Evolving (Functor.discard a : ScriptM Unit) :=
  ha.bind fun _ => pure _

/-- An operation whose error is caught keeps what it has done. -/
theorem outcome {a : ScriptM α} (ha : Evolving a) : Evolving (ScriptM.outcome a) := fun w => ha w

/-- An outcome that is passed on. -/
theorem passed (r : Except ScriptError α) :
    Evolving (match r with
      | .ok a => Pure.pure a
      | .error e => MonadExcept.throw e : ScriptM α) := by
  cases r with
  | ok a => exact pure a
  | error e => exact throw e

/-- A change of the world by elementary changes. -/
theorem change {f : World → World} (h : ∀ w, Evolves w (f w)) :
    Evolving (modify f : ScriptM Unit) := h

/-- An operation for each entry of a list, up to the first that fails. -/
theorem forM {a : α → ScriptM Unit} (h : ∀ x, Evolving (a x)) (xs : List α) :
    Evolving (xs.forM a) := by
  induction xs with
  | nil => exact pure ()
  | cons x rest ih => exact (h x).bind fun _ => ih

end Evolving

/-! ## The stack -/

namespace State

/-- The state is another one with its stack changed above the running frame only. -/
def Reshapes (s s' : State) : Prop := ∃ stack, s.floor <+: stack ∧ s' = { s with stack }

/-- A push leaves what lies below. -/
theorem reshapes_push (s : State) (v : Value) : s.Reshapes (s.push v) :=
  ⟨_, s.floor_prefix.trans (List.prefix_append ..), rfl⟩

/-- The stack is cut off within the running frame. -/
theorem reshapes_truncate {s : State} {k : Nat} (h : s.base ≤ k) : s.Reshapes (s.truncate k) :=
  ⟨_, floor_prefix_take h, rfl⟩

/-- A value is moved up within the running frame. -/
theorem reshapes_insertAt {s : State} {k : Nat} (h : s.base ≤ k) (v : Value) :
    s.Reshapes (s.insertAt k v) :=
  ⟨_, (floor_prefix_take h).trans (List.prefix_append ..), rfl⟩

/-- The running frame is cut off or filled with nil. -/
theorem reshapes_resize {s : State} {k : Nat} (h : s.base ≤ k) : s.Reshapes (s.resize k) :=
  ⟨_, (floor_prefix_take h).trans (List.prefix_append ..), rfl⟩

/-- Dropping values of the frame leaves the floor, even in a state whose frame starts above the
stack. -/
theorem reshapes_drop {s : State} {n : Nat} (h : n ≤ s.top) :
    s.Reshapes (s.truncate (s.stack.length - n)) := by
  have htop : s.top = s.stack.length - s.base := rfl
  by_cases hb : s.base ≤ s.stack.length
  · exact reshapes_truncate (by omega)
  · refine ⟨_, ?_, rfl⟩
    have hn : n = 0 := by omega
    rw [hn, Nat.sub_zero, List.take_length]
    exact s.floor_prefix

/-- What reshapes the frame twice reshapes it. -/
theorem Reshapes.trans {s t u : State} (h : s.Reshapes t) (h' : t.Reshapes u) : s.Reshapes u := by
  obtain ⟨stack, kept, rfl⟩ := h
  obtain ⟨stack', kept', rfl⟩ := h'
  exact ⟨stack', (floor_prefix_floor (s := s) (t := { s with stack }) rfl kept).trans kept', rfl⟩

/-- A slot that is accepted lies within the running frame. -/
theorem slot_eq_ok {s : State} {index : Int} {k : Nat} (h : s.slot index = .ok k) :
    s.slot? index = some k := by
  unfold slot at h
  split at h
  next j hj =>
    cases h
    exact hj
  next => cases h

/-- A value of the frame is copied to the top. -/
theorem reshapes_of_pushValue {s s' : State} {index : Int} (h : s.pushValue index = .ok s') :
    s.Reshapes s' := by
  unfold pushValue at h
  cases hk : s.slot index with
  | error e =>
    rw [hk] at h
    cases h
  | ok k =>
    rw [hk] at h
    cases h
    exact reshapes_push s _

/-- Values are taken off only down to the base of the frame. -/
theorem reshapes_of_pop {s s' : State} {n : Nat} (h : s.pop n = .ok s') : s.Reshapes s' := by
  unfold pop at h
  split at h
  next hn =>
    cases h
    exact reshapes_drop hn
  next => cases h

/-- The top is taken off only above the base of the frame. -/
theorem reshapes_of_popValue {s s' : State} {v : Value} (h : s.popValue = .ok (v, s')) :
    s.Reshapes s' := by
  unfold popValue at h
  split at h
  next => cases h
  next hn =>
    cases h
    exact reshapes_drop (by omega)

/-- A value is removed within the frame. -/
theorem reshapes_of_remove {s s' : State} {index : Int} (h : s.remove index = .ok s') :
    s.Reshapes s' := by
  unfold remove at h
  cases hk : s.slot index with
  | error e =>
    rw [hk] at h
    cases h
  | ok k =>
    rw [hk] at h
    cases h
    refine ⟨_, ?_, rfl⟩
    rw [List.eraseIdx_eq_take_drop_succ]
    exact (floor_prefix_take (base_le_of_slot? (slot_eq_ok hk))).trans (List.prefix_append ..)

/-- The top is moved within the frame. -/
theorem reshapes_of_insert {s s' : State} {index : Int} (h : s.insert index = .ok s') :
    s.Reshapes s' := by
  unfold insert at h
  cases hk : s.slot index with
  | error e =>
    rw [hk] at h
    cases h
  | ok k =>
    rw [hk] at h
    cases hp : s.popValue with
    | error e =>
      simp only [hp, bind, Except.bind] at h
      cases h
    | ok r =>
      obtain ⟨v, t⟩ := r
      simp only [hp, bind, Except.bind] at h
      cases h
      -- the value is taken from the top and put back further down, within the frame
      have ht := reshapes_of_popValue hp
      have hb : t.base ≤ k := by
        obtain ⟨stack, -, rfl⟩ := ht
        exact base_le_of_slot? (s := s) (slot_eq_ok hk)
      exact ht.trans (reshapes_insertAt hb v)

/-- The height of the frame is set, but never below its base. -/
theorem reshapes_of_setTop {s s' : State} {index : Int} (h : s.setTop index = .ok s') :
    s.Reshapes s' := by
  unfold setTop at h
  split at h
  · cases h
    exact reshapes_resize (Nat.le_add_right ..)
  · cases hk : s.slot index with
    | error e =>
      rw [hk] at h
      cases h
    | ok k =>
      rw [hk] at h
      cases h
      have := base_le_of_slot? (slot_eq_ok hk)
      exact reshapes_resize (by omega)

end State

/-- What reshapes the frame is an elementary change. -/
theorem Evolves.reshape {w : World} {s : State} (h : w.state.Reshapes s) :
    Evolves w { w with state := s } := by
  obtain ⟨stack, kept, rfl⟩ := h
  exact .stack kept

namespace Evolving

open ScriptM

variable {α : Type}

/-- The state is only read. -/
theorem state : Evolving ScriptM.state := reads _

/-- A question about the state changes nothing. -/
theorem query (f : State → α) : Evolving (ScriptM.query f) := state.bind fun _ => pure _

/-- A check of the state changes nothing. -/
theorem check (f : State → Except ScriptError α) : Evolving (ScriptM.check f) :=
  state.bind fun s => passed (f s)

/-- An operation that cannot fail and reshapes the frame. -/
theorem reshaping {f : State → State} (h : ∀ s : State, s.Reshapes (f s)) :
    Evolving (modifyState f) :=
  change fun w => .reshape (h w.state)

/-- An operation that reshapes the frame where it succeeds. -/
theorem onState {f : State → Except ScriptError State}
    (h : ∀ {s s' : State}, f s = .ok s' → s.Reshapes s') : Evolving (ScriptM.onState f) := by
  intro w
  rw [run_onState]
  split
  next s hs => exact .reshape (h hs)
  next => exact .refl w

theorem push (v : Value) : Evolving (ScriptM.push v) := reshaping fun s => s.reshapes_push v

theorem pop (n : Nat) : Evolving (ScriptM.pop n) := onState State.reshapes_of_pop

theorem popValue : Evolving ScriptM.popValue := by
  intro w
  rw [run_popValue]
  split
  next v s hs => exact .reshape (State.reshapes_of_popValue hs)
  next => exact .refl w

/-! ## Tables and metatables -/

/-- A new table is empty. -/
theorem allocTable : Evolving ScriptM.allocTable := fun w => .newTable w

theorem allocFunction (f : Function) : Evolving (ScriptM.allocFunction f) :=
  fun w => .newFunction w f

theorem allocUserdata (p : Payload) : Evolving (ScriptM.allocUserdata p) :=
  fun w => .newUserdata w p

/-- A change that a table may refuse. -/
theorem changeTable {t : TableId} {f : Table → Except ScriptError Table}
    (h : ∀ {w : World} {new : Table}, f (w.table t) = .ok new → Evolves w (w.putTable t new)) :
    Evolving (ScriptM.changeTable t f) := by
  intro w
  unfold ScriptM.changeTable
  rw [run_bind, run_get]
  dsimp only
  cases hf : f (w.table t) with
  | ok new => exact h hf
  | error e => exact .refl w

/-- An entry is made in a table unless the table refuses it. -/
theorem setKey (t : TableId) (k : Key) (v : Value) : Evolving (ScriptM.setKey t k v) :=
  changeTable .setKey

theorem setText (t : TableId) (name : String) (v : Value) : Evolving (ScriptM.setText t name v) :=
  setKey t (.string name) v

/-- A lock is set or taken away. -/
theorem setReadonly (t : TableId) (readonly : Bool) : Evolving (ScriptM.setReadonly t readonly) :=
  fun w => .setReadonly w t readonly

/-- A metatable is attached to a table that allows it, or to a userdata. -/
theorem attach (target : Value) (mt : Option TableId) : Evolving (ScriptM.attach target mt) := by
  cases target with
  | table t => exact changeTable .setMetatable
  | userdata u => exact fun w => .setTag w u mt
  | _ => exact throw _

theorem pushNewTable : Evolving ScriptM.pushNewTable :=
  allocTable.bind fun _ => (push _).bind fun _ => pure _

theorem pushFunction (f : Function) : Evolving (ScriptM.pushFunction f) :=
  (allocFunction f).bind fun _ => push _

theorem pushUserdata (p : Payload) : Evolving (ScriptM.pushUserdata p) :=
  (allocUserdata p).bind fun _ => (push _).bind fun _ => pure _

theorem pushHandler (name : String) (h : Handler) (upvalues : List Value) :
    Evolving (ScriptM.pushHandler name h upvalues) :=
  pushFunction _

/-- The top is entered in the table at an index, which is found before the value is taken off. -/
theorem setField (index : Int) (key : String) : Evolving (ScriptM.setField index key) :=
  (check _).bind fun t => popValue.bind fun v => setText t key v

/-- The top becomes a global. -/
theorem setGlobal (name : String) : Evolving (ScriptM.setGlobal name) :=
  popValue.bind fun v => state.bind fun s => setText s.globals name v

/-- The top, a table or nil, becomes the metatable of a value. -/
theorem setMetatable (index : Int) : Evolving (ScriptM.setMetatable index) := by
  refine (query _).bind fun target => popValue.bind fun v => ?_
  cases v with
  | nil => exact attach target none
  | table mt => exact attach target (some mt)
  | _ => exact throw _

/-- A name gets a new metatable if it has none, and the metatable is pushed. -/
theorem newMetatable (name : String) : Evolving (ScriptM.newMetatable name) := by
  intro w
  unfold ScriptM.newMetatable
  rw [run_bind, run_get]
  dsimp only
  cases hm : w.metatableNamed name with
  | some mt => exact (push _).bind (fun _ => pure _) w
  | none => exact (Evolves.register hm).trans ((push _).bind (fun _ => pure _) _)

/-- The metatable of a name is pushed, or nil. -/
theorem getMetatable (name : String) : Evolving (ScriptM.getMetatable name) := by
  refine get.bind fun w => ?_
  split
  · exact (push _).bind fun _ => pure _
  · exact (push _).bind fun _ => pure _

/-- A userdata is found by its metatable, and nothing changes. -/
theorem checkUserdata (index : Int) (name : String) :
    Evolving (ScriptM.checkUserdata index name) := by
  refine get.bind fun w => ?_
  split
  · exact pure _
  · exact throw _

end Evolving

end ScriptBind
