import ScriptBind.Proofs.Binding.Dispatch
import ScriptBind.Proofs.Session.Neutrality

/-!
# The contract of a dispatched call

A script calls a static method or a constructor as a function, and a method of a value or an object
through the `__namecall` handler of its metatable. Either way the handler starts in a frame that
holds what the script passed, and `Operation` says what it is due to ask of the host.

Main results:

* `dispatch_contract` — a call performs the operation that is due, once, with as many arguments as
  the script passed, and leaves as many results as the method has. If none is due, it fails without
  dealings with the host.
-/

namespace ScriptBind

namespace ScriptM

/-! ## Calls of handlers -/

/-- A function with a handler runs it. -/
theorem runAt_handler {n : Nat} {f : FunctionId} {h : Handler} {w : World}
    (known : w.handler? f = some h) : runAt (n + 1) f w = h.run w := by
  unfold World.handler? at known
  rw [runAt, run_bind, run_get]
  dsimp only
  -- a function that has a handler has no other code
  cases hg : w.functions[f.index]? with
  | none =>
    rw [hg] at known
    cases known
  | some g =>
    rw [hg] at known
    dsimp only at known ⊢
    cases hc : g.code with
    | handler k =>
      rw [hc] at known
      cases known
      rfl
    | _ =>
      rw [hc] at known
      cases known

/-- How a script calls what is in the slot below the arguments. -/
inductive ScriptCall where
  | function
  | method (name : String)

namespace ScriptCall

/-- What the call does. -/
def run (n args : Nat) (wanted : Option Nat) : ScriptCall → ScriptM Unit
  | function => call (runAt n) args wanted
  | method name => callMethod (runAt n) name args wanted

/-- The function that the call gets run: the one in the slot, or the `__namecall` handler of the
receiver there. -/
def target? (w : World) (slot : Nat) : ScriptCall → Option FunctionId
  | function =>
    match w.state.stack.getD slot .nil with
    | .function f => some f
    | _ => none
  | method _ =>
    match w.metafield (w.state.stack.getD slot .nil) "__namecall" with
    | some (.function f) => some f
    | _ => none

/-- The world in which the function is called: the handler of a method below its receiver, while the
name of the method is known. -/
def called (w : World) (slot : Nat) (f : FunctionId) : ScriptCall → World
  | function => w
  | method name =>
    { w with state := { w.state.insertAt slot (.function f) with namecall := some name } }

/-- How many arguments the function is called with. -/
def passed (args : Nat) : ScriptCall → Nat
  | function => args
  | method _ => args + 1

/-- The handlers that are called in this way. -/
def handlers : ScriptCall → List Handler
  | function => [.builtinStaticCall, .builtinCtor]
  | method _ => [.builtinNamecall, .classNamecall]

end ScriptCall

/-- What a call ends in shows that the handler, which started in the frame of `e`, performed the
operation that is due there, with `given` arguments; or that none was due, and the call failed. -/
def CallDispatches (c : Context) (h : Handler) (given : Nat) (e w : World) (slot : Nat)
    (wanted : Option Nat) (ended : Except ScriptError Unit × World) : Prop :=
  (∃ r args k, Operation e c h r args k ∧ args.length = given ∧
      ended.2.dealings = w.dealings ++ [(c.host, r)] ∧
      (ended.1 = .ok () → ∃ results : List Value, results.length = k ∧
        ended.2.state.stack = w.state.stack.take slot ++ adjust results wanted)) ∨
    (∀ r args k, ¬ Operation e c h r args k) ∧ ended.2.dealings = w.dealings ∧
      ∃ x, ended.1 = .error x

variable {w : World} {c : Context} {h : Handler} {f : FunctionId}

/-- How many arguments go into an operation. -/
theorem Operation.length_eq {e : World} {r : Request} {args : List Variant} {k : Nat}
    (due : Operation e c h r args k) :
    args.length = e.state.top ∧ (h = .builtinStaticCall ∨ h = .builtinCtor) ∨
      args.length = e.state.top - 1 ∧ (h = .builtinNamecall ∨ h = .classNamecall) := by
  cases due with
  | method _ _ _ _ _ accepts => exact .inr ⟨by rw [accepts.length]; omega, .inl rfl⟩
  | static _ _ _ accepts => exact .inl ⟨by rw [accepts.length]; omega, .inl rfl⟩
  | construct _ _ _ fits => exact .inl ⟨fits.1, .inr rfl⟩
  | object _ _ _ _ accepts => exact .inr ⟨by rw [accepts.length]; omega, .inr rfl⟩

/-- A function value is its own callee. -/
theorem callee?_function {slot : Nat} (here : w.state.stack.getD slot .nil = .function f) :
    w.callee? slot = some (f, w) := by
  rw [World.callee?, here]

/-- A call that succeeds leaves what its callee pushed as results. -/
theorem CallEnds.returned_of_ok {run : Runner} {slot : Nat} {wanted : Option Nat} {u : World}
    {stack : List Value} (h : CallEnds run slot wanted w (.ok ()) stack)
    (callee : w.callee? slot = some (f, u)) :
    ∃ results : List Value, (run f (u.entered slot f)).1 = .ok results.length ∧
      stack = w.state.stack.take slot ++ adjust results wanted := by
  cases h with
  | @returned g x v pushed callee' _ ran enough =>
    cases callee.symm.trans callee'
    refine ⟨v.state.stack.drop (v.state.stack.length - pushed), ?_, rfl⟩
    have htop : v.state.top ≤ v.state.stack.length := Nat.sub_le ..
    have length : v.state.stack.length - (v.state.stack.length - pushed) = pushed := by omega
    rw [ran, List.length_drop, length]

/-- A call of a handler dispatches. -/
theorem call_dispatches (n : Nat) {args given : Nat} (wanted : Option Nat)
    (dispatcher : h ∈ dispatchers) (context : w.state.context = some c)
    (held : args < w.state.top) (room : w.state.frames.length < maxCallDepth)
    (here : w.state.stack.getD (slotBelow w args) .nil = .function f)
    (known : w.handler? f = some h)
    (length : ∀ r xs k, Operation (w.entered (slotBelow w args) f) c h r xs k →
      xs.length = given) :
    CallDispatches c h given (w.entered (slotBelow w args) f) w (slotBelow w args) wanted
      (call (runAt (n + 1)) args wanted w) := by
  have callee := callee?_function here
  have ran : runAt (n + 1) f (w.entered (slotBelow w args) f) =
      h.run (w.entered (slotBelow w args) f) := runAt_handler known
  have dispatches : Dispatches (Operation (w.entered (slotBelow w args) f) c h) c.host
      (w.entered (slotBelow w args) f) (h.run (w.entered (slotBelow w args) f)) :=
    handler_dispatch dispatcher context
  have ends := call_ends (n + 1) wanted held
  -- to leave the frame is no dealing
  have dealt : (call (runAt (n + 1)) args wanted w).2.dealings =
      (runAt (n + 1) f (w.entered (slotBelow w args) f)).2.dealings := by
    rw [run_call_callee _ wanted held callee, run_invoke, if_neg (Nat.not_le_of_lt room)]
    obtain ⟨r, v⟩ := runAt (n + 1) f (w.entered (slotBelow w args) f)
    cases r with
    | error e => rfl
    | ok pushed =>
      dsimp only
      split <;> rfl
  rw [ran] at dealt
  rcases dispatches with ⟨r, xs, k, due, performed, answers⟩ | ⟨none_due, silent, e, failed⟩
  · refine .inl ⟨r, xs, k, due, length r xs k due, dealt.trans performed, fun ok => ?_⟩
    rw [ok] at ends
    obtain ⟨results, answered, stack⟩ := ends.returned_of_ok callee
    rw [ran] at answered
    exact ⟨results, answers _ answered, stack⟩
  · refine .inr ⟨none_due, dealt.trans silent, ?_⟩
    cases outcome : (call (runAt (n + 1)) args wanted w).1 with
    | error x => exact ⟨x, rfl⟩
    | ok _ =>
      rw [outcome] at ends
      obtain ⟨results, answered, -⟩ := ends.returned_of_ok callee
      rw [ran, failed] at answered
      cases answered

namespace ScriptCall

variable {how : ScriptCall} {args slot : Nat}

theorem callee_of_target (target : function.target? w slot = some f) :
    w.state.stack.getD slot .nil = .function f := by
  unfold target? at target
  dsimp only at target
  split at target
  next g found =>
    cases target
    exact found
  next => cases target

theorem handler_of_target {name : String} (target : (method name).target? w slot = some f) :
    w.metafield (w.state.stack.getD slot .nil) "__namecall" = some (.function f) := by
  unfold target? at target
  dsimp only at target
  split at target
  next g found =>
    cases target
    exact found
  next => cases target

/-- The function is called in the slot of what the script calls, and nothing below it has moved. -/
structure CalledIn (w : World) (slot : Nat) (f : FunctionId) (how : ScriptCall) (args : Nat) :
    Prop where
  held : how.passed args < (how.called w slot f).state.top
  slot_eq : slotBelow (how.called w slot f) (how.passed args) = slot
  below : (how.called w slot f).state.stack.take slot = w.state.stack.take slot
  here : (how.called w slot f).state.stack.getD slot .nil = .function f

theorem calledIn (held : args < w.state.top)
    (target : how.target? w (slotBelow w args) = some f) :
    CalledIn w (slotBelow w args) f how args := by
  obtain ⟨low, high⟩ := State.slot_bounds held
  cases how with
  | function => exact ⟨held, rfl, rfl, callee_of_target target⟩
  | method name =>
    -- the handler goes below the receiver, which becomes its first argument
    have hslot : slotBelow w args + (args + 1) = w.state.stack.length := by
      have below : slotBelow w args = w.state.stack.length - (args + 1) := rfl
      have htop : w.state.top ≤ w.state.stack.length := Nat.sub_le ..
      omega
    obtain ⟨held', slot⟩ := slot_insertAt low hslot (.function f)
    refine ⟨held', slot, take_insertAt (Nat.le_of_lt high) _, ?_⟩
    have length : (w.state.stack.take (slotBelow w args)).length = slotBelow w args :=
      List.length_take_of_le (Nat.le_of_lt high)
    show (w.state.stack.take (slotBelow w args) ++ Value.function f ::
      w.state.stack.drop (slotBelow w args)).getD (slotBelow w args) .nil = .function f
    rw [List.getD_eq_getElem?_getD, List.getElem?_append_right (Nat.le_of_eq length), length,
      Nat.sub_self]
    rfl

/-- A receiver's handler is called below the receiver, while the name of the method is known. -/
theorem run_handled (run : Runner) {name : String} (wanted : Option Nat) (held : args < w.state.top)
    (handler : w.metafield (w.state.stack.getD (slotBelow w args) .nil) "__namecall" =
      some (.function f)) :
    let u := (method name).called w (slotBelow w args) f
    callMethod run name args wanted w =
      ((call run (args + 1) wanted u).1,
        (call run (args + 1) wanted u).2.withNamecall w.state.namecall) := by
  rw [run_callMethod, if_pos held]
  dsimp only
  rw [← slotBelow, handler]
  dsimp only
  rw [run_duringNamecall, run_bind, run_modifyState]
  rfl

/-- The call is that of the function. -/
theorem run_eq (how : ScriptCall) (n : Nat) (wanted : Option Nat) (held : args < w.state.top)
    (target : how.target? w (slotBelow w args) = some f) :
    let ended := call (runAt n) (how.passed args) wanted (how.called w (slotBelow w args) f)
    (how.run n args wanted w).1 = ended.1 ∧
      (how.run n args wanted w).2.dealings = ended.2.dealings ∧
      (how.run n args wanted w).2.state.stack = ended.2.state.stack := by
  cases how with
  | function => exact ⟨rfl, rfl, rfl⟩
  | method name =>
    dsimp only [run]
    rw [run_handled _ wanted held (handler_of_target target)]
    exact ⟨rfl, rfl, rfl⟩

/-- The handlers leave the receiver out when they count arguments, the functions have none. -/
theorem length_eq (handles : h ∈ how.handlers) {e : World} {r : Request} {xs : List Variant}
    {k : Nat} (due : Operation e c h r xs k) (top : e.state.top = how.passed args) :
    xs.length = args := by
  -- a handler counts its receiver if it is called for a method, and only then
  cases how with
  | function =>
    simp only [handlers, List.mem_cons, List.not_mem_nil, or_false] at handles
    rcases due.length_eq with ⟨length, -⟩ | ⟨-, rfl | rfl⟩
    · exact length.trans top
    · rcases handles with h | h <;> cases h
    · rcases handles with h | h <;> cases h
  | method name =>
    simp only [handlers, List.mem_cons, List.not_mem_nil, or_false] at handles
    rcases due.length_eq with ⟨-, rfl | rfl⟩ | ⟨length, -⟩
    · rcases handles with h | h <;> cases h
    · rcases handles with h | h <;> cases h
    · rw [length, top]
      exact Nat.add_sub_cancel args 1

theorem dispatcher (handles : h ∈ how.handlers) : h ∈ dispatchers := by
  cases how with
  | function =>
    simp only [handlers, List.mem_cons, List.not_mem_nil, or_false] at handles
    rcases handles with rfl | rfl <;> decide
  | method name =>
    simp only [handlers, List.mem_cons, List.not_mem_nil, or_false] at handles
    rcases handles with rfl | rfl <;> decide

end ScriptCall

/-- A call that the depth of calls does not allow drops the arguments. -/
theorem run_call_refused (run : Runner) {args : Nat} (wanted : Option Nat)
    (held : args < w.state.top) (full : maxCallDepth ≤ w.state.frames.length)
    (here : w.state.stack.getD (slotBelow w args) .nil = .function f) :
    call run args wanted w =
      (.error (.stackOverflow maxCallDepth), w.cutAt (slotBelow w args)) := by
  rw [run_call_callee run wanted held (callee?_function here), run_invoke, if_pos full]

/-- Every call of a method or constructor by a script that the depth of calls allows performs the
operation that is due, once, with as many arguments as the script passed, and leaves as many results
as the method has. If none is due, it fails and has no dealings with the host. A call that would be
too deep is refused, and has none either. -/
theorem dispatch_contract {args : Nat} (wanted : Option Nat) (how : ScriptCall)
    (context : w.state.context = some c) (held : args < w.state.top)
    (target : how.target? w (slotBelow w args) = some f) (known : w.handler? f = some h)
    (handles : h ∈ how.handlers) :
    (w.state.frames.length < maxCallDepth → ∀ n,
      CallDispatches c h args ((how.called w (slotBelow w args) f).entered (slotBelow w args) f) w
        (slotBelow w args) wanted (how.run (n + 1) args wanted w)) ∧
    (maxCallDepth ≤ w.state.frames.length → ∀ n,
      let ended := how.run n args wanted w
      ended.1 = .error (.stackOverflow maxCallDepth) ∧ ended.2.dealings = w.dealings) := by
  obtain ⟨held', slot, below, here⟩ := ScriptCall.calledIn held target
  -- the context, the functions, the depth and the dealings are those of `w`
  have same : (how.called w (slotBelow w args) f).state.context = some c ∧
      (how.called w (slotBelow w args) f).handler? f = some h ∧
      (how.called w (slotBelow w args) f).state.frames = w.state.frames ∧
      (how.called w (slotBelow w args) f).dealings = w.dealings := by
    cases how with
    | function => exact ⟨context, known, rfl, rfl⟩
    | method name => exact ⟨context, known, rfl, rfl⟩
  have ran := fun n => how.run_eq n wanted held target
  generalize how.called w (slotBelow w args) f = u at held' slot below here same ran ⊢
  obtain ⟨context', known', frames, dealings⟩ := same
  rw [← slot] at here
  constructor
  · intro room n
    obtain ⟨outcome, dealt, stack⟩ := ran (n + 1)
    have top : (u.entered (slotBelow w args) f).state.top = how.passed args := by
      show u.state.stack.length - (slotBelow w args + 1) = how.passed args
      have below : slotBelow u (how.passed args) = u.state.stack.length - (how.passed args + 1) :=
        rfl
      have htop : u.state.top ≤ u.state.stack.length := Nat.sub_le ..
      omega
    have length : ∀ r xs k,
        Operation (u.entered (slotBelow u (how.passed args)) f) c h r xs k → xs.length = args := by
      intro r xs k due
      exact ScriptCall.length_eq handles due (slot ▸ top)
    have dispatches := call_dispatches n wanted (ScriptCall.dispatcher handles) context' held'
      (frames ▸ room) here known' length
    rw [slot] at dispatches
    unfold CallDispatches at dispatches ⊢
    rw [below, dealings] at dispatches
    rw [outcome, dealt, stack]
    exact dispatches
  · intro full n
    obtain ⟨outcome, dealt, -⟩ := ran n
    dsimp only
    rw [outcome, dealt, run_call_refused (runAt n) wanted held' (frames ▸ full) here]
    exact ⟨rfl, dealings⟩

/-- A run that opens a library with one method and pushes a value of its type, with an argument for
the method. -/
def valuePushed : List Session.Event :=
  [.command (.newRuntime
      { api := some (.document ("\x7b\"header\":\x7b\x7d,\"builtin_classes\":[" ++
          "\x7b\"name\":\"Vector2i\",\"methods\":[" ++
          "\x7b\"name\":\"echo\",\"return_type\":\"String\",\"arguments\":[" ++
          "\x7b\"name\":\"text\",\"type\":\"String\"\x7d]\x7d]\x7d]\x7d"))
        shared := false
        host := some (.fresh .plain)
        builtins := true
        classes := false
        enums := false }),
    .command (.run (.pushBuiltin (.vector2i ⟨1, 2⟩))),
    .command (.run (.push (.string "hi")))]

/-- The method is called while the depth allows it. -/
theorem dispatch_contract_echo :
    let w := (Session.after valuePushed).world
    let how := ScriptCall.method "echo"
    w.state.context = some ⟨0, 0⟩ ∧ 1 < w.state.top ∧
      how.target? w (slotBelow w 1) = some ⟨1⟩ ∧ w.handler? ⟨1⟩ = some .builtinNamecall ∧
      .builtinNamecall ∈ how.handlers ∧
      (w.state.frames.length < maxCallDepth → ∀ n,
        CallDispatches ⟨0, 0⟩ .builtinNamecall 1
          ((how.called w (slotBelow w 1) ⟨1⟩).entered (slotBelow w 1) ⟨1⟩) w (slotBelow w 1) none
          (how.run (n + 1) 1 none w)) ∧
      (maxCallDepth ≤ w.state.frames.length → ∀ n,
        let ended := how.run n 1 none w
        ended.1 = .error (.stackOverflow maxCallDepth) ∧ ended.2.dealings = w.dealings) := by
  have facts :
      let w := (Session.after valuePushed).world
      w.state.context = some ⟨0, 0⟩ ∧ 1 < w.state.top ∧
        (ScriptCall.method "echo").target? w (slotBelow w 1) = some ⟨1⟩ ∧
        w.handler? ⟨1⟩ = some .builtinNamecall := by
    decide +kernel
  obtain ⟨context, held, target, known⟩ := facts
  have handles : Handler.builtinNamecall ∈ (ScriptCall.method "echo").handlers := by decide
  exact ⟨context, held, target, known, handles,
    dispatch_contract none (.method "echo") context held target known handles⟩

/-- The same values in a state that is as deep in calls as may be. -/
def tooDeep : World :=
  let w := (Session.after valuePushed).world
  { w with state := { w.state with frames := List.replicate maxCallDepth ⟨0, []⟩ } }

/-- At the greatest depth an operation is due, but the call is refused and performs nothing. -/
theorem due_too_deep :
    let e := ((ScriptCall.method "echo").called tooDeep (slotBelow tooDeep 1) ⟨1⟩).entered
      (slotBelow tooDeep 1) ⟨1⟩
    let ended := callMethod runFunction "echo" 1 none tooDeep
    (∃ r args k, Operation e ⟨0, 0⟩ .builtinNamecall r args k) ∧
      ended.1 = .error (.stackOverflow maxCallDepth) ∧ ended.2.dealings = tooDeep.dealings := by
  intro e ended
  have facts : e.state.context = some ⟨0, 0⟩ ∧ (Handler.builtinNamecall.run e).1 = .ok 1 ∧
      ended.1 = .error (.stackOverflow maxCallDepth) ∧ ended.2.dealings = tooDeep.dealings := by
    decide +kernel
  obtain ⟨context, answers, refused, silent⟩ := facts
  refine ⟨?_, refused, silent⟩
  rcases handler_dispatch (h := .builtinNamecall) (by decide) context with
    ⟨r, args, k, due, -⟩ | ⟨-, -, x, failed⟩
  · exact ⟨r, args, k, due⟩
  · rw [answers] at failed
    cases failed

end ScriptM

end ScriptBind
