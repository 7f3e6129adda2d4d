import ScriptBind.Session.Basic
import ScriptBind.Proofs.Script.Words
import ScriptBind.Proofs.Session.Passing

/-!
# The contract of a call

A call replaces a function and its arguments by the results, or drops them. What lies below the
function belongs to the caller: the function cannot move it, not even for a while, whatever its body
does and however deep its own calls nest.

Before a call looks at the stack it computes, of the number of its arguments, how many values it takes
and which index it would report. For the greatest count and for counts with the lowest 32 bits
`2 ^ 31` this does not fit the words of the machine, and the program ends there.

Main results:

* `asks_call`, `callee_of_asks_call` — a call gets its callee run in a frame of its own, and nothing
  else.
* `call_contract` — the outcome, the stack and the frames after a call, and the caller's part of the
  stack at every moment of it.
-/

namespace ScriptBind

namespace ScriptM

theorem length_adjust (results : List Value) (k : Nat) : (adjust results (some k)).length = k := by
  simp only [adjust, List.length_append, List.length_take, List.length_replicate]
  omega

/-! ## The callee -/

/-- The slot below the top `args` values. -/
def slotBelow (w : World) (args : Nat) : Nat := w.state.stack.length - (args + 1)

/-- A call with a callee activates it. -/
theorem run_call_callee (run : Runner) {args : Nat} (wanted : Option Nat) {w v : World}
    {f : FunctionId} (held : args < w.state.top)
    (callee : w.callee? (slotBelow w args) = some (f, v)) :
    call run args wanted w = invoke run (slotBelow w args) f wanted v := by
  rw [run_call, if_pos held]
  dsimp only
  rw [← slotBelow, callee]

/-- A call without a callee drops the arguments. -/
theorem run_call_none (run : Runner) {args : Nat} (wanted : Option Nat) {w : World}
    (held : args < w.state.top) (callee : w.callee? (slotBelow w args) = none) :
    call run args wanted w =
      (.error (.notCallable (w.state.stack.getD (slotBelow w args) .nil).kind),
        w.cutAt (slotBelow w args)) := by
  rw [run_call, if_pos held]
  dsimp only
  rw [← slotBelow, callee]

/-- The callee is found without touching the frames or what lies below it. -/
theorem callee?_keeps {args : Nat} {w v : World} {f : FunctionId} (held : args < w.state.top)
    (callee : w.callee? (slotBelow w args) = some (f, v)) :
    v.state.frames = w.state.frames ∧
      v.state.stack.take (slotBelow w args) = w.state.stack.take (slotBelow w args) := by
  obtain ⟨low, high⟩ := State.slot_bounds held
  refine ⟨(World.evolves_of_callee? low high callee).1.frames_eq, ?_⟩
  unfold World.callee? at callee
  split at callee
  · cases callee
    rfl
  · split at callee
    · cases callee
      have hlen : (w.state.stack.take (slotBelow w args)).length = slotBelow w args :=
        List.length_take_of_le (Nat.le_of_lt high)
      exact List.take_left' hlen
    · cases callee

/-- A call gets a function run only if the frame holds enough values and the depth allows it, and
then it is the function that the value in the slot stands for. -/
theorem callee_of_asks_call {run : Runner} {args : Nat} {wanted : Option Nat} {w u : World}
    {f : FunctionId} (asks : Asks (fun run => call run args wanted) run w f u) :
    args < w.state.top ∧ w.state.frames.length < maxCallDepth ∧
      ∃ v, w.callee? (slotBelow w args) = some (f, v) ∧ u = v.entered (slotBelow w args) f := by
  obtain ⟨run', same, differs⟩ := asks
  dsimp only at differs
  -- the two runners differ at one function only, so the call has come as far as to run that one
  by_cases held : args < w.state.top
  case neg =>
    rw [run_call, run_call, if_neg held, if_neg held] at differs
    exact absurd rfl differs
  cases callee : w.callee? (slotBelow w args) with
  | none =>
    rw [run_call_none run' wanted held callee, run_call_none run wanted held callee] at differs
    exact absurd rfl differs
  | some found =>
    obtain ⟨g, v⟩ := found
    rw [run_call_callee run' wanted held callee, run_call_callee run wanted held callee,
      run_invoke, run_invoke] at differs
    by_cases full : maxCallDepth ≤ v.state.frames.length
    · rw [if_pos full, if_pos full] at differs
      exact absurd rfl differs
    · by_cases here : (g, v.entered (slotBelow w args) g) = (f, u)
      · cases here
        rw [(callee?_keeps held callee).1] at full
        exact ⟨held, Nat.lt_of_not_le full, v, rfl, rfl⟩
      · rw [if_neg full, if_neg full, same g _ here] at differs
        exact absurd rfl differs

/-- A call that has a callee, and room for one more activation, gets it run. -/
theorem asks_call (run : Runner) {args : Nat} (wanted : Option Nat) {w v : World} {f : FunctionId}
    (held : args < w.state.top) (room : w.state.frames.length < maxCallDepth)
    (callee : w.callee? (slotBelow w args) = some (f, v)) :
    Asks (fun run => call run args wanted) run w f (v.entered (slotBelow w args) f) := by
  classical
  -- another runner fails there, and leaves one more request reported than the call did
  let left := (call run args wanted w).2
  let run' : Runner := fun g x =>
    if (g, x) = (f, v.entered (slotBelow w args) f) then
      (.error (.stackOverflow maxCallDepth), { left with reported := left.reported + 1 })
    else run g x
  refine ⟨run', fun g x other => if_neg other, fun same => ?_⟩
  have full : ¬ maxCallDepth ≤ v.state.frames.length := by
    rw [(callee?_keeps held callee).1]
    exact Nat.not_le_of_lt room
  have hrun' : run' f (v.entered (slotBelow w args) f) = _ := if_pos rfl
  have reported : (call run' args wanted w).2.reported = left.reported + 1 := by
    rw [run_call_callee _ wanted held callee, run_invoke, if_neg full, hrun']
    rfl
  have equal : (call run' args wanted w).2.reported = left.reported :=
    congrArg (fun r => r.2.reported) same
  exact Nat.succ_ne_self _ (reported.symm.trans equal)

/-! ## The contract -/

/-- What a call of the value in `slot` ends in, and the stack that it leaves. -/
inductive CallEnds (run : Runner) (slot : Nat) (wanted : Option Nat) (w : World) :
    Except ScriptError Unit → List Value → Prop
  | notCallable (callee : w.callee? slot = none) :
      CallEnds run slot wanted w (.error (.notCallable (w.state.stack.getD slot .nil).kind))
        (w.state.stack.take slot)
  | tooDeep {f : FunctionId} {u : World} (callee : w.callee? slot = some (f, u))
      (full : maxCallDepth ≤ w.state.frames.length) :
      CallEnds run slot wanted w (.error (.stackOverflow maxCallDepth)) (w.state.stack.take slot)
  | failed {f : FunctionId} {u v : World} {e : ScriptError} (callee : w.callee? slot = some (f, u))
      (room : w.state.frames.length < maxCallDepth)
      (ran : run f (u.entered slot f) = (.error e, v)) :
      CallEnds run slot wanted w (.error e) (w.state.stack.take slot)
  | tooFew {f : FunctionId} {u v : World} {pushed : Nat} (callee : w.callee? slot = some (f, u))
      (room : w.state.frames.length < maxCallDepth)
      (ran : run f (u.entered slot f) = (.ok pushed, v)) (few : v.state.top < pushed) :
      CallEnds run slot wanted w
        (.error (.runtime (v.functionName f ++ " returned " ++ Number.natText pushed ++
          " results but left fewer on the stack")))
        (w.state.stack.take slot)
  | returned {f : FunctionId} {u v : World} {pushed : Nat} (callee : w.callee? slot = some (f, u))
      (room : w.state.frames.length < maxCallDepth)
      (ran : run f (u.entered slot f) = (.ok pushed, v)) (enough : pushed ≤ v.state.top) :
      CallEnds run slot wanted w (.ok ())
        (w.state.stack.take slot ++
          adjust (v.state.stack.drop (v.state.stack.length - pushed)) wanted)

variable {args : Nat} {w : World}

/-- A function that has run is still in its frame, above everything that its caller had on the
stack. -/
theorem ran_above {run : Runner} (hrun : ∀ f, Evolving (run f)) (held : args < w.state.top)
    {f : FunctionId} {u v : World} {r : Except ScriptError Nat}
    (callee : w.callee? (slotBelow w args) = some (f, u))
    (ran : run f (u.entered (slotBelow w args) f) = (r, v)) :
    v.state.top = v.state.stack.length - (slotBelow w args + 1) ∧
      slotBelow w args < v.state.stack.length ∧
      v.state.stack.take (slotBelow w args) = w.state.stack.take (slotBelow w args) := by
  obtain ⟨low, high⟩ := State.slot_bounds held
  have evolves : Evolves (u.entered (slotBelow w args) f) v := (hrun f).ran ran
  have hbase : v.state.base = slotBelow w args + 1 := evolves.base_eq
  -- the callee itself and what lies below it are on the floor of its frame
  have floor : u.state.stack.take (slotBelow w args + 1) <+: v.state.stack := evolves.floor_prefix
  have hu := (World.evolves_of_callee? low high callee).2.2
  have hlen : (u.state.stack.take (slotBelow w args + 1)).length = slotBelow w args + 1 :=
    List.length_take_of_le hu
  refine ⟨by rw [State.top, hbase], ?_, ?_⟩
  · have := floor.length_le
    omega
  · obtain ⟨above, hv⟩ := floor
    have hle : slotBelow w args ≤ (u.state.stack.take (slotBelow w args + 1)).length := by omega
    rw [← hv, List.take_append_of_le_length hle, List.take_take,
      Nat.min_eq_left (Nat.le_succ _), (callee?_keeps held callee).2]

theorem call_ends (n : Nat) (wanted : Option Nat) (held : args < w.state.top) :
    CallEnds (runAt n) (slotBelow w args) wanted w (call (runAt n) args wanted w).1
      (call (runAt n) args wanted w).2.state.stack := by
  cases callee : w.callee? (slotBelow w args) with
  | none =>
    rw [run_call_none _ wanted held callee]
    exact .notCallable callee
  | some found =>
    obtain ⟨f, u⟩ := found
    obtain ⟨hframes, hbelow⟩ := callee?_keeps held callee
    rw [run_call_callee _ wanted held callee, run_invoke, hframes]
    by_cases full : maxCallDepth ≤ w.state.frames.length
    -- the activation is refused, and nothing has run
    · rw [if_pos full]
      simp only [World.cutAt, State.truncate, hbelow]
      exact .tooDeep callee full
    · rw [if_neg full]
      have room := Nat.lt_of_not_le full
      generalize hran : runAt n f (u.entered (slotBelow w args) f) = ran
      obtain ⟨r, v⟩ := ran
      -- the callee's frame is where it was, so it cannot have claimed values of its caller
      obtain ⟨htop, hslot, hv⟩ := ran_above (Evolving.runAt n) held callee hran
      cases r with
      | error e =>
        simp only [World.left, List.append_nil, hv]
        exact .failed callee room hran
      | ok pushed =>
        by_cases few : v.state.stack.length < slotBelow w args + 1 + pushed
        · simp only [if_pos few, World.left, List.append_nil, hv]
          exact .tooFew callee room hran (by omega)
        · simp only [if_neg few, World.left, hv]
          exact .returned callee room hran (by omega)

namespace CallEnds

variable {run : Runner} {slot : Nat} {wanted : Option Nat} {stack : List Value}

/-- Whatever a call ends in, what lay below the function is still there. -/
theorem keeps_below {r : Except ScriptError Unit} (h : CallEnds run slot wanted w r stack) :
    w.state.stack.take slot <+: stack := by
  cases h with
  | returned _ _ _ _ => exact List.prefix_append ..
  | _ => exact List.prefix_refl _

/-- A call that succeeds leaves as many results as were wanted. -/
theorem length_eq {k : Nat} (h : CallEnds run slot (some k) w (.ok ()) stack)
    (high : slot ≤ w.state.stack.length) : stack.length = slot + k := by
  cases h with
  | returned _ _ _ _ => rw [List.length_append, List.length_take_of_le high, length_adjust]

end CallEnds

/-! ## As an instruction -/

theorem run_quietly (act : ScriptM Unit) (w : World) :
    quietly act w = ((act w).1.map fun _ => .nothing, (act w).2) := by
  unfold quietly
  rw [run_bind]
  obtain ⟨r, v⟩ := act w
  cases r <;> rfl

theorem run_exec_call (run : Runner) (args : Nat) (wanted : Option Nat) (w : World) :
    exec run (.call args wanted) w =
      ((call run args wanted w).1.map fun _ => .nothing, (call run args wanted w).2) :=
  run_quietly _ w

/-- At every moment of a call, whatever runs and however deep, the caller's frames and everything
below the function are in place. -/
theorem passes_call {n : Nat} {wanted : Option Nat} {v : World} (held : args < w.state.top)
    (passes : Passes n (.instr (.call args wanted)) w v) :
    w.state.stack.take (slotBelow w args) <+: v.state.stack ∧
      w.state.frames <:+ v.state.frames := by
  cases passes with
  | start => exact ⟨List.take_prefix .., List.suffix_refl _⟩
  | finish =>
    have evolves := (Disciplined.call args wanted).evolving (Evolving.runAt n) w
    rw [Activity.after, run_exec_call]
    exact ⟨(call_ends n wanted held).keeps_below, evolves.frames_eq ▸ List.suffix_refl _⟩
  | @called _ _ f _ u _ asks passes =>
    -- what the instruction asks for is what the call asks for
    obtain ⟨run', same, differs⟩ := asks
    have asks : Asks (fun run => call run args wanted) (runAt n) w f u := by
      refine ⟨run', same, fun same => differs ?_⟩
      dsimp only at same ⊢
      rw [run_exec_call, run_exec_call, same]
    obtain ⟨-, -, x, callee, rfl⟩ := callee_of_asks_call asks
    obtain ⟨hframes, hbelow⟩ := callee?_keeps held callee
    obtain ⟨frames, floor⟩ := passes.above
    -- what lies below the function is on the floor of the function's frame
    have onFloor : x.state.stack.take (slotBelow w args) <+:
        (x.entered (slotBelow w args) f).state.floor :=
      List.take_prefix_take_left (Nat.le_succ _)
    refine ⟨?_, ?_⟩
    · rw [← hbelow]
      exact (onFloor.trans floor).trans v.state.floor_prefix
    · rw [← hframes]
      exact (List.suffix_cons ..).trans frames

/-- A call whose count overflows ends the program. Any other call needs a function and its arguments
in the running frame; without them it is refused and changes nothing. Otherwise it ends as `CallEnds`
says, with as many results as were wanted. The frames are as before, and at every moment of the call,
whatever runs and however deep, the caller's frames and everything below the function are in place.
The running frame lies within the stack at every moment of a run (`Session.Moment.framed`). -/
theorem call_contract (n : Nat) (args : UInt64) (wanted : Option Nat) {w : World}
    (framed : w.state.Framed) :
    if Words.Overflows args.toNat then Words.callee? w.state args.toNat = none
    else if args.toNat < w.state.top then
      let slot := w.state.stack.length - (args.toNat + 1)
      let ended := call (runAt n) args.toNat wanted w
      Words.callee? w.state args.toNat = some (.ok slot) ∧
        CallEnds (runAt n) slot wanted w ended.1 ended.2.state.stack ∧
        (∀ k, ended.1 = .ok () ∧ wanted = some k → ended.2.state.stack.length = slot + k) ∧
        ended.2.state.frames = w.state.frames ∧
        ∀ v, Passes n (.instr (.call args.toNat wanted)) w v →
          w.state.stack.take slot <+: v.state.stack ∧ w.state.frames <:+ v.state.frames
    else
      let refused := ScriptError.invalidIndex (State.countIndex (args.toNat + 1))
      Words.callee? w.state args.toNat = some (.error refused) ∧
        call (runAt n) args.toNat wanted w = (.error refused, w) := by
  have callee := Words.callee?_eq args.toNat_lt framed
  by_cases overflows : Words.Overflows args.toNat
  · rw [if_pos overflows] at callee ⊢
    exact callee
  rw [if_neg overflows] at callee ⊢
  by_cases held : args.toNat < w.state.top
  · rw [if_pos held] at callee ⊢
    have ends := call_ends n wanted held
    have evolves := (Disciplined.call args.toNat wanted).evolving (Evolving.runAt n) w
    refine ⟨callee, ends, ?_, evolves.frames_eq, fun v passes => passes_call held passes⟩
    rintro k ⟨hok, rfl⟩
    rw [hok] at ends
    exact ends.length_eq (Nat.le_of_lt (State.slot_bounds held).2)
  · rw [if_neg held] at callee ⊢
    exact ⟨callee, by rw [run_call, if_neg held]⟩

/-- A function that pushes two values lies above a value of its caller. -/
def pairPushed : World :=
  { Session.emptyWorld with
    functions := #[⟨"pair", .body [.push (.boolean true), .push (.string "second")] 2 false, []⟩]
    state := { State.new ⟨0⟩ with stack := [.string "below", .function ⟨0⟩] } }

/-- Three results are wanted of it, so a nil fills them up. -/
theorem call_contract_pair :
    let ended := call (runAt 1) 0 (some 3) pairPushed
    pairPushed.state.Framed ∧
      CallEnds (runAt 1) 1 (some 3) pairPushed ended.1 ended.2.state.stack ∧
      ended.2.state.frames = pairPushed.state.frames ∧ ended.1 = .ok () ∧
      ended.2.state.stack = [.string "below", .boolean true, .string "second", .nil] := by
  have framed : pairPushed.state.Framed := Nat.zero_le _
  have contract := call_contract 1 0 (some 3) framed
  rw [if_neg (by decide), if_pos (by decide)] at contract
  obtain ⟨-, ends, -, frames, -⟩ := contract
  exact ⟨framed, ends, frames, by decide +kernel, by decide +kernel⟩

/-- A frame without values refuses a call, but at two counts the program ends instead. -/
theorem call_contract_overflows :
    (State.new ⟨0⟩).top = 0 ∧
      Words.callee? (State.new ⟨0⟩) (2 ^ 31) = none ∧
      Words.callee? (State.new ⟨0⟩) (2 ^ 64 - 1) = none ∧
      Session.answer? [.run (.call (2 ^ 31) (some 0))] = none ∧
      Session.answer? [.run (.call (2 ^ 64 - 1) none)] = none := by
  refine ⟨?_, ?_, ?_, ?_, ?_⟩
  all_goals decide +kernel

end ScriptM

end ScriptBind
