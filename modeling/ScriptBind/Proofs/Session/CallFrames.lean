import ScriptBind.Proofs.Binding.Guises
import ScriptBind.Proofs.Session.DispatchContract

/-!
# Calls of functions on the stack

A function that is on the stack below its arguments is called in its own slot. Where what it does is
`Blind`, the outcome depends on nothing but the arguments and what no guise hides, so two such calls
can be compared without a look into the frames.

Main results:

* `run_call_withCall` — the call as one activation.
* `run_invoke_leaves`, `run_invoke_fails`, `run_invoke_blind` — an activation that leaves results, one
  that fails, and one that is blind.
* `run_invoke_alike` — two functions with one blind handler do the same.
-/

namespace ScriptBind

/-- The world with a function on the stack, and arguments above it. -/
def World.withCall (w : World) (f : FunctionId) (args : List Value) : World :=
  w.withStack (w.state.stack ++ .function f :: args)

/-- The world in which the function is running, with the arguments in its frame. -/
def World.callFrame (w : World) (f : FunctionId) (args : List Value) : World :=
  (w.withCall f args).entered w.state.stack.length f

/-- The world `w` again, with results on its stack, and with what is different in `v` but for the
functions. -/
def World.resumed (w v : World) (results : List Value) : World :=
  { v with
    functions := w.functions
    state :=
      { v.state with
        stack := w.state.stack ++ results
        frames := w.state.frames
        namecall := w.state.namecall } }

/-- The world with other functions and another method call in progress. -/
def World.under (w : World) (functions : Array Function) (namecall : Option String) : World :=
  { w.withNamecall namecall with functions }

namespace ScriptM

variable {α : Type} {w v : World} {f : FunctionId} {args : List Value}

/-! ## Calls of functions on the stack -/

/-- What is only asked for changes nothing. -/
theorem run_query_bind {β : Type} (f : State → α) (rest : α → ScriptM β) (w : World) :
    (query f >>= rest) w = rest (f w.state) w := by
  rw [run_bind]
  rfl

theorem run_forM_push (vs : List Value) (rest : ScriptM α) (w : World) :
    (vs.forM push >>= fun _ => rest) w = rest (w.withStack (w.state.stack ++ vs)) := by
  induction vs generalizing w with
  | nil =>
    rw [List.append_nil]
    rfl
  | cons v vs ih =>
    show (push v >>= fun _ => vs.forM push >>= fun _ => rest) w = _
    rw [run_push_bind, ih]
    show rest (w.withStack (w.state.stack ++ [v] ++ vs)) = _
    rw [List.append_assoc]
    rfl

/-- Where the value is that has a number of others above it. -/
theorem slotBelow_of_stack {below above : List Value} {x : Value}
    (stack : w.state.stack = below ++ x :: above) (low : w.state.base ≤ below.length) :
    above.length < w.state.top ∧ slotBelow w above.length = below.length ∧
      w.state.stack.getD below.length .nil = x := by
  have length : w.state.stack.length = below.length + (above.length + 1) := by
    rw [stack, List.length_append, List.length_cons]
  refine ⟨?_, ?_, ?_⟩
  · rw [State.top]
    omega
  · rw [slotBelow]
    omega
  · rw [stack]
    simp

/-- A function with its arguments on the stack is called in its own slot. -/
theorem run_call_withCall (run : Runner) (wanted : Option Nat) (framed : w.state.Framed)
    (f : FunctionId) (args : List Value) :
    call run args.length wanted (w.withCall f args) =
      invoke run w.state.stack.length f wanted (w.withCall f args) := by
  have stack : (w.withCall f args).state.stack = w.state.stack ++ .function f :: args := rfl
  obtain ⟨held, slot, here⟩ := slotBelow_of_stack stack framed
  have callee : (w.withCall f args).callee? (slotBelow (w.withCall f args) args.length) =
      some (f, w.withCall f args) := callee?_function (slot ▸ here)
  rw [run_call_callee run wanted held callee, slot]

theorem cutAt_withCall : (w.withCall f args).cutAt w.state.stack.length = w := by
  show { w with state := { w.state with
    stack := (w.state.stack ++ .function f :: args).take w.state.stack.length } } = w
  rw [List.take_left]

theorem below_callFrame :
    (w.callFrame f args).guise.below = w.state.stack ++ [.function f] := by
  show (w.state.stack ++ .function f :: args).take (w.state.stack.length + 1) = _
  rw [List.take_length_add_append]
  rfl

/-- The values of the frame are the arguments. -/
theorem inGuise_callFrame (g : Guise) :
    (w.callFrame f args).inGuise g =
      { w with
        functions := g.functions
        state :=
          { w.state with
            stack := g.below ++ args
            frames := g.frames
            namecall := g.namecall } } := by
  have values : (w.callFrame f args).state.stack.drop (w.callFrame f args).state.base = args := by
    show (w.state.stack ++ .function f :: args).drop (w.state.stack.length + 1) = args
    rw [List.drop_length_add_append]
    rfl
  rw [World.inGuise, values]
  rfl

theorem framed_callFrame : (w.callFrame f args).state.Framed := by
  show w.state.stack.length + 1 ≤ (w.state.stack ++ .function f :: args).length
  rw [List.length_append, List.length_cons]
  omega

/-- What a call leaves when its function has left the guise of its frame as it was. -/
theorem left_of_guise (same : v = v.inGuise (w.callFrame f args).guise) (results : List Value) :
    v.left w.state.stack.length results = w.resumed v results := by
  -- what lies below the frame is the caller's stack, and the function
  have stack : v.state.stack.take w.state.stack.length = w.state.stack := by
    rw [same]
    show ((w.callFrame f args).guise.below ++ _).take w.state.stack.length = _
    rw [below_callFrame, List.append_assoc, List.take_left]
  have frames : v.state.frames.tail = w.state.frames := by
    rw [same]
    rfl
  have functions : v.functions = w.functions := by
    rw [same]
    rfl
  have namecall : v.state.namecall = w.state.namecall := by
    rw [same]
    rfl
  rw [World.left, World.resumed, stack, frames, ← functions, ← namecall]

/-- A function that has left its frame with results above it returns these results. -/
theorem run_invoke_leaves {run : Runner} {results : List Value} (wanted : Option Nat)
    (room : w.state.frames.length < maxCallDepth)
    (ran : run f (w.callFrame f args) = (.ok results.length, v))
    (stack : v.state.stack = (w.callFrame f args).state.stack ++ results)
    (frames : v.state.frames = (w.callFrame f args).state.frames) :
    invoke run w.state.stack.length f wanted (w.withCall f args) =
      (.ok (), { v with
        state :=
          { v.state with
            stack := w.state.stack ++ adjust results wanted
            frames := w.state.frames } }) := by
  have depth : (w.withCall f args).state.frames = w.state.frames := rfl
  have split : v.state.stack = w.state.stack ++ .function f :: args ++ results := stack
  have length : v.state.stack.length =
      (w.state.stack ++ .function f :: args).length + results.length := by
    rw [split, List.length_append]
  -- above the frame there is room for the results and for nothing else, so they are what is taken
  have enough : ¬ v.state.stack.length < w.state.stack.length + 1 + results.length := by
    rw [length, List.length_append, List.length_cons]
    omega
  have result : v.state.stack.drop (v.state.stack.length - results.length) = results := by
    rw [length, Nat.add_sub_cancel, split, List.drop_left]
  have below : v.state.stack.take w.state.stack.length = w.state.stack := by
    rw [split, List.append_assoc, List.take_left]
  rw [run_invoke, depth, if_neg (Nat.not_le_of_lt room), ← World.callFrame, ran]
  dsimp only
  rw [if_neg enough, result, World.left, below, frames]
  rfl

/-- A function that pushes one value and has left the rest of the state as it was returns that
value. -/
theorem run_invoke_returns {run : Runner} {r : Value} (wanted : Option Nat)
    (room : w.state.frames.length < maxCallDepth)
    (ran : run f (w.callFrame f args) = (.ok 1, v))
    (pushed : v.state = (w.callFrame f args).state.push r) :
    invoke run w.state.stack.length f wanted (w.withCall f args) =
      (.ok (), { v with
        state := { w.state with stack := w.state.stack ++ adjust [r] wanted } }) := by
  have stack : v.state.stack = (w.callFrame f args).state.stack ++ [r] := by
    rw [pushed]
    rfl
  have frames : v.state.frames = (w.callFrame f args).state.frames := by
    rw [pushed]
    rfl
  have ran : run f (w.callFrame f args) = (.ok [r].length, v) := ran
  refine (run_invoke_leaves wanted room ran stack frames).trans ?_
  rw [pushed]
  rfl

/-- A function that fails and has left the state as it was leaves that of its caller. -/
theorem run_invoke_fails {run : Runner} {e : ScriptError} (wanted : Option Nat)
    (room : w.state.frames.length < maxCallDepth)
    (ran : run f (w.callFrame f args) = (.error e, v))
    (same : v.state = (w.callFrame f args).state) :
    invoke run w.state.stack.length f wanted (w.withCall f args) =
      (.error e, { v with state := w.state }) := by
  have frames : (w.withCall f args).state.frames = w.state.frames := rfl
  have below : (w.callFrame f args).state.stack.take w.state.stack.length = w.state.stack :=
    List.take_left
  rw [run_invoke, frames, if_neg (Nat.not_le_of_lt room), ← World.callFrame, ran]
  dsimp only
  rw [World.left, same, below, List.append_nil]
  rfl

/-- A call that the depth does not allow, or that fails at once, leaves no trace. -/
theorem run_invoke_futile {run : Runner} {e : ScriptError} (wanted : Option Nat)
    (full : maxCallDepth ≤ w.state.frames.length → e = .stackOverflow maxCallDepth)
    (futile : w.state.frames.length < maxCallDepth →
      run f (w.callFrame f args) = (.error e, w.callFrame f args)) :
    invoke run w.state.stack.length f wanted (w.withCall f args) = (.error e, w) := by
  by_cases room : w.state.frames.length < maxCallDepth
  · exact run_invoke_fails (v := w.callFrame f args) wanted room (futile room) rfl
  · have frames : (w.withCall f args).state.frames = w.state.frames := rfl
    have deep := Nat.le_of_not_lt room
    rw [run_invoke, frames, if_pos deep, full deep, cutAt_withCall]

/-- A function that makes others and pushes one value leaves that value. -/
theorem run_invoke_pushes {run : Runner} {functions : Array Function} {r : Value}
    (room : w.state.frames.length < maxCallDepth)
    (ran : run f (w.callFrame f args) =
      (.ok 1, { w.callFrame f args with
        functions
        state := (w.callFrame f args).state.push r })) :
    invoke run w.state.stack.length f (some 1) (w.withCall f args) =
      (.ok (), { w with functions }.withStack (w.state.stack ++ [r])) :=
  (run_invoke_returns (some 1) room ran rfl).trans rfl

/-- A value that lies on top is taken. -/
theorem run_popValue_top (framed : w.state.Framed) (r : Value) :
    popValue (w.withStack (w.state.stack ++ [r])) = (.ok r, w) := by
  have state : (w.withStack (w.state.stack ++ [r])).state = w.state.push r := rfl
  rw [run_popValue, state, State.popValue_push framed]
  rfl

/-- What a blind handler leaves is settled by what it did in the frame. -/
theorem run_invoke_blind {act : ScriptM Nat} (blind : Blind act) (counts : Counts act)
    {run : Runner} (wanted : Option Nat) (room : w.state.frames.length < maxCallDepth)
    (runs : run f (w.callFrame f args) = act (w.callFrame f args)) :
    invoke run w.state.stack.length f wanted (w.withCall f args) =
      match act (w.callFrame f args) with
      | (.ok k, v) =>
        (.ok (), w.resumed v
          (adjust (v.state.stack.drop (v.state.stack.length - k)) wanted))
      | (.error e, v) => (.error e, w.resumed v []) := by
  obtain ⟨same, -⟩ := blind.guise_eq (w := w.callFrame f args) framed_callFrame
  have frames : (w.withCall f args).state.frames = w.state.frames := rfl
  rw [run_invoke, frames, if_neg (Nat.not_le_of_lt room), ← World.callFrame, runs]
  cases ended : act (w.callFrame f args) with
  | mk r v =>
    rw [ended] at same
    dsimp only at same ⊢
    cases r with
    | error e =>
      dsimp only
      rw [left_of_guise same]
    | ok k =>
      have length := counts _ _ _ framed_callFrame ended
      -- it claims no more results than it has pushed, so they are not refused
      have start : w.state.stack.length + 1 ≤ (w.callFrame f args).state.stack.length :=
        framed_callFrame
      dsimp only
      rw [if_neg (by omega), left_of_guise same]

/-- It makes no functions. -/
theorem functions_invoke_blind {act : ScriptM Nat} (blind : Blind act) (counts : Counts act)
    {run : Runner} (wanted : Option Nat) (room : w.state.frames.length < maxCallDepth)
    (runs : run f (w.callFrame f args) = act (w.callFrame f args)) :
    (invoke run w.state.stack.length f wanted (w.withCall f args)).2.functions = w.functions := by
  rw [run_invoke_blind blind counts wanted room runs]
  obtain ⟨r, v⟩ := act (w.callFrame f args)
  cases r <;> rfl

/-- Two functions with one blind handler do the same, whatever else there is and whatever method
call is in progress. -/
theorem run_invoke_alike {act : ScriptM Nat} (blind : Blind act) (counts : Counts act)
    {run : Runner} (wanted : Option Nat) (room : w.state.frames.length < maxCallDepth)
    (functions : Array Function) (namecall : Option String) {f' : FunctionId}
    (runs : run f (w.callFrame f args) = act (w.callFrame f args))
    (runs' : run f' ((w.under functions namecall).callFrame f' args) =
      act ((w.under functions namecall).callFrame f' args)) :
    let ended := invoke run w.state.stack.length f wanted (w.withCall f args)
    invoke run w.state.stack.length f' wanted ((w.under functions namecall).withCall f' args) =
      (ended.1, ended.2.under functions namecall) := by
  have framed : (w.callFrame f args).state.Framed := framed_callFrame
  -- the second frame is the first one in another guise
  generalize other : ((w.under functions namecall).callFrame f' args).guise = g
  have disguised : (w.under functions namecall).callFrame f' args =
      (w.callFrame f args).inGuise g := by
    rw [← World.inGuise_guise ((w.under functions namecall).callFrame f' args), other,
      inGuise_callFrame, inGuise_callFrame]
    rfl
  have fits : g.Fits (w.callFrame f args) := by
    refine ⟨framed, ?_, ?_⟩
    · rw [← other]
      rfl
    · rw [← other, below_callFrame, List.length_append]
      rfl
  obtain ⟨ran, left⟩ := blind (w.callFrame f args) g fits
  have counted := counts (w.callFrame f args)
  -- what was in the way is settled alike
  have settled : ∀ (v : World) (results : List Value),
      (w.under functions namecall).resumed (v.inGuise g) results =
        (w.resumed v results).under functions namecall := fun _ _ => rfl
  have first := run_invoke_blind blind counts wanted room runs
  have second := run_invoke_blind (w := w.under functions namecall) blind counts wanted room runs'
  rw [disguised, ran] at second
  rw [first]
  refine second.trans ?_
  cases ended : act (w.callFrame f args) with
  | mk r v =>
    rw [ended] at left
    cases r with
    | error e =>
      dsimp only
      rw [settled]
    | ok k =>
      -- the results lie in the frame, where the guises do not differ
      have grown := counted v k framed ended
      have low : v.state.base ≤ v.state.stack.length - k := by
        have base : v.state.base = (w.callFrame f args).state.base :=
          left.base.symm.trans fits.base
        have framed : (w.callFrame f args).state.base ≤
          (w.callFrame f args).state.stack.length := framed
        omega
      dsimp only
      rw [left.length_inGuise, left.drop_inGuise low, settled]

/-- The arguments of a call are numbered from one. -/
theorem value?_callFrame (i : Nat) :
    (w.callFrame f args).state.value? (i + 1 : Nat) = args[i]? := by
  have base : (w.callFrame f args).state.base = w.state.stack.length + 1 := rfl
  have stack : (w.callFrame f args).state.stack = w.state.stack ++ .function f :: args := rfl
  have length : (w.callFrame f args).state.stack.length =
      w.state.stack.length + (args.length + 1) := by
    rw [stack, List.length_append, List.length_cons]
  have counted : (w.callFrame f args).state.base + ((i + 1 : Nat) : Int).toNat - 1 =
      w.state.stack.length + (i + 1) := by
    omega
  rw [State.value?, State.slot?, if_pos (by omega)]
  dsimp only
  rw [counted]
  -- arguments are the top of the stack, so whatever is beyond the last one is beyond the stack
  by_cases held : i < args.length
  · rw [if_pos (by omega)]
    show (w.callFrame f args).state.stack[w.state.stack.length + (i + 1)]? = args[i]?
    rw [stack, List.getElem?_append_right (by omega), Nat.add_sub_cancel_left,
      List.getElem?_cons_succ]
  · rw [if_neg (by omega), List.getElem?_eq_none (by omega)]
    rfl

/-- The text that a function carries is there in its frame. -/
theorem upvalueText?_callFrame {g : Function} {text : String}
    (known : w.functions[f.index]? = some g) (carried : g.upvalues = [.string text]) :
    upvalueText? (w.callFrame f args).state 1 = some text := by
  have frames : (w.callFrame f args).state.frames =
      ⟨w.state.stack.length + 1, [.string text]⟩ :: w.state.frames := by
    show ⟨w.state.stack.length + 1,
      (w.functions[f.index]?.map fun g => g.upvalues).getD []⟩ :: w.state.frames = _
    rw [known, Option.map_some, carried]
    rfl
  unfold upvalueText? State.upvalue?
  rw [frames]
  rfl

end ScriptM

end ScriptBind
