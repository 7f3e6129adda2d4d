import ScriptBind.Proofs.Session.Fields
import ScriptBind.Proofs.Session.Namecalls

/-!
# Call depth

A function that is called gets a frame, and gives it back however it ends: no failure, caught or not,
leaves a frame behind. So there are as many frames as callers that wait. The depth is checked before a
function is activated, so that there are never more than `maxCallDepth` frames, and as long as there
are fewer every call of a value that can be called gets its function run.

Functions are called by five operations: a call, a method call, the look-up of a field, the text of a
value and a comparison. `Invokes` says where each of them comes to call a function, before anything
has run.

Main results:

* `runFunction_eq` — the bound on nested runs is never met: functions run as their code says.
* `Invokes.comesTo` — each of the operations fails with the call that it comes to.
* `ComesTo.refused_iff`, `ComesTo.asks` — at the greatest depth nothing runs, and below it the function.
* `run_nested` — as many functions nest as there is room for.
* `Session.fuel_eq` — in a run the bound on nested runs leaves room for all of them.
* `Session.call_depth_bounded` — at every moment of a run.
-/

namespace ScriptBind

open ScriptM

/-! ## One frame for each caller -/

/-- A function is activated in one frame more, if there is room for it. -/
theorem Enters.depth {w u : World} (h : Enters w u) :
    w.state.frames.length < maxCallDepth ∧
      u.state.frames.length = w.state.frames.length + 1 := by
  induction h with
  | call _ _ room => exact ⟨room, rfl⟩
  | after before _ ih => rwa [before.frames_eq] at ih
  | namecall _ ih => exact ih

/-- How many frames an activity has opened for itself. -/
def Activity.opened : Activity → Nat
  | function _ => 1
  | _ => 0

/-- While callers wait there is a frame for each of them, above the frames of the start. What the
bound on nested runs loses, the frames gain. -/
theorem Includes.depth {n m : Nat} {a b : Activity} {w x : World} {cs : List Caller}
    (h : Includes n a w cs m b x) :
    x.state.frames.length = w.state.frames.length + cs.length ∧
      (w.state.frames.length ≤ maxCallDepth → x.state.frames.length ≤ maxCallDepth) ∧
      x.state.frames.length + m + a.opened = w.state.frames.length + n + b.opened := by
  have executed : ∀ n i, Evolving (exec (runAt n) i) := fun n i =>
    (Disciplined.exec i).evolving (Evolving.runAt n)
  -- only a function that is called gets a frame, and it has one run fewer left
  induction h with
  | self => exact ⟨rfl, id, rfl⟩
  | @function n m f g steps results quiet w x cs b known code _ ih =>
    have same : (if quiet then w.mute else w).state = w.state := by cases quiet <;> rfl
    rw [same] at ih
    obtain ⟨counted, bounded, left⟩ := ih
    refine ⟨counted, bounded, ?_⟩
    show _ + m + 1 = _ + (n + 1) + _
    have unopened : (Activity.body steps).opened = 0 := rfl
    omega
  | bodyFirst _ ih => exact ih
  | @bodyRest n m i rest w u x cs b r ran _ _ ih =>
    rwa [((executed n i).ran ran |>.trans (Evolving.log i.plain r u)).frames_eq] at ih
  | blockFirst _ ih => exact ih
  | @blockRest n m i rest w u x cs b r ran _ ih =>
    rwa [((executed n i).ran ran |>.trans (Evolving.log i.plain (.ok r) u)).frames_eq] at ih
  | @repeated n m k count body w u x cs b _ ran _ ih =>
    have before : Evolves w.mute u :=
      (((Disciplined.execAll body).times k).evolving (Evolving.runAt n)).ran ran
    rwa [before.frames_eq] at ih
  | attempt _ ih => exact ih
  | @called n m i f w u x cs b asks _ ih =>
    obtain ⟨room, deeper⟩ := ((Disciplined.perform i).enters (Evolving.runAt n) asks).depth
    obtain ⟨counted, bounded, left⟩ := ih
    have opened : (Activity.function f).opened = 1 := rfl
    refine ⟨?_, fun _ => bounded (by omega), ?_⟩
    · rw [counted, deeper, List.length_append, List.length_singleton]
      omega
    · show _ + m + 0 = _
      omega

/-! ## Room for nested runs -/

/-- The code of a function, whose calls are left to a runner. -/
def Function.runs (run : Runner) (g : Function) : ScriptM Nat := do
  match g.code with
  | .handler h => h.run
  | .constant i => pushConstant ((← get).looseConstant i)
  | .body steps results quiet =>
    if quiet then unlogged (runBody run steps) else runBody run steps
    return results

theorem runAt_succ (n : Nat) (f : FunctionId) (u : World) :
    runAt (n + 1) f u =
      match u.functions[f.index]? with
      | none => (.ok 0, u)
      | some g => g.runs (runAt n) u := by
  rw [runAt, run_bind, run_get]
  dsimp only
  cases u.functions[f.index]? with
  | none => rfl
  | some g =>
    obtain ⟨name, code, upvalues⟩ := g
    cases code with
    | handler h => rfl
    | constant i => rfl
    | body steps results quiet => cases quiet <;> rfl

/-- Two runners that agree one frame deeper run a body alike. -/
theorem runBody_congr {run run' : Runner} (evolving : ∀ f, Evolving (run f)) {w : World}
    (same : ∀ f u, u.state.frames.length = w.state.frames.length + 1 →
      u.state.frames.length ≤ maxCallDepth → run' f u = run f u) (steps : List Instr) :
    runBody run' steps w = runBody run steps w := by
  induction steps generalizing w with
  | nil => rfl
  | cons i rest ih =>
    have first : exec run' i w = exec run i w := by
      refine (Disciplined.exec i).agree evolving fun f u enters => ?_
      obtain ⟨room, deeper⟩ := enters.depth
      exact same f u deeper (by omega)
    -- what is left of the body starts with the same frames
    have others : ∀ r v, exec run i w = (r, v) →
        runBody run' rest (v.log i.plain r) = runBody run rest (v.log i.plain r) := by
      intro r v ran
      have evolves := (((Disciplined.exec i).evolving evolving).ran ran).trans
        (Evolving.log i.plain r v)
      exact ih fun f u deeper => same f u (by rw [deeper, evolves.frames_eq])
    rw [run_runBody_cons, run_runBody_cons, first]
    cases ran : exec run i w with
    | mk r v =>
      cases r with
      | ok r => exact others _ v ran
      | error e =>
        dsimp only
        rw [others _ v ran]

/-- Where the bound on nested runs leaves enough for the depth that is left, it makes no difference. -/
theorem runAt_eq {n k : Nat} {f : FunctionId} {u : World}
    (room : u.state.frames.length ≤ maxCallDepth)
    (enough : maxCallDepth < u.state.frames.length + n)
    (enough' : maxCallDepth < u.state.frames.length + k) : runAt n f u = runAt k f u := by
  induction n generalizing k f u with
  | zero => omega
  | succ n ih =>
    obtain ⟨k, rfl⟩ : ∃ k', k = k' + 1 := ⟨k - 1, by omega⟩
    rw [runAt_succ, runAt_succ]
    cases u.functions[f.index]? with
    | none => rfl
    | some g =>
      -- the body has the same frames, and what it calls has one more
      have bodies : ∀ (v : World) (steps : List Instr), v.state.frames = u.state.frames →
          runBody (runAt n) steps v = runBody (runAt k) steps v := by
        intro v steps frames
        refine runBody_congr (Evolving.runAt k) (fun f x deeper bounded => ?_) steps
        rw [frames] at deeper
        exact ih bounded (by omega) (by omega)
      dsimp only
      unfold Function.runs
      cases g.code with
      | body steps results quiet =>
        cases quiet with
        | false =>
          dsimp only
          rw [if_neg Bool.false_ne_true, if_neg Bool.false_ne_true, run_bind, run_bind,
            bodies u steps rfl]
        | true =>
          dsimp only
          rw [if_pos rfl, if_pos rfl, run_bind, run_bind, run_unlogged, run_unlogged,
            bodies u.mute steps rfl]
      | _ => rfl

/-- A function that has been activated runs its code, in which functions that have been activated
run theirs. -/
theorem runFunction_eq {f : FunctionId} {u : World} (inside : 0 < u.state.frames.length)
    (room : u.state.frames.length ≤ maxCallDepth) :
    runFunction f u =
      match u.functions[f.index]? with
      | none => (.ok 0, u)
      | some g => g.runs runFunction u := by
  unfold runFunction
  rw [runAt_eq (k := maxCallDepth + 1) room (by omega) (by omega), runAt_succ]

/-! ## Where operations call functions -/

/-- One of the operations that call functions, with what it is told. -/
inductive Invocation where
  | call (args : Nat) (wanted : Option Nat)
  | method (name : String) (args : Nat) (wanted : Option Nat)
  | field (target key : Value)
  | text (index : Int)
  | equality (index other : Int)

/-- What the operation does; what it answers does not matter here. -/
def Invocation.run (run : Runner) : Invocation → ScriptM Unit
  | call args wanted => ScriptM.call run args wanted
  | method name args wanted => callMethod run name args wanted
  | field target key => discard (indexValue run target key)
  | text index => discard (display run index)
  | equality index other => discard (equal run index other)

namespace World

/-- The function that a value is called through. -/
def callable? (w : World) : Value → Option FunctionId
  | .function f => some f
  | v =>
    match w.metafield v "__call" with
    | some (.function f) => some f
    | _ => none

/-- The walk for a field ends at the value `c`, within the steps that it may take. -/
def FieldEnds (w : World) (k : Key) (target c : Value) (s : Stop) : Prop :=
  ∃ i < maxIndexChain, w.link? target i = some c ∧ w.GoesOn k target i ∧ w.StopsAt k c s

/-- The value below the top `args` values. -/
def receiver (w : World) (args : Nat) : Value := w.state.stack.getD (slotBelow w args) .nil

end World

/-- `Invokes w op f`: in the world `w`, the first function that the operation comes to call is `f`. -/
inductive Invokes (w : World) : Invocation → FunctionId → Prop
  /-- A call, that of a function or of a value with a `__call` function. -/
  | call {args : Nat} {wanted : Option Nat} {f : FunctionId} (held : args < w.state.top)
      (callable : w.callable? (w.receiver args) = some f) : Invokes w (.call args wanted) f
  /-- A method call whose receiver has a `__namecall` function. -/
  | handler {name : String} {args : Nat} {wanted : Option Nat} {f : FunctionId}
      (held : args < w.state.top) (handler : w.namecallHandler? args = some f) :
      Invokes w (.method name args wanted) f
  /-- A method call whose method an `__index` function is asked for. -/
  | lookup {name : String} {args : Nat} {wanted : Option Nat} {f : FunctionId} {c : Value}
      (held : args < w.state.top) (handler : w.namecallHandler? args = none)
      (ends : w.FieldEnds (.string name) (w.receiver args) c (.handler f)) :
      Invokes w (.method name args wanted) f
  /-- A method call whose method is found without a function, and can be called. -/
  | found {name : String} {args : Nat} {wanted : Option Nat} {f : FunctionId} {c v : Value}
      (held : args < w.state.top) (handler : w.namecallHandler? args = none)
      (ends : w.FieldEnds (.string name) (w.receiver args) c (.entry v))
      (callable : w.callable? v = some f) : Invokes w (.method name args wanted) f
  /-- The look-up of a field that an `__index` function is asked for. -/
  | field {target key c : Value} {k : Key} {f : FunctionId} (valid : Key.ofValue key = .ok k)
      (ends : w.FieldEnds k target c (.handler f)) : Invokes w (.field target key) f
  /-- The text of a value with a `__tostring` function. -/
  | text {index : Int} {f : FunctionId}
      (handler : w.metafield (w.state.valueOrNil index) "__tostring" = some (.function f)) :
      Invokes w (.text index) f
  /-- The comparison of two values that share an `__eq` function. -/
  | equality {index other : Int} {f : FunctionId}
      (apart : (w.state.valueOrNil index).rawEqual (w.state.valueOrNil other) = false)
      (kind : sameReferenceKind (w.state.valueOrNil index) (w.state.valueOrNil other) = true)
      (left : w.metafield (w.state.valueOrNil index) "__eq" = some (.function f))
      (right : w.metafield (w.state.valueOrNil other) "__eq" = some (.function f)) :
      Invokes w (.equality index other) f

/-- The operation comes to a call of `f`, with the frames that it started with, and if that fails so
does the operation. -/
def ComesTo (w : World) (op : Invocation) (f : FunctionId) : Prop :=
  ∃ (x y : World) (args : Nat) (wanted : Option Nat) (leave : World → World),
    x.state.frames = w.state.frames ∧ args < x.state.top ∧
    x.callee? (slotBelow x args) = some (f, y) ∧ (∀ v, (leave v).reported = v.reported) ∧
    ∀ run e v, call run args wanted x = (.error e, v) → op.run run w = (.error e, leave v)

section Invocations

variable {w : World} {f : FunctionId}

theorem callee?_of_callable {slot : Nat} {v : Value} (here : w.state.stack.getD slot .nil = v)
    (callable : w.callable? v = some f) : ∃ y, w.callee? slot = some (f, y) := by
  unfold World.callee?
  rw [here]
  cases v with
  | function g =>
    cases callable
    exact ⟨_, rfl⟩
  | _ =>
    -- another value has its function in its metatable
    unfold World.callable? at callable
    dsimp only at callable
    split at callable
    next g called =>
      cases callable
      simp only [called]
      exact ⟨_, rfl⟩
    next => cases callable

/-- A function that is pushed with its arguments and called. -/
theorem comesTo_withCall {op : Invocation} (args : List Value) (framed : w.state.Framed)
    (fails : ∀ run e v, call run args.length (some 1) (w.withCall f args) = (.error e, v) →
      op.run run w = (.error e, v)) : ComesTo w op f := by
  have stack : (w.withCall f args).state.stack = w.state.stack ++ .function f :: args := rfl
  obtain ⟨held, slot, here⟩ := slotBelow_of_stack stack framed
  exact ⟨w.withCall f args, _, args.length, some 1, id, rfl, held,
    callee?_function (slot ▸ here), fun _ => rfl, fails⟩

theorem getD_insertAt {s : State} {slot : Nat} (high : slot < s.stack.length) (v : Value) :
    (s.insertAt slot v).stack.getD slot .nil = v ∧
      (s.insertAt slot v).stack.length = s.stack.length + 1 := by
  have length : (s.stack.take slot).length = slot := List.length_take_of_le (Nat.le_of_lt high)
  constructor
  · show (s.stack.take slot ++ v :: s.stack.drop slot).getD slot .nil = v
    rw [List.getD_eq_getElem?_getD, List.getElem?_append_right (Nat.le_of_eq length), length,
      Nat.sub_self]
    rfl
  · show (s.stack.take slot ++ v :: s.stack.drop slot).length = _
    rw [List.length_append, List.length_cons, List.length_drop, length]
    omega

/-- A value that is put below the receiver is called with the receiver as its first argument. -/
theorem callee?_insertAt {x : World} {args : Nat} {v : Value} (held : args < w.state.top)
    (base : x.state.base = w.state.base)
    (inserted : x.state.stack = (w.state.insertAt (slotBelow w args) v).stack)
    (callable : x.callable? v = some f) :
    args + 1 < x.state.top ∧ ∃ y, x.callee? (slotBelow x (args + 1)) = some (f, y) := by
  have high : slotBelow w args < w.state.stack.length := (State.slot_bounds held).2
  obtain ⟨here, length⟩ := getD_insertAt high v
  have slot : slotBelow x (args + 1) = slotBelow w args := by
    rw [slotBelow, inserted, length, slotBelow]
    omega
  refine ⟨?_, callee?_of_callable ?_ callable⟩
  · rw [State.top, base, inserted, length]
    rw [State.top] at held
    omega
  · rw [slot, inserted]
    exact here

/-- A field that is looked up until a function is asked for. -/
theorem indexValue_comesTo {target key c : Value} {k : Key} (valid : Key.ofValue key = .ok k)
    (ends : w.FieldEnds k target c (.handler f)) (run : Runner) {e : ScriptError} {v : World}
    (failed : call run [c, key].length (some 1) (w.withCall f [c, key]) = (.error e, v)) :
    indexValue run target key w = (.error e, v) := by
  obtain ⟨i, within, here, on, stops⟩ := ends
  obtain ⟨left, split⟩ : ∃ left, maxIndexChain = i + (left + 1) :=
    ⟨maxIndexChain - i - 1, by omega⟩
  cases stops with
  | handler lacks next =>
    rw [indexValue, split, indexChain_walk valid on here,
      run_indexChain_lacking (run_rawEntry_of_lacks valid lacks), next]
    dsimp only
    rw [run_push_bind, run_forM_push]
    -- the value and the key lie above the function, as the arguments of a call do
    have stack : w.state.stack ++ [.function f] ++ [c, key] =
        w.state.stack ++ .function f :: [c, key] := List.append_assoc ..
    show (call run [c, key].length (some 1) >>= fun _ => popValue)
      (w.withStack (w.state.stack ++ [.function f] ++ [c, key])) = _
    rw [stack, run_bind]
    rw [World.withCall] at failed
    rw [failed]

/-- A field that is found without a function. -/
theorem indexValue_entry {target key c x : Value} {k : Key} (valid : Key.ofValue key = .ok k)
    (ends : w.FieldEnds k target c (.entry x)) (run : Runner) :
    indexValue run target key w = (.ok x, w) := by
  obtain ⟨i, within, here, on, stops⟩ := ends
  obtain ⟨left, split⟩ : ∃ left, maxIndexChain = i + (left + 1) :=
    ⟨maxIndexChain - i - 1, by omega⟩
  cases stops with
  | entry own =>
    rw [indexValue, split, indexChain_walk valid on here, indexChain.eq_def]
    dsimp only
    rw [run_bind, run_rawEntry_of_own valid own]
    rfl

/-- What pushes a function with its arguments and calls it fails with the call. -/
theorem fails_withCall {α : Type} {run : Runner} {args : List Value} {rest : Unit → ScriptM α}
    {e : ScriptError} {v : World}
    (failed : call run args.length (some 1) (w.withCall f args) = (.error e, v)) :
    ((.function f :: args).forM push >>= fun _ =>
      ScriptM.call run args.length (some 1) >>= rest) w = (.error e, v) := by
  rw [run_forM_push, run_bind]
  rw [World.withCall] at failed
  rw [failed]

/-- The text of a value with a `__tostring` function is what a call of it leads to. -/
theorem display_calls {index : Int}
    (handler : w.metafield (w.state.valueOrNil index) "__tostring" = some (.function f))
    (run : Runner) :
    ∃ rest : Unit → ScriptM String, display run index w =
      ([.function f, w.state.valueOrNil index].forM push >>= fun _ =>
        ScriptM.call run 1 (some 1) >>= rest) w := by
  unfold display
  rw [run_query_bind, run_bind, run_get]
  dsimp only
  rw [handler]
  exact ⟨_, rfl⟩

/-- So is the comparison of two values that share an `__eq` function. -/
theorem equal_calls {index other : Int}
    (apart : (w.state.valueOrNil index).rawEqual (w.state.valueOrNil other) = false)
    (kind : sameReferenceKind (w.state.valueOrNil index) (w.state.valueOrNil other) = true)
    (left : w.metafield (w.state.valueOrNil index) "__eq" = some (.function f))
    (right : w.metafield (w.state.valueOrNil other) "__eq" = some (.function f)) (run : Runner) :
    ∃ rest : Unit → ScriptM Bool, equal run index other w =
      ([.function f, w.state.valueOrNil index, w.state.valueOrNil other].forM push >>= fun _ =>
        ScriptM.call run 2 (some 1) >>= rest) w := by
  unfold equal
  rw [run_query_bind, run_query_bind, if_neg (by rw [apart]; exact Bool.false_ne_true),
    if_neg (by rw [kind]; exact Bool.false_ne_true), run_bind, run_get]
  dsimp only
  rw [left, right]
  dsimp only
  rw [if_pos rfl]
  exact ⟨_, rfl⟩

/-- Wherever an operation comes to call a function, it fails with the call. The cases are the places
where it may come to one. -/
theorem Invokes.comesTo {op : Invocation} (invokes : Invokes w op f) (framed : w.state.Framed) :
    ComesTo w op f := by
  cases invokes with
  | @call args wanted _ held callable =>
    obtain ⟨y, callee⟩ := callee?_of_callable rfl callable
    exact ⟨w, y, args, wanted, id, rfl, held, callee, fun _ => rfl, fun run e v failed => failed⟩
  -- the function is put below the receiver, which is its first argument
  | @handler name args wanted _ held handler =>
    obtain ⟨held', y, callee⟩ := callee?_insertAt (x := w.dispatched name (slotBelow w args) f)
      (v := .function f) held rfl rfl rfl
    refine ⟨w.dispatched name (slotBelow w args) f, y, args + 1, wanted,
      fun v => v.withNamecall w.state.namecall, rfl, held', callee, fun _ => rfl,
      fun run e v failed => ?_⟩
    show callMethod run name args wanted w = _
    rw [run_callMethod_ways _ name wanted held, handler]
    dsimp only
    rw [failed]
  -- what the call of the look-up leaves is cut away together with the arguments
  | @lookup name args wanted _ c held handler ends =>
    have stack : (w.withCall f [c, .string name]).state.stack =
      w.state.stack ++ .function f :: [c, .string name] := rfl
    obtain ⟨held', slot, here⟩ := slotBelow_of_stack stack framed
    refine ⟨w.withCall f [c, .string name], _, [c, .string name].length, some 1,
      fun v => v.cutAt (slotBelow w args), rfl, held',
      callee?_function (slot ▸ here), fun _ => rfl, fun run e v failed => ?_⟩
    show callMethod run name args wanted w = _
    rw [run_callMethod_ways _ name wanted held, handler]
    dsimp only [callLooked]
    rw [run_bind, clearing, ← World.receiver, indexValue_comesTo rfl ends run failed]
    rfl
  -- the method that has been found takes the place of the function
  | @found name args wanted _ c v held handler ends callable =>
    let x : World := { w with state := w.state.insertAt (slotBelow w args) v }
    have callable : x.callable? v = some f := callable
    obtain ⟨held', y, callee⟩ := callee?_insertAt (x := x) held rfl rfl callable
    refine ⟨x, y, args + 1, wanted, id, rfl, held', callee, fun _ => rfl,
      fun run e u failed => ?_⟩
    show callMethod run name args wanted w = _
    rw [run_callMethod_ways _ name wanted held, handler]
    dsimp only [callLooked]
    rw [run_bind, clearing, ← World.receiver, indexValue_entry rfl ends run]
    exact failed
  | @field target key c k _ valid ends =>
    refine comesTo_withCall [c, key] framed fun run e v failed => ?_
    show discard (indexValue run target key) w = _
    rw [run_discard, indexValue_comesTo valid ends run failed]
  | @text index _ handler =>
    refine comesTo_withCall [w.state.valueOrNil index] framed fun run e v failed => ?_
    obtain ⟨rest, called⟩ := display_calls handler run
    show discard (display run index) w = _
    rw [run_discard, called.trans (fails_withCall failed)]
  | @equality index other _ apart kind left right =>
    refine comesTo_withCall [w.state.valueOrNil index, w.state.valueOrNil other] framed
      fun run e v failed => ?_
    obtain ⟨rest, called⟩ := equal_calls apart kind left right run
    show discard (equal run index other) w = _
    rw [run_discard, called.trans (fails_withCall failed)]

/-! ## At the greatest depth and below -/

/-- The operation fails for the depth, whatever functions do: none of them is run. -/
def Refused (w : World) (op : Invocation) : Prop :=
  ∃ x, ∀ run, op.run run w = (.error (.stackOverflow maxCallDepth), x)

theorem ComesTo.refused {op : Invocation} (comes : ComesTo w op f)
    (full : w.state.frames.length = maxCallDepth) : Refused w op := by
  obtain ⟨x, y, args, wanted, leave, frames, held, callee, -, fails⟩ := comes
  refine ⟨leave (y.cutAt (slotBelow x args)), fun run => fails run _ _ ?_⟩
  have deep : maxCallDepth = y.state.frames.length := by
    rw [(callee?_keeps held callee).1, frames, full]
  rw [run_call_callee run wanted held callee, run_invoke, if_pos (Nat.le_of_eq deep)]

/-- Below the greatest depth the operation gets the function run, in a frame above its own. -/
theorem ComesTo.asks {op : Invocation} (comes : ComesTo w op f)
    (room : w.state.frames.length < maxCallDepth) (run : Runner) :
    ∃ u frame, Asks (fun run => op.run run) run w f u ∧
      u.state.frames = frame :: w.state.frames := by
  obtain ⟨x, y, args, wanted, leave, frames, held, callee, reported, fails⟩ := comes
  have kept := (callee?_keeps held callee).1
  refine ⟨y.entered (slotBelow x args) f, _, ?_, by rw [World.entered, kept, frames]⟩
  refine (Tracks.call roomy_any args wanted).heeds.asks_of (fun {run e v} failed => ?_)
    (asks_call run wanted held (frames ▸ room) callee)
  rw [fails run e v failed]
  exact reported v

theorem ComesTo.refused_iff {op : Invocation} (comes : ComesTo w op f)
    (bounded : w.state.frames.length ≤ maxCallDepth) :
    Refused w op ↔ w.state.frames.length = maxCallDepth := by
  refine ⟨fun ⟨x, refused⟩ => ?_, comes.refused⟩
  -- below the greatest depth what comes of the operation depends on the function
  by_contra other
  obtain ⟨u, frame, ⟨run', -, differs⟩, -⟩ :=
    comes.asks (Nat.lt_of_le_of_ne bounded other) runFunction
  exact differs ((refused run').trans (refused runFunction).symm)

end Invocations

/-! ## Functions that nest -/

/-- A program in which a number of functions nest: each makes the next one and calls it. -/
def nested (name : String) : Nat → List Instr
  | 0 => []
  | k + 1 => [.pushFunction name (nested name k) 0 false [], .call 0 (some 0)]

theorem World.log_eq (w : World) (i : Instr) (r : Except ScriptError Reply) :
    (w.log i r).state = w.state ∧ (w.log i r).functions = w.functions := by
  unfold World.log
  split <;> exact ⟨rfl, rfl⟩

section Nested

variable {n : Nat} {w : World} {f : FunctionId}

/-- What comes of a function that has a body and returns nothing, when it is called. -/
theorem run_call_body {g : Function} {steps : List Instr} (framed : w.state.Framed)
    (known : w.functions[f.index]? = some g) (code : g.code = .body steps 0 false)
    (room : w.state.frames.length < maxCallDepth) :
    (call (runAt (n + 1)) 0 (some 0) (w.withCall f [])).1 =
      (runBody (runAt n) steps (w.callFrame f [])).1 := by
  have called : call (runAt (n + 1)) 0 (some 0) (w.withCall f []) = _ :=
    run_call_withCall (runAt (n + 1)) (some 0) framed f []
  have frames : (w.withCall f []).state.frames = w.state.frames := rfl
  have known' : (w.callFrame f []).functions[f.index]? = some g := known
  rw [called, run_invoke, frames, if_neg (Nat.not_le_of_lt room), ← World.callFrame,
    run_runAt_body known' code, if_neg Bool.false_ne_true, run_bind]
  have ran := Evolving.runBody (Evolving.runAt n) steps (w.callFrame f [])
  generalize runBody (runAt n) steps (w.callFrame f []) = ended at ran
  obtain ⟨r, v⟩ := ended
  cases r with
  | error e => rfl
  | ok _ =>
    -- the callee and what lies below it are still there, so there are no results missing
    have above := (left_callFrame ran).1
    dsimp only at above
    have enough : ¬ v.state.stack.length < w.state.stack.length + 1 + 0 := by omega
    dsimp only [run_pure]
    rw [if_neg enough]

/-- What comes of a body that makes a function and calls it. -/
theorem run_nested_succ (name : String) (k : Nat) (w : World) :
    ∃ (v : World) (g : Function), v.state = w.state ∧ v.functions[w.functions.size]? = some g ∧
      g.code = .body (nested name k) 0 false ∧
      ∀ run, (runBody run (nested name (k + 1)) w).1 =
        (call run 0 (some 0) (v.withCall ⟨w.functions.size⟩ [])).1 := by
  let g : Function := ⟨name, .body (nested name k) 0 false, []⟩
  let made : World := { w with functions := w.functions.push g }
  let pushed : World := made.withCall ⟨w.functions.size⟩ []
  let i : Instr := .pushFunction name (nested name k) 0 false []
  obtain ⟨state, functions⟩ := pushed.log_eq i.plain (.ok .nothing)
  let v : World := (pushed.log i.plain (.ok .nothing)).withStack w.state.stack
  -- the function that has been made lies on the stack when it is called
  have before : v.withCall ⟨w.functions.size⟩ [] = pushed.log i.plain (.ok .nothing) := by
    show { pushed.log i.plain (.ok .nothing) with
      state := { (pushed.log i.plain (.ok .nothing)).state with
        stack := pushed.state.stack } } = _
    rw [← state]
  refine ⟨v, g, ?_, ?_, rfl, fun run => ?_⟩
  · show { (pushed.log i.plain (.ok .nothing)).state with stack := w.state.stack } = w.state
    rw [state]
    rfl
  · show (pushed.log i.plain (.ok .nothing)).functions[w.functions.size]? = some g
    rw [functions]
    exact Array.getElem?_push_size
  · rw [nested, run_runBody_cons, show exec run i w = (.ok .nothing, pushed) from rfl]
    dsimp only
    rw [before, run_runBody_cons, run_exec_call]
    generalize call run 0 (some 0) (pushed.log i.plain (.ok .nothing)) = ended
    obtain ⟨r, u⟩ := ended
    cases r <;> rfl

/-- As many functions nest as there is room for. The induction is on how many are still to nest. -/
theorem run_nested (name : String) (k : Nat) (framed : w.state.Framed)
    (bounded : w.state.frames.length ≤ maxCallDepth)
    (enough : maxCallDepth ≤ w.state.frames.length + n) :
    (runBody (runAt n) (nested name k) w).1 =
      if w.state.frames.length + k ≤ maxCallDepth then .ok ()
      else .error (.stackOverflow maxCallDepth) := by
  induction k generalizing n w with
  | zero => rw [Nat.add_zero, if_pos bounded, nested, runBody, run_pure]
  | succ k ih =>
    obtain ⟨v, g, state, known, code, ran⟩ := run_nested_succ name k w
    rw [ran]
    rw [← state] at framed bounded enough ⊢
    rcases Nat.lt_or_eq_of_le bounded with room | full
    -- the next function runs one frame deeper, or is refused
    · obtain ⟨n, rfl⟩ : ∃ n', n = n' + 1 := ⟨n - 1, by omega⟩
      have deeper : (v.callFrame ⟨w.functions.size⟩ []).state.frames.length =
        v.state.frames.length + 1 := rfl
      have onward : v.state.frames.length + 1 + k = v.state.frames.length + (k + 1) := by omega
      rw [run_call_body (f := ⟨w.functions.size⟩) framed known code room,
        ih framed_callFrame (by omega) (by omega), deeper, onward]
    · have deep : maxCallDepth ≤ (v.withCall ⟨w.functions.size⟩ []).state.frames.length :=
        Nat.le_of_eq full.symm
      have called : call (runAt n) 0 (some 0) (v.withCall ⟨w.functions.size⟩ []) = _ :=
        run_call_withCall (runAt n) (some 0) framed ⟨w.functions.size⟩ []
      rw [called, run_invoke, if_pos deep, if_neg (by omega)]

end Nested

/-! ## At every moment -/

namespace Session

variable {es : List Event} {cs : List Caller} {w : World}

/-- Nothing runs between two commands. -/
theorem frames_after (es : List Event) : (after es).world.state.frames.length = 0 := by
  rw [(idle_after es).current.frames]
  rfl

/-- There is a frame for each caller that waits, and never too many. -/
theorem Under.depth (under : Under es cs w) :
    w.state.frames.length = cs.length ∧ w.state.frames.length ≤ maxCallDepth := by
  -- before a command no function runs, so every frame belongs to a caller within it
  have running : ∀ {before : List Event} {i : Instr} {m : Nat} {b : Activity} {x : World},
      Includes maxCallDepth (.instr i) (after before).world cs m b x →
        x.state.frames.length = cs.length ∧ x.state.frames.length ≤ maxCallDepth := by
    intro before i m b x includes
    obtain ⟨counted, bounded, -⟩ := includes.depth
    rw [frames_after, Nat.zero_add] at counted
    exact ⟨counted, bounded (by rw [frames_after]; exact Nat.zero_le _)⟩
  cases under with
  | between before rest split =>
    rw [frames_after]
    exact ⟨rfl, Nat.zero_le _⟩
  | starts split includes => exact running includes
  | @ends before rest i _ m b x split includes =>
    rw [(b.evolves m x).frames_eq]
    exact running includes

/-- The bound on nested runs leaves as much as the greatest depth leaves: what an instruction of a run
gets run has room for all frames that it may still open. -/
theorem fuel_eq {before : List Event} {i : Instr} {m : Nat} {b : Activity} {x : World}
    (includes : Includes maxCallDepth (.instr i) (after before).world cs m b x) :
    x.state.frames.length + m = maxCallDepth + b.opened := by
  obtain ⟨-, -, left⟩ := includes.depth
  have unopened : (Activity.instr i).opened = 0 := rfl
  rw [frames_after] at left
  omega

/-- The depth of calls at a moment of a run at which the callers `cs` wait. There is one frame for
each of them, at most `maxCallDepth`, and no activity, however it ends, leaves one more or one fewer.
An operation that comes to call a function is refused at the greatest depth, and only there; anywhere
else the function gets a frame and runs its code. So as many functions nest as frames are left. -/
theorem call_depth_bounded (under : Under es cs w) :
    w.state.frames.length = cs.length ∧ w.state.frames.length ≤ maxCallDepth ∧
    (∀ n (a : Activity), (a.after n w).state.frames = w.state.frames) ∧
    (∀ v, Evolves w v → ∀ op f, Invokes v op f →
      (Refused v op ↔ v.state.frames.length = maxCallDepth) ∧
      (v.state.frames.length ≠ maxCallDepth → ∀ n, maxCallDepth ≤ v.state.frames.length + n →
        ∃ u frame, Asks (fun run => op.run run) (runAt n) v f u ∧
          u.state.frames = frame :: w.state.frames ∧
          runAt n f u =
            match u.functions[f.index]? with
            | none => (.ok 0, u)
            | some g => g.runs runFunction u)) ∧
    ∀ n, maxCallDepth ≤ w.state.frames.length + n → ∀ name k,
      (runBody (runAt n) (nested name k) w).1 =
        if w.state.frames.length + k ≤ maxCallDepth then .ok ()
        else .error (.stackOverflow maxCallDepth) := by
  -- the frames are those of the moment, also where the operation comes to its call
  obtain ⟨counted, bounded⟩ := under.depth
  have framed := (moment_iff_under.mpr ⟨cs, under⟩).framed
  refine ⟨counted, bounded, fun n a => (a.evolves n w).frames_eq, ?_,
    fun n enough name k => run_nested name k framed bounded enough⟩
  intro v evolves op f invokes
  have frames := evolves.frames_eq
  have bounded' : v.state.frames.length ≤ maxCallDepth := by rwa [frames]
  have comes := invokes.comesTo (evolves.framed framed)
  refine ⟨comes.refused_iff bounded', fun other n enough => ?_⟩
  have room := Nat.lt_of_le_of_ne bounded' other
  obtain ⟨u, frame, asks, opened⟩ := comes.asks room (runAt n)
  have deeper : u.state.frames.length = v.state.frames.length + 1 := congrArg List.length opened
  refine ⟨u, frame, asks, frames ▸ opened, ?_⟩
  rw [← runFunction_eq (by omega) (by omega)]
  exact runAt_eq (by omega) (by omega) (by omega)

/-- A script that makes a function and calls it. -/
def caller : List Event :=
  [.command (.run (.pushFunction "f" [] 0 true [])), .command (.run (.call 0 (some 0)))]

/-- In a function that a script calls, one frame is taken: one function fewer than at the start of the
script nests there. -/
theorem call_depth_caller :
    ∃ cs w, Under caller cs w ∧ w.state.frames.length = 1 ∧
      (runBody (runAt maxCallDepth) (nested "g" 199) w).1 = .ok () ∧
      (runBody (runAt maxCallDepth) (nested "g" 200) w).1 = .error (.stackOverflow 200) := by
  let w := (after [.command (.run (.pushFunction "f" [] 0 true []))]).world
  -- the function that was pushed first is called, and the moment is the one in which it starts
  have callee : w.callee? (slotBelow w 0) = some (⟨0⟩, w) := rfl
  have called := asks_call (runAt maxCallDepth) (some 0) (by decide +kernel) (by decide +kernel)
    callee
  have asks : Asks (fun run => ScriptM.perform run (.call 0 (some 0))) _ w _ _ :=
    (Tracks.call roomy_any 0 (some 0)).heeds.asks_first called
  have split : caller = [.command (.run (.pushFunction "f" [] 0 true []))] ++
    .command (.run (.call 0 (some 0))) :: [] := rfl
  have under : Under caller _ _ := .starts split (.called asks (.self ..))
  obtain ⟨counted, -, -, -, nests⟩ := call_depth_bounded under
  have enough : ∀ d, maxCallDepth ≤ d + maxCallDepth := fun d => Nat.le_add_left ..
  refine ⟨_, _, under, counted, ?_, ?_⟩
  · rw [nests _ (enough _), counted]
    rfl
  · rw [nests _ (enough _), counted]
    rfl

end Session

end ScriptBind
