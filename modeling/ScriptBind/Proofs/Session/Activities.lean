import ScriptBind.Proofs.Session.Runs

/-!
# What is running

`Passes` lists the worlds that an activity goes through. `Includes` tells besides what is running
there: which activity is part of which, and the instructions that have got functions called on the
way, the innermost first. The chain of these callers is what a script would show as its call stack.

What an instruction that holds others asks for, one of the instructions that it holds asks for, so
only instructions that hold no others are callers.

Main results:

* `Asks.of_bind`, `Asks.of_times` — a composed operation asks what one of its steps asks.
* `Includes.trans`, `Passes.exists_includes` — parts of parts are parts, and every moment of an
  activity is the start or the end of a part.
* `Session.moment_iff_under` — at every moment of a run there is a chain of callers.
-/

namespace ScriptBind

open ScriptM

/-! ## Asking step by step -/

namespace Asks

variable {α β : Type} {run : Runner} {w u : World} {f : FunctionId}

/-- An operation that calls no function asks for none. -/
theorem not_const (act : ScriptM α) : ¬ Asks (fun _ => act) run w f u :=
  fun ⟨_, _, differs⟩ => differs rfl

/-- It is either the first operation that asks, or the second one in the world that the first one
leaves. -/
theorem of_bind {a : Runner → ScriptM α} {g : Runner → α → ScriptM β}
    (asks : Asks (fun run => a run >>= g run) run w f u) :
    Asks a run w f u ∨ ∃ x v, a run w = (.ok x, v) ∧ Asks (fun run => g run x) run v f u := by
  obtain ⟨run', same, differs⟩ := asks
  by_cases first : a run' w = a run w
  · dsimp only at differs
    rw [run_bind, run_bind, first] at differs
    cases ran : a run w with
    | mk r v =>
      rw [ran] at differs
      cases r with
      | ok x => exact .inr ⟨x, v, rfl, run', same, differs⟩
      | error e => exact absurd rfl differs
  · exact .inl ⟨run', same, first⟩

theorem of_outcome {a : Runner → ScriptM α} (asks : Asks (fun run => outcome (a run)) run w f u) :
    Asks a run w f u := by
  obtain ⟨run', same, differs⟩ := asks
  refine ⟨run', same, fun equal => differs ?_⟩
  dsimp only
  rw [run_outcome, run_outcome, equal]

/-- An operation that is run several times asks at one of these times. -/
theorem of_times {act : Runner → ScriptM Unit} {count : Nat}
    (asks : Asks (fun run => times (act run) count) run w f u) :
    ∃ k v, k < count ∧ times (act run) k w = (.ok (), v) ∧ Asks act run v f u := by
  induction count generalizing w with
  | zero => exact absurd asks (not_const _)
  | succ count ih =>
    rcases asks.of_bind with first | ⟨_, v, ran, later⟩
    · exact ⟨0, w, Nat.succ_pos count, rfl, first⟩
    · obtain ⟨k, x, more, ran', asks⟩ := ih later
      refine ⟨k + 1, x, Nat.succ_lt_succ more, ?_, asks⟩
      rw [times, run_bind, ran]
      exact ran'

/-- What muted instructions ask for, they ask for in a muted world. -/
theorem of_repeated {act : Runner → ScriptM Unit}
    (asks : Asks (fun run =>
      (do
        let muted := (← MonadState.get).muted
        modify fun w => { w with muted := true }
        let result ← ScriptM.outcome (act run)
        modify fun w => { w with muted }
        match result with
        | .ok () => return .nothing
        | .error e => throw e : ScriptM Reply)) run w f u) :
    Asks act run w.mute f u := by
  rcases asks.of_bind with got | ⟨x, v, got, asks⟩
  · exact absurd got (not_const _)
  cases got
  rcases asks.of_bind with muted | ⟨_, v, muted, asks⟩
  · exact absurd muted (not_const _)
  cases muted
  rcases asks.of_bind with asks | ⟨_, v, -, unmuted⟩
  · exact asks.of_outcome
  · exact absurd unmuted (not_const _)

end Asks

/-- Instructions that hold others ask for nothing themselves. -/
theorem exec_of_asks {i : Instr} {run : Runner} {w u : World} {f : FunctionId}
    (asks : Asks (fun run => perform run i) run w f u) :
    (fun run => exec run i) = fun run => perform run i := by
  cases i with
  | repeated count body => exact absurd asks (Asks.not_const _)
  | attempt i => exact absurd asks (Asks.not_const _)
  | _ => rfl

/-! ## Parts of an activity -/

/-- An instruction that has got a function called, and the world that it started from. -/
structure Caller where
  instr : Instr
  world : World

/-- `Includes n a w cs m b x`: the activity `a`, which starts in the world `w` and in which at most
`n` calls nest, at one moment starts the activity `b` in the world `x`, in which at most `m` calls
nest. The instructions `cs` have got functions called on the way, the innermost first. -/
inductive Includes : Nat → Activity → World → List Caller → Nat → Activity → World → Prop
  | self (n : Nat) (a : Activity) (w : World) : Includes n a w [] n a w
  -- functions
  | function {n m : Nat} {f : FunctionId} {g : Function} {steps : List Instr} {results : Nat}
      {quiet : Bool} {w x : World} {cs : List Caller} {b : Activity}
      (known : w.functions[f.index]? = some g) (code : g.code = .body steps results quiet)
      (includes : Includes n (.body steps) (if quiet then w.mute else w) cs m b x) :
      Includes (n + 1) (.function f) w cs m b x
  | bodyFirst {n m : Nat} {i : Instr} {rest : List Instr} {w x : World} {cs : List Caller}
      {b : Activity} (includes : Includes n (.instr i) w cs m b x) :
      Includes n (.body (i :: rest)) w cs m b x
  | bodyRest {n m : Nat} {i : Instr} {rest : List Instr} {w u x : World} {cs : List Caller}
      {b : Activity} {r : Except ScriptError Reply} (ran : exec (runAt n) i w = (r, u))
      (goesOn : r.isOk ∨ i.isAttempt)
      (includes : Includes n (.body rest) (u.log i.plain r) cs m b x) :
      Includes n (.body (i :: rest)) w cs m b x
  -- instructions that hold others
  | blockFirst {n m : Nat} {i : Instr} {rest : List Instr} {w x : World} {cs : List Caller}
      {b : Activity} (includes : Includes n (.instr i) w cs m b x) :
      Includes n (.block (i :: rest)) w cs m b x
  | blockRest {n m : Nat} {i : Instr} {rest : List Instr} {w u x : World} {cs : List Caller}
      {b : Activity} {r : Reply} (ran : exec (runAt n) i w = (.ok r, u))
      (includes : Includes n (.block rest) (u.log i.plain (.ok r)) cs m b x) :
      Includes n (.block (i :: rest)) w cs m b x
  | repeated {n m k count : Nat} {body : List Instr} {w u x : World} {cs : List Caller}
      {b : Activity} (more : k < count) (ran : times (execAll (runAt n) body) k w.mute = (.ok (), u))
      (includes : Includes n (.block body) u cs m b x) :
      Includes n (.instr (.repeated count body)) w cs m b x
  | attempt {n m : Nat} {i : Instr} {w x : World} {cs : List Caller} {b : Activity}
      (includes : Includes n (.instr i) w cs m b x) : Includes n (.instr (.attempt i)) w cs m b x
  -- calls
  | called {n m : Nat} {i : Instr} {f : FunctionId} {w u x : World} {cs : List Caller} {b : Activity}
      (asks : Asks (fun run => perform run i) (runAt n) w f u)
      (includes : Includes n (.function f) u cs m b x) :
      Includes n (.instr i) w (cs ++ [⟨i, w⟩]) m b x

namespace Includes

variable {n m k : Nat} {a b c : Activity} {w x y : World} {cs cs' : List Caller}

/-- A part of a part is a part, below all callers of both. -/
theorem trans (h : Includes n a w cs m b x) (h' : Includes m b x cs' k c y) :
    Includes n a w (cs' ++ cs) k c y := by
  induction h with
  | self => rwa [List.append_nil]
  | function known code _ ih => exact .function known code (ih h')
  | bodyFirst _ ih => exact .bodyFirst (ih h')
  | bodyRest ran goesOn _ ih => exact .bodyRest ran goesOn (ih h')
  | blockFirst _ ih => exact .blockFirst (ih h')
  | blockRest ran _ ih => exact .blockRest ran (ih h')
  | repeated more ran _ ih => exact .repeated more ran (ih h')
  | attempt _ ih => exact .attempt (ih h')
  | called asks _ ih =>
    rw [← List.append_assoc]
    exact .called asks (ih h')

/-- The moments of a part are moments of the whole. -/
theorem passes {v : World} (h : Includes n a w cs m b x) (passes : Passes m b x v) :
    Passes n a w v := by
  induction h with
  | self => exact passes
  | function known code _ ih => exact .function known code (ih passes)
  | bodyFirst _ ih => exact .bodyFirst (ih passes)
  | bodyRest ran goesOn _ ih => exact .bodyRest ran goesOn (ih passes)
  | blockFirst _ ih => exact .blockFirst (ih passes)
  | blockRest ran _ ih => exact .blockRest ran (ih passes)
  | repeated more ran _ ih => exact .repeated more ran (ih passes)
  | attempt _ ih => exact .attempt (ih passes)
  | called asks _ ih => exact .called (by rw [exec_of_asks asks]; exact asks) (ih passes)

end Includes

mutual

/-- A function that an instruction gets called is part of it. -/
theorem includes_of_asks {n : Nat} {w u : World} {f : FunctionId} (i : Instr)
    (asks : Asks (fun run => exec run i) (runAt n) w f u) :
    ∃ cs, Includes n (.instr i) w cs n (.function f) u := by
  cases i
  case repeated count body =>
    obtain ⟨k, v, more, ran, asks⟩ := asks.of_repeated.of_times
    obtain ⟨cs, includes⟩ := includes_of_asks_all body asks
    exact ⟨cs, .repeated more ran includes⟩
  case attempt i =>
    obtain ⟨cs, includes⟩ := includes_of_asks i asks
    exact ⟨cs, .attempt includes⟩
  all_goals exact ⟨_, .called asks (.self ..)⟩

theorem includes_of_asks_all {n : Nat} {w u : World} {f : FunctionId} :
    (steps : List Instr) → Asks (fun run => execAll run steps) (runAt n) w f u →
      ∃ cs, Includes n (.block steps) w cs n (.function f) u
  | [], asks => absurd asks (Asks.not_const _)
  | i :: rest, asks => by
    rcases asks.of_bind with first | ⟨r, v, ran, later⟩
    · obtain ⟨cs, includes⟩ := includes_of_asks i first.of_outcome
      exact ⟨cs, .blockFirst includes⟩
    rcases later.of_bind with noted | ⟨_, _, noted, later⟩
    · exact absurd noted (Asks.not_const _)
    cases noted
    rw [run_outcome] at ran
    cases ran
    -- the rest is asked for only after an instruction that has ended well
    cases ended : exec (runAt n) i w with
    | mk r v =>
      rw [ended] at later
      cases r with
      | ok r =>
        obtain ⟨cs, includes⟩ := includes_of_asks_all rest later
        exact ⟨cs, .blockRest ended includes⟩
      | error e => exact absurd later (Asks.not_const _)

end

/-- At every moment of an activity, a part of it starts or ends. -/
theorem Passes.exists_includes {n : Nat} {a : Activity} {w v : World} (h : Passes n a w v) :
    ∃ cs m b x, Includes n a w cs m b x ∧ (v = x ∨ v = b.after m x) := by
  -- on the way to the moment: the part that starts or ends there is part of whatever is entered
  induction h with
  | start n a w => exact ⟨[], n, a, w, .self n a w, .inl rfl⟩
  | finish n a w => exact ⟨[], n, a, w, .self n a w, .inr rfl⟩
  | function known code _ ih =>
    obtain ⟨cs, m, b, x, includes, here⟩ := ih
    exact ⟨cs, m, b, x, .function known code includes, here⟩
  | bodyFirst _ ih =>
    obtain ⟨cs, m, b, x, includes, here⟩ := ih
    exact ⟨cs, m, b, x, .bodyFirst includes, here⟩
  | bodyRest ran goesOn _ ih =>
    obtain ⟨cs, m, b, x, includes, here⟩ := ih
    exact ⟨cs, m, b, x, .bodyRest ran goesOn includes, here⟩
  | blockFirst _ ih =>
    obtain ⟨cs, m, b, x, includes, here⟩ := ih
    exact ⟨cs, m, b, x, .blockFirst includes, here⟩
  | blockRest ran _ ih =>
    obtain ⟨cs, m, b, x, includes, here⟩ := ih
    exact ⟨cs, m, b, x, .blockRest ran includes, here⟩
  | repeated more ran _ ih =>
    obtain ⟨cs, m, b, x, includes, here⟩ := ih
    exact ⟨cs, m, b, x, .repeated more ran includes, here⟩
  | attempt _ ih =>
    obtain ⟨cs, m, b, x, includes, here⟩ := ih
    exact ⟨cs, m, b, x, .attempt includes, here⟩
  | @called n i f w u v asks _ ih =>
    obtain ⟨cs, m, b, x, includes, here⟩ := ih
    obtain ⟨cs', outer⟩ := includes_of_asks i asks
    exact ⟨cs ++ cs', m, b, x, outer.trans includes, here⟩

/-! ## Moments with their callers -/

namespace Session

/-- `Under es cs w`: the run of `es` is at one moment in the world `w`, and the instructions `cs`
have got functions called that are not over, the innermost first. -/
inductive Under (es : List Event) : List Caller → World → Prop
  | between (before rest : List Event) (split : es = before ++ rest) :
      Under es [] (after before).world
  | starts {before rest : List Event} {i : Instr} {cs : List Caller} {m : Nat} {b : Activity}
      {x : World} (split : es = before ++ .command (.run i) :: rest)
      (includes : Includes maxCallDepth (.instr i) (after before).world cs m b x) : Under es cs x
  | ends {before rest : List Event} {i : Instr} {cs : List Caller} {m : Nat} {b : Activity}
      {x : World} (split : es = before ++ .command (.run i) :: rest)
      (includes : Includes maxCallDepth (.instr i) (after before).world cs m b x) :
      Under es cs (b.after m x)

/-- The moments of a run are those at which some callers, or none, wait. -/
theorem moment_iff_under {es : List Event} {w : World} : Moment es w ↔ ∃ cs, Under es cs w := by
  constructor
  · rintro (⟨before, rest, split⟩ | ⟨split, passes⟩)
    · exact ⟨[], .between before rest split⟩
    · obtain ⟨cs, m, b, x, includes, rfl | rfl⟩ := passes.exists_includes
      · exact ⟨cs, .starts split includes⟩
      · exact ⟨cs, .ends split includes⟩
  · rintro ⟨cs, ⟨before, rest, split⟩ | ⟨split, includes⟩ | ⟨split, includes⟩⟩
    · exact .between before rest split
    · exact .within split (includes.passes (.start ..))
    · exact .within split (includes.passes (.finish ..))

end Session

end ScriptBind
