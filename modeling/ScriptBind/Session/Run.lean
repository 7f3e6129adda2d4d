import ScriptBind.Session.Step

/-!
# Running functions

* `ScriptM.runBody` — runs a body instruction by instruction and logs each.
* `runAt` — runs any function with a bound on the calls nested below it. Since calls nest no deeper
  than `maxCallDepth`, `runFunction` never meets that bound.
-/

namespace ScriptBind

/-- Whether an error of the instruction lets its body go on. -/
def Instr.isAttempt : Instr → Bool
  | attempt _ => true
  | _ => false

namespace ScriptM

/-- Runs the instructions of a body up to the first error that counts, and logs each. -/
def runBody (run : Runner) : List Instr → ScriptM Unit
  | [] => return ()
  | i :: rest => do
    let result ← outcome (exec run i)
    modify fun w => w.log i.plain result
    match result with
    | .ok _ => runBody run rest
    | .error e => if i.isAttempt then runBody run rest else throw e

/-- Runs an operation whose instructions and requests are not logged. -/
def unlogged (act : ScriptM Unit) : ScriptM Unit := do
  let muted := (← get).muted
  modify fun w => { w with muted := true }
  let result ← outcome act
  modify fun w => { w with muted }.reportAll
  match result with
  | .ok () => return ()
  | .error e => throw e

end ScriptM

/-- Runs the code of a function in its frame, with at most `fuel` calls nested from here. -/
def runAt : Nat → Runner
  | 0, _ => throw (.stackOverflow maxCallDepth)
  | fuel + 1, f => do
    match (← get).functions[f.index]? with
    | none => return 0
    | some g =>
      match g.code with
      | .handler h => h.run
      | .constant i => ScriptM.pushConstant ((← get).looseConstant i)
      | .body steps results quiet =>
        if quiet then ScriptM.unlogged (ScriptM.runBody (runAt fuel) steps)
        else ScriptM.runBody (runAt fuel) steps
        return results

/-- Runs the code of a function in its frame. -/
def runFunction : Runner := runAt maxCallDepth

end ScriptBind
