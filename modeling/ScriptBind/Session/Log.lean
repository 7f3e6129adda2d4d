import ScriptBind.Script.Words
import ScriptBind.Session.Answer

/-!
# The log

The log shows what instructions did, but for those that run muted. One that computes what does not
fit its width ends the program, so it is noted even then.

* `Instr.overflows` — whether an instruction computes what does not fit.
* `World.log` — the world with an entry more in the log.
-/

namespace ScriptBind

/-- The instruction without the mark that its error does not count. -/
def Instr.plain : Instr → Instr
  | attempt i => i.plain
  | i => i

/-- Whether an instruction with an outcome computes what does not fit its width, in a frame of so
many values. The arithmetic of a call comes before its outcome is known, that of a refused pop belongs
to the refusal, and arguments are counted once their method is known. -/
def Instr.overflows (top : Nat) (i : Instr) (outcome : Except ScriptError Reply) : Bool :=
  match i, outcome with
  | _, .error (.host (.overflow _)) => true
  | .call args _, _ => (Words.calleeCounts? args).isNone
  | .callMethod _ args _, _ => (Words.calleeCounts? args).isNone
  | .pop count, .error (.invalidIndex _) => (Words.negative? count).isNone
  | .collectArgs _ _ _, .error (.runtime _) => false
  | .collectArgs first _ _, _ => (Words.countFrom? top first).isNone
  | _, _ => false

namespace World

/-- The values of the running frame, lowest first. -/
def frameValues (w : World) : List Shown := (w.state.stack.drop w.state.base).map w.shown

/-- The requests that the log has not shown yet. -/
def unreported (w : World) : List (Nat × Request) := w.requests.toList.drop w.reported

/-- The entry of an instruction that has just ended. -/
def entry (w : World) (i : Instr) (outcome : Except ScriptError Reply) : Entry :=
  { instr := i
    outcome
    stack := w.frameValues
    depth := w.state.frames.length
    requests := w.unreported }

/-- The world in which all requests count as shown. -/
def reportAll (w : World) : World := { w with reported := w.requests.size }

/-- The world with an entry more in the log. In a muted world only an overflow is noted. -/
def log (w : World) (i : Instr) (outcome : Except ScriptError Reply) : World :=
  if w.muted && !i.overflows w.state.top outcome then w
  else { w with trace := w.trace.push (w.entry i outcome) }.reportAll

end World

end ScriptBind
