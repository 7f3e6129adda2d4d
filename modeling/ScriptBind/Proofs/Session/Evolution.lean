import ScriptBind.Session.Run
import ScriptBind.Proofs.Binding.Evolution
import ScriptBind.Proofs.Registry.Construction

/-!
# How running programs evolves a world

Every instruction is disciplined: it evolves whenever its runner does, and it hands functions to
the runner only in worlds that it enters. The runner that bodies get is the run of functions
itself, with one nested call less, so everything a function does is a composition of elementary
changes. The induction is on the number of calls that may still nest.

Main results:

* `Disciplined.exec` — an instruction, those that hold others included.
* `Evolving.runAt`, `Evolving.runFunction` — any function.
-/

namespace ScriptBind

open ScriptM

/-! ## Instructions -/

namespace Evolving

/-- An operand is only read. -/
theorem operand (o : Operand) : Evolving (ScriptM.operand o) := reads _

/-- Operands are only read. -/
theorem operands (os : List Operand) : Evolving (ScriptM.operands os) := reads _

/-- A value that is replied has been there before. -/
theorem replied (v : Value) : Evolving (ScriptM.replied v) := reads _

/-- A key is a value of the right kind, or refused. -/
theorem keyOf (o : Operand) : Evolving (ScriptM.keyOf o) := by
  refine (operand o).bind fun v => ?_
  cases Key.ofValue v with
  | ok k => exact pure k
  | error e => exact throw e

/-- What is replied makes no difference. -/
theorem quietly {act : ScriptM Unit} (h : Evolving act) : Evolving (ScriptM.quietly act) :=
  h.bind fun _ => pure _

/-- A registry that a source leads to is known already or built from a description. -/
theorem built_of_load {source : ApiSource} {r : Registry} (h : source.load = .ok (.inr r)) :
    ∃ d, Registry.ofApi d = .ok r := by
  cases source with
  | existing i => cases h
  | bundled =>
    obtain ⟨_, built, h⟩ := Registry.bind_eq_ok.mp h
    cases h
    exact ⟨_, built⟩
  | document text =>
    obtain ⟨d, -, h⟩ := Registry.bind_eq_ok.mp h
    obtain ⟨_, built, h⟩ := Registry.bind_eq_ok.mp h
    cases h
    exact ⟨d, built⟩

/-- A registry is made known unless it is known. -/
theorem evolves_adoptRegistry (w : World) {api : Nat ⊕ Registry}
    (built : ∀ r, api = .inr r → ∃ d, Registry.ofApi d = .ok r) :
    Evolves w (w.adoptRegistry api).2 := by
  cases api with
  | inl i => exact .refl w
  | inr r =>
    obtain ⟨d, hd⟩ := built r rfl
    exact .newRegistry w hd

/-- A host is made known unless it is known. -/
theorem evolves_adoptHost (w : World) (host : HostSource) : Evolves w (w.adoptHost host).2 := by
  cases host with
  | existing i => exact .refl w
  | fresh plan => exact .newHost w plan.host

/-- An installation makes registry and host known, and gives both to the state. -/
theorem install {api : Nat ⊕ Registry} (built : ∀ r, api = .inr r → ∃ d, Registry.ofApi d = .ok r)
    (host : HostSource) : Evolving (ScriptM.install api host) := by
  intro w
  -- the registry and the host are made known before the state is given both
  exact ((evolves_adoptRegistry w built).trans (evolves_adoptHost _ host)).trans
    (.data _ _ _ (some ⟨_, _⟩))

/-- The method of a builtin type or of a class is looked up. -/
theorem methodOf (c : Context) (owner : MethodOwner) (method : String) :
    Evolving (ScriptM.methodOf c owner method) := by
  refine (registry c).bind fun r => ?_
  cases owner with
  | builtin type =>
    dsimp only
    split
    · exact pure _
    · exact throw _
  | object cls =>
    dsimp only
    split
    · exact pure _
    · exact throw _

/-- A raw payload is replaced by the next number. -/
theorem bumpRaw (index : Int) : Evolving (ScriptM.bumpRaw index) := by
  refine state.bind fun s => ?_
  split
  · exact pure _
  next u _ =>
    refine get.bind fun w => ?_
    split
    · exact (change fun w => .setPayload w u _).bind fun _ => pure _
    · exact pure _
    · exact pure _

/-- To log is of no account but for the log. -/
theorem log (i : Instr) (outcome : Except ScriptError Reply) (w : World) :
    Evolves w (w.log i outcome) := by
  unfold World.log
  split
  · exact .refl w
  · exact .log w _ _ _

end Evolving

namespace Disciplined

/-- What is replied makes no difference. -/
theorem quietly {a : Runner → ScriptM Unit} (h : Disciplined a) :
    Disciplined fun run => ScriptM.quietly (a run) :=
  h.bind fun _ => const (.pure _)

/-- An instruction that holds no others. -/
theorem perform (i : Instr) : Disciplined fun run => perform run i := by
  cases i
  all_goals dsimp only [ScriptM.perform]
  -- the stack
  case push value => exact const ((Evolving.operand value).bind fun _ => .push _).quietly
  case pushValue index => exact const (Evolving.onState State.reshapes_of_pushValue).quietly
  case pop count => exact const (Evolving.pop count).quietly
  case popValue => exact const (Evolving.popValue.bind fun v => .replied v)
  case remove index => exact const (Evolving.onState State.reshapes_of_remove).quietly
  case insert index => exact const (Evolving.onState State.reshapes_of_insert).quietly
  case setTop index => exact const (Evolving.onState State.reshapes_of_setTop).quietly
  case getTop => exact const (Evolving.state.bind fun _ => .pure _)
  case absolute index => exact const ((Evolving.check _).bind fun _ => .pure _)
  case value index => exact const (.reads _)
  case kind index => exact const (.reads _)
  -- reading values
  case toBoolean index => exact const (Evolving.state.bind fun _ => .pure _)
  case toNumber index => exact const (Evolving.state.bind fun _ => .pure _)
  case toText index => exact const (Evolving.state.bind fun _ => .pure _)
  case toTable index => exact const (.reads _)
  case toUserdata index => exact const (.reads _)
  case checkNumber index => exact const ((Evolving.check _).bind fun _ => .pure _)
  case checkInteger index => exact const ((Evolving.check _).bind fun _ => .pure _)
  case checkText index => exact const ((Evolving.check _).bind fun _ => .pure _)
  case checkTable index => exact const ((Evolving.check _).bind fun _ => .reads _)
  -- tables
  case newTable => exact const Evolving.pushNewTable.discard.quietly
  case getField index key => exact (getField index key).quietly
  case setField index key => exact const (Evolving.setField index key).quietly
  case getGlobal name => exact (getGlobal name).quietly
  case setGlobal name => exact const (Evolving.setGlobal name).quietly
  case pushGlobals => exact const (Evolving.state.bind fun _ => .push _).quietly
  case setMetatable index => exact const (Evolving.setMetatable index).quietly
  case pushMetatable index =>
    refine const (Evolving.get.bind fun w => ?_).quietly
    split
    · exact .push _
    · exact .push _
  case newMetatable name => exact const ((Evolving.newMetatable name).bind fun _ => .pure _)
  case getMetatable name => exact const ((Evolving.getMetatable name).bind fun _ => .pure _)
  case metatableNamed name => exact const (.reads _)
  case metafield index event => exact const (.reads _)
  case setReadonly index readonly =>
    exact const ((Evolving.check _).bind fun t => .setReadonly t readonly).quietly
  case index target key =>
    exact (const (.operand key)).bind fun key => (const (.query _)).bind fun target =>
      (indexValue target key).bind fun v => const (.replied v)
  case tableGet index key =>
    exact const ((Evolving.keyOf key).bind fun _ => (Evolving.check _).bind fun _ => .reads _)
  case tableSet index key value =>
    exact const ((Evolving.keyOf key).bind fun k => (Evolving.operand value).bind fun v =>
      (Evolving.check _).bind fun t => .setKey t k v).quietly
  case tableSetMetatable index metatable =>
    exact const ((Evolving.operand metatable).bind fun mt => (Evolving.check _).bind fun t =>
      .attach (.table t) mt.asTable).quietly
  case tableInfo index => exact const ((Evolving.check _).bind fun _ => .reads _)
  -- userdata
  case newUserdata payload => exact const (Evolving.pushUserdata payload).discard.quietly
  case testUserdata index name => exact const (.reads _)
  case checkUserdata index name =>
    exact const ((Evolving.checkUserdata index name).bind fun _ => .reads _)
  case bumpRaw index => exact const (.bumpRaw index)
  -- functions and calls
  case pushFunction name body results quiet upvalues =>
    exact const ((Evolving.operands upvalues).bind fun _ => .pushFunction _).quietly
  case pushConstantFunction name constant upvalues =>
    exact const ((Evolving.operands upvalues).bind fun _ => .pushFunction _).quietly
  case pushHandler name handler upvalues =>
    exact const ((Evolving.operands upvalues).bind fun vs => .pushHandler name handler vs).quietly
  case functionDebug index => exact const (.reads _)
  case call args results => exact (call args results).quietly
  case callMethod method args results => exact (callMethod method args results).quietly
  case namecallName => exact const (Evolving.state.bind fun _ => .pure _)
  case upvalue n => exact const (.reads _)
  case pushUpvalue n => exact const (Evolving.state.bind fun _ => .push _).quietly
  case raise message => exact const (.throw _)
  case argError index expected => exact const (Evolving.state.bind fun _ => .throw _)
  case display index => exact (display index).bind fun _ => const (.pure _)
  case equal index other => exact (equal index other).bind fun _ => const (.pure _)
  case rawEqual index other => exact const (Evolving.state.bind fun _ => .pure _)
  case stateDebug => exact const (Evolving.state.bind fun _ => .pure _)
  -- application data
  case setNumberData value => exact const (Evolving.change fun w => .data w _ _ _).quietly
  case setTextData value => exact const (Evolving.change fun w => .data w _ _ _).quietly
  case getData => exact const (.reads _)
  case removeNumberData =>
    exact const (Evolving.state.bind fun _ =>
      (Evolving.change fun w => .data w none _ _).bind fun _ => .pure _)
  case removeTextData =>
    exact const (Evolving.state.bind fun _ =>
      (Evolving.change fun w => .data w _ none _).bind fun _ => .pure _)
  case removeContext =>
    exact const (Evolving.state.bind fun _ =>
      (Evolving.change fun w => .data w _ _ none).bind fun _ => .pure _)
  -- bindings
  case install api host =>
    split
    next api loaded =>
      have built : ∀ r, api = .inr r → ∃ d, Registry.ofApi d = .ok r := by
        rintro r rfl
        exact Evolving.built_of_load loaded
      exact const ((Evolving.install built host).bind fun _ => .pure _)
    next => exact const (.throw _)
  case openBuiltins => exact const (Evolving.openBuiltins.bind fun _ => .pure _)
  case openClasses => exact const (Evolving.openClasses.bind fun _ => .pure _)
  case openEnums => exact const (Evolving.openEnums.bind fun _ => .pure _)
  case newLibrary name metatable => exact const (Evolving.newLibrary name metatable).quietly
  case finishLibrary isObject => exact const (Evolving.finishLibrary isObject).quietly
  case libraryType index => exact const (.reads _)
  case pushBuiltin value => exact const (Evolving.pushBuiltin value).quietly
  case pushObject id => exact const (Evolving.pushObject id).quietly
  case getBuiltin index type => exact const (.reads _)
  case getAnyBuiltin index => exact const (.reads _)
  case checkArg index spelling =>
    exact const (Evolving.context.bind fun c => (Evolving.checkArg c index _).bind fun _ => .pure _)
  case matchesArg index spelling =>
    exact const (Evolving.context.bind fun c =>
      (Evolving.matchesArg c index _).bind fun _ => .pure _)
  case collectArgs first owner method =>
    exact const (Evolving.context.bind fun c => (Evolving.methodOf c owner method).bind fun m =>
      (Evolving.collectArgs c first m).bind fun _ => .pure _)
  case pushResult owner method value =>
    exact const (Evolving.context.bind fun c => (Evolving.methodOf c owner method).bind fun m =>
      (Evolving.pushResult m value).bind fun _ => .pure _)
  -- native types
  case pushNative value => exact const (Evolving.pushNative value).quietly
  case getNative type index => exact const (.reads _)
  case checkNative type index =>
    exact const ((Evolving.checkNative type index).bind fun _ => .pure _)
  case isNative type index => exact const (.reads _)
  case nativeOfVariant type value => exact const (.pure _)
  case pushConstantAs type constant =>
    exact const ((Evolving.pushConstantAs type constant).bind fun _ => .pure _)
  -- lazy constants
  case newConstant type name => exact const (Evolving.change fun w => .newConstant w _).quietly
  case constantValue constant host =>
    refine const fun w => .bind (.refl w) fun _ v known => ?_
    cases known
    refine .bind ?_ fun answer v _ => (Evolving.granted answer).bind (fun _ => .pure _) v
    have stands : w.Stands (w.looseConstant constant) := trivial
    exact Evolving.evolves_constantOutcome (fun _ => rfl) stands
  case pushConstant constant =>
    exact const ((Evolving.pushConstantAs .variant constant).bind fun _ => .pure _)
  case constantInfo constant => exact const (.reads _)
  -- hosts
  case hostNew host cls =>
    exact const fun w => .bind (.refl w) fun _ _ known => by
      cases known
      exact .bind (.classes (.instantiate cls)) fun _ v _ =>
        (Evolving.granted _).bind (fun _ => .pure _) v
  case hostFree host id =>
    exact const fun w => .bind (.refl w) fun _ _ known => by
      cases known
      exact .bind (.classes (.free id)) fun _ v _ => Evolving.pure _ v
  case hostObject host id properties => exact const (.reads _)
  case hostCount host => exact const (.reads _)
  -- instructions that hold others
  case repeated count body => exact const (.pure _)
  case attempt i => exact const (.pure _)

/-- An operation that is done a number of times, up to the first failure. -/
theorem times {act : Runner → ScriptM Unit} (h : Disciplined act) (n : Nat) :
    Disciplined fun run => times (act run) n := by
  induction n with
  | zero => exact const (.pure ())
  | succ n ih => exact h.bind fun _ => ih

/-- What an instruction sets to keep its own instructions out of the log is set back. -/
theorem repeated {act : Runner → ScriptM Unit} (h : Disciplined act) :
    Disciplined fun run =>
      (do
        let muted := (← MonadState.get).muted
        modify fun w => { w with muted := true }
        let result ← ScriptM.outcome (act run)
        modify fun w => { w with muted }
        match result with
        | .ok () => return .nothing
        | .error e => throw e : ScriptM Reply) := by
  refine (const .get).bind fun w => (const (Evolving.change fun v => .log v _ true _)).bind fun _ =>
    h.outcome.bind fun result =>
      (const (Evolving.change fun v => .log v _ w.muted _)).bind fun _ => ?_
  cases result with
  | ok _ => exact const (.pure _)
  | error e => exact const (.throw e)

mutual

/-- An instruction, those that hold others included. The induction is on the instruction. -/
theorem exec (i : Instr) : Disciplined fun run => exec run i := by
  cases i
  case repeated count body => exact ((execAll body).times count).repeated
  case attempt i => exact exec i
  all_goals exact perform _

/-- A block of instructions, up to the first that fails. -/
theorem execAll : (is : List Instr) → Disciplined fun run => execAll run is
  | [] => const (.pure ())
  | i :: rest => by
    refine (exec i).outcome.bind fun result =>
      (const (Evolving.change (Evolving.log i.plain result))).bind fun _ => ?_
    cases result with
    | ok _ => exact execAll rest
    | error e => exact const (.throw e)

end

end Disciplined

/-! ## Functions -/

namespace Evolving

/-- The body of a function goes on after attempts that fail, and ends with any other failure. -/
theorem runBody {run : Runner} (h : ∀ f, Evolving (run f)) (steps : List Instr) :
    Evolving (ScriptM.runBody run steps) := by
  induction steps with
  | nil => exact pure ()
  | cons i rest ih =>
    refine ((Disciplined.exec i).evolving h).outcome.bind fun result =>
      (change (log i.plain result)).bind fun _ => ?_
    cases result with
    | ok _ => exact ih
    | error e => exact ite ih (throw e)

/-- What is kept out of the log evolves like anything else. -/
theorem unlogged {act : ScriptM Unit} (h : Evolving act) : Evolving (ScriptM.unlogged act) := by
  refine get.bind fun w => (change fun v => .log v _ true _).bind fun _ =>
    h.outcome.bind fun result => (change fun v => .log v _ w.muted _).bind fun _ => ?_
  cases result with
  | ok _ => exact pure ()
  | error e => exact throw e

/-- Whatever a function does is a composition of elementary changes. The induction is on the number
of calls that may nest below it. -/
theorem runAt (n : Nat) (f : FunctionId) : Evolving (runAt n f) := by
  induction n generalizing f with
  | zero => exact throw _
  | succ n ih =>
    refine get.bind fun w => ?_
    dsimp only
    split
    · exact pure 0
    next g _ =>
      split
      · exact handler _
      · exact pushConstantAs .variant _
      · exact ite ((unlogged (runBody ih _)).bind fun _ => pure _)
          ((runBody ih _).bind fun _ => pure _)

/-- Whatever a function does from the top, all calls that may nest included. -/
theorem runFunction (f : FunctionId) : Evolving (runFunction f) := runAt maxCallDepth f

end Evolving

end ScriptBind
