import ScriptBind.Proofs.Session.Locks
import ScriptBind.Proofs.Session.Views
import ScriptBind.Proofs.Session.Within
import Mathlib.Data.List.Induction

/-!
# Locked tables stay as they are

A locked table has the same entries, the same metatable and its lock after whatever runs, however
deep its calls nest, unless an instruction takes the lock away from this very table.

Main results:

* `Sparing.perform`, `World.Frozen.perform` — an instruction that calls no function and takes no
  lock away.
* `bounds_spares` — the steps of a run spare a table whose lock nobody takes away.
* `Session.spares_since` — so does the rest of a run.
-/

namespace ScriptBind

open ScriptM

/-! ## Instructions -/

/-- The instruction takes the lock away from a table. -/
def Instr.Unlocks (i : Instr) (w : World) (t : TableId) : Prop :=
  ∃ index, i = .setReadonly index false ∧ w.state.checkTable index = .ok t

/-- The instruction calls functions, as a method or otherwise. -/
def Instr.calls : Instr → Bool
  | .callMethod _ _ _ => true
  | i => i.mayCall

namespace Sparing

section

variable {P : World → Prop}

/-- An operand is only read. -/
theorem operand (o : Operand) : Keeps P (ScriptM.operand o) := .reads _

/-- A key is a value of the right kind, or refused. -/
theorem keyOf (o : Operand) : Keeps P (ScriptM.keyOf o) := by
  refine (operand o).bind fun v => ?_
  cases Key.ofValue v with
  | ok k => exact .pure k
  | error e => exact .throw e

/-- What is replied makes no difference. -/
theorem quietly {act : ScriptM Unit} (h : Keeps P act) : Keeps P (ScriptM.quietly act) :=
  h.bind fun _ => .pure _

/-- The method of a builtin type or of a class is looked up. -/
theorem methodOf (k : Context) (owner : MethodOwner) (method : String) :
    Keeps P (ScriptM.methodOf k owner method) := by
  refine (Keeps.reads _).bind fun r => ?_
  cases owner with
  | builtin type =>
    dsimp only
    split
    · exact .pure _
    · exact .throw _
  | object cls =>
    dsimp only
    split
    · exact .pure _
    · exact .throw _

end

variable {P : World → Prop} [Spared P]

/-- A registry, and a host that is known already. -/
theorem install (api : Nat ⊕ Registry) (host : Nat) :
    Keeps P (ScriptM.install api (.existing host)) :=
  plain fun w => by
    cases api <;> exact ⟨rfl, rfl, rfl⟩

/-- Only a raw payload is changed. -/
theorem bumpRaw (index : Int) : Keeps P (ScriptM.bumpRaw index) := by
  refine (Keeps.reads _).bind fun s => ?_
  split
  · exact .pure _
  next u _ =>
    intro w holds
    rw [run_bind, run_get]
    dsimp only
    cases payload : (w.userdatum u).payload with
    | raw n =>
      refine Spared.untouched (w := w) ⟨rfl, fun i d bound entry => ?_, fun h mem => ⟨h, mem, rfl⟩⟩
        holds
      -- the changed payload is bound to nothing, so it is not among the spared ones
      have other : u.index ≠ i := by
        intro here
        rw [World.userdatum, Array.getD_eq_getD_getElem?, here, entry] at payload
        exact bound n payload
      exact (Array.getElem?_modify ..).trans ((if_neg other).trans entry)
    | variant _ => exact holds
    | object _ => exact holds

/-- Every instruction spares what is spared, but for those that take a lock away, exchange the
metatable of whatever value, or bring another host. -/
theorem perform (run : Runner) {i : Instr} (calls : i.calls = false)
    (locks : ∀ index, i ≠ .setReadonly index false) (tags : ∀ index, i ≠ .setMetatable index)
    (hosts : ∀ api plan, i ≠ .install api (.fresh plan)) : Keeps P (ScriptM.perform run i) := by
  cases i
  all_goals dsimp only [ScriptM.perform]
  -- the stack
  case push value => exact quietly ((operand value).bind fun _ => push _)
  case pushValue index => exact quietly (onState _)
  case pop count => exact quietly (pop count)
  case popValue => exact popValue.bind fun _ => .reads _
  case remove index => exact quietly (onState _)
  case insert index => exact quietly (onState _)
  case setTop index => exact quietly (onState _)
  case absolute index => exact (Keeps.check _).bind fun _ => .pure _
  -- reading values
  case checkNumber index => exact (Keeps.check _).bind fun _ => .pure _
  case checkInteger index => exact (Keeps.check _).bind fun _ => .pure _
  case checkText index => exact (Keeps.check _).bind fun _ => .pure _
  case checkTable index => exact (Keeps.check _).bind fun _ => .reads _
  -- tables
  case newTable => exact quietly pushNewTable.discard
  case setField index key => exact quietly (setField index key)
  case setGlobal name => exact quietly (setGlobal name)
  case pushGlobals => exact quietly ((Keeps.reads _).bind fun _ => push _)
  case setMetatable index => exact absurd rfl (tags index)
  case pushMetatable index =>
    refine quietly (Keeps.get.bind fun w => ?_)
    split <;> exact push _
  case newMetatable name => exact (newMetatable name).bind fun _ => .pure _
  case getMetatable name => exact (getMetatable name).bind fun _ => .pure _
  case setReadonly index readonly =>
    cases readonly with
    | true => exact quietly ((Keeps.check _).bind fun s => lock s)
    | false => exact absurd rfl (locks index)
  case tableGet index key =>
    exact (keyOf key).bind fun _ => (Keeps.check _).bind fun _ => .reads _
  case tableSet index key value =>
    exact quietly ((keyOf key).bind fun k => (operand value).bind fun v =>
      (Keeps.check _).bind fun s => setKey s k v)
  case tableSetMetatable index metatable =>
    exact quietly ((operand metatable).bind fun mt => (Keeps.check _).bind fun s =>
      attach (fun _ => by nofun) _)
  case tableInfo index => exact (Keeps.check _).bind fun _ => .reads _
  -- userdata
  case newUserdata payload => exact quietly (pushUserdata payload).discard
  case checkUserdata index name => exact (checkUserdata index name).bind fun _ => .reads _
  case bumpRaw index => exact bumpRaw index
  -- functions and calls
  case pushFunction name body results quiet upvalues =>
    exact quietly ((Keeps.reads _).bind fun _ => pushFunction _)
  case pushConstantFunction name constant upvalues =>
    exact quietly ((Keeps.reads _).bind fun _ => pushFunction _)
  case pushHandler name handler upvalues =>
    exact quietly ((Keeps.reads _).bind fun _ => pushHandler _ _ _)
  case pushUpvalue n => exact quietly ((Keeps.reads _).bind fun _ => push _)
  case raise message => exact .throw _
  case argError index expected => exact (Keeps.reads _).bind fun _ => .throw _
  -- bindings
  case install api host =>
    cases host with
    | fresh plan => exact absurd rfl (hosts api plan)
    | existing host =>
      split
      · exact (install _ host).bind fun _ => .pure _
      · exact .throw _
  case openBuiltins => exact openBuiltins.bind fun _ => .pure _
  case openClasses => exact openClasses.bind fun _ => .pure _
  case openEnums => exact openEnums.bind fun _ => .pure _
  case newLibrary name metatable => exact quietly (newLibrary name metatable)
  case finishLibrary isObject => exact quietly (finishLibrary isObject)
  case pushBuiltin value => exact quietly (pushBuiltin value)
  case pushObject id => exact quietly (pushObject id)
  case checkArg index spelling =>
    exact context.bind fun k => (checkArg k index _).bind fun _ => .pure _
  case matchesArg index spelling =>
    exact context.bind fun k => (matchesArg k index _).bind fun _ => .pure _
  case collectArgs first owner method =>
    exact context.bind fun k => (methodOf k owner method).bind fun m =>
      (collectArgs k first m).bind fun _ => .pure _
  case pushResult owner method value =>
    exact context.bind fun k => (methodOf k owner method).bind fun m =>
      (pushResult m value).bind fun _ => .pure _
  -- native types and lazy constants
  case pushNative value => exact quietly (pushNative value)
  case checkNative type index => exact (checkNative type index).bind fun _ => .pure _
  case pushConstantAs type constant =>
    exact Keeps.get.bind fun _ => (pushConstantAs type _).bind fun _ => .pure _
  case constantValue constant host =>
    exact Keeps.get.bind fun _ => (constantOutcome _ (.pure host)).bind fun answer =>
      (granted answer).bind fun _ => .pure _
  case pushConstant constant =>
    exact Keeps.get.bind fun _ => (pushConstantAs .variant _).bind fun _ => .pure _
  -- hosts
  case hostNew host cls =>
    exact Keeps.get.bind fun _ w holds => Keeps.bind_ok (setClasses host _ holds) fun _ v _ h =>
      ((granted _).bind fun _ => .pure _) v h
  case hostFree host id => exact fun w holds => setClasses host _ holds
  -- all others that call nothing leave everything alone that is spared
  all_goals first
    | exact plain fun _ => ⟨rfl, rfl, rfl⟩
    | exact nomatch calls

/-- An access to a constant changes no locked table. -/
theorem access (c : Constant) (a : Access) : Keeps P (a.perform c) := by
  cases a with
  | push => exact (pushConstantAs .variant c).bind fun _ => .pure _
  | pushAs type => exact (pushConstantAs type c).bind fun _ => .pure _
  | value host =>
    exact (constantOutcome c (.pure host)).bind fun answer =>
      (granted answer).bind fun _ => .pure _
  | lookup => exact builtinGlobalIndex.bind fun _ => .pure _

/-- To open libraries, each of them new. -/
theorem openLibraries (setup : Setup) : Keeps P (ScriptM.openLibraries setup) :=
  .optional openBuiltins.discard fun _ => .optional openClasses.discard fun _ =>
    .ite openEnums.discard (.pure ())

end Sparing

namespace World.Frozen

variable {t : TableId} {c : Table}

/-- Any value may get another metatable, but for the locked table. -/
theorem setMetatable (index : Int) : Keeps (Frozen t c) (ScriptM.setMetatable index) :=
  Sparing.setMetatable_any (fun _ _ _ frozen => of_tables rfl frozen) index

/-- An installation changes no table. -/
theorem install (api : Nat ⊕ Registry) (host : HostSource) :
    Keeps (Frozen t c) (ScriptM.install api host) := by
  intro w frozen
  refine of_tables ?_ frozen
  cases api <;> cases host <;> rfl

/-- Nothing but the instruction that takes locks away changes a locked table. -/
theorem perform (run : Runner) {i : Instr} (calls : i.calls = false)
    (locks : ∀ index, i ≠ .setReadonly index false) :
    Keeps (Frozen t c) (ScriptM.perform run i) := by
  by_cases tags : ∃ index, i = .setMetatable index
  · obtain ⟨index, rfl⟩ := tags
    exact Sparing.quietly (setMetatable index)
  by_cases hosts : ∃ api plan, i = .install api (.fresh plan)
  · obtain ⟨api, plan, rfl⟩ := hosts
    dsimp only [ScriptM.perform]
    split
    · exact (install _ _).bind fun _ => .pure _
    · exact .throw _
  · exact Sparing.perform run calls locks (fun index same => tags ⟨index, same⟩)
      fun api plan same => hosts ⟨api, plan, same⟩

end World.Frozen

/-! ## Runs of instructions -/

/-- The table, if it is locked, is left as it is: the same entries, the same metatable, locked. -/
def Spares (t : TableId) (w v : World) : Prop := (w.table t).readonly = true → v.table t = w.table t

variable {t : TableId} {w v : World}

/-- Only tables matter. -/
theorem Spares.of_tables (same : v.tables = w.tables) : Spares t w v := fun _ => by
  rw [World.table, same]
  rfl

/-- What spares a locked table twice spares it. -/
theorem Spares.trans {u : World} (first : Spares t u v) (second : Spares t v w) : Spares t u w := by
  intro locked
  have kept := first locked
  rw [second (kept ▸ locked), kept]

/-- What leaves every locked table as it is spares them. -/
theorem Spares.of_keeps {α : Type} {act : ScriptM α} (keeps : ∀ c, Keeps (World.Frozen t c) act)
    (w : World) : Spares t w (act w).2 := fun locked => (keeps _ w ⟨locked, rfl⟩).2

/-- The stack and the frames are no tables. -/
theorem roomy_spares (t : TableId) : Roomy (Spares t) :=
  ⟨fun _ _ => rfl, Spares.trans, fun _ _ _ => .of_tables rfl⟩

namespace Instr

/-- An instruction that calls nothing does not care which functions there are. -/
theorem not_asks {i : Instr} (calls : i.calls = false) {run : Runner} {f : FunctionId} {u : World} :
    ¬ Asks (fun run => perform run i) run w f u := by
  cases i
  all_goals first
    | exact Asks.not_const _
    | exact nomatch calls

/-- An instruction that calls functions changes nothing but the state by itself. -/
theorem tracks {R : World → World → Prop} (roomy : Roomy R)
    (states : ∀ (w : World) (s : State), R w { w with state := s }) {i : Instr}
    (calls : i.calls = true) : Tracks R fun run => perform run i := by
  unfold Instr.calls at calls
  split at calls
  · exact (Tracks.callMethod roomy states _ _ _).quietly roomy
  · exact .perform roomy calls

/-- An instruction spares a table whose lock it does not take away. -/
theorem spares {i : Instr} (calls : i.calls = false) (run : Runner) (other : ¬ i.Unlocks w t) :
    Spares t w (perform run i w).2 := by
  by_cases locks : ∃ index, i = .setReadonly index false
  case neg =>
    exact .of_keeps (fun _ => .perform run calls fun index same => locks ⟨index, same⟩) w
  obtain ⟨index, rfl⟩ := locks
  show Spares t w (ScriptM.quietly (check (fun s => s.checkTable index) >>=
    fun s => ScriptM.setReadonly s false) w).2
  rw [ScriptM.quietly, run_bind, run_bind, run_check]
  cases found : w.state.checkTable index with
  | error e => exact (roomy_spares t).refl w
  | ok s =>
    -- what is unlocked is another table
    have apart : s ≠ t := fun same => other ⟨index, rfl, same ▸ found⟩
    exact fun locked => (World.Frozen.unlock apart false ⟨locked, rfl⟩).2

end Instr

/-- A relation that overlooks the state and the log bounds the steps of a run if it bounds what calls
no function: the calls themselves change nothing else. -/
theorem bounds_of_instrs {R : World → World → Prop} {P : Instr → World → Prop} (roomy : Roomy R)
    (aside : ∀ {w v : World}, v.tables = w.tables → v.userdata = w.userdata → v.hosts = w.hosts →
      R w v)
    (handler : ∀ (h : Handler) w, R w (h.run w).2)
    (constant : ∀ c w, R w (pushConstantAs .variant c w).2)
    (instr : ∀ {i : Instr} {w : World}, i.calls = false → ∀ run, P i w → R w (perform run i w).2) :
    Bounds R P where
  refl := roomy.refl
  trans := roomy.trans
  log _ _ _ _ := aside rfl rfl rfl
  handler := handler
  constant := constant
  -- an instruction either calls functions and leaves the world alone otherwise, or calls none
  before := by
    intro i run w u f _ trusts asks
    cases calls : i.calls with
    | true => exact (Instr.tracks roomy (fun _ _ => aside rfl rfl rfl) calls).before trusts asks
    | false => exact absurd asks (Instr.not_asks calls)
  after := by
    intro i run w allowed trusts
    cases calls : i.calls with
    | true => exact (Instr.tracks roomy (fun _ _ => aside rfl rfl rfl) calls).after trusts
    | false => exact instr calls run allowed

/-- The steps of a run spare a table whose lock no instruction takes away. -/
theorem bounds_spares (t : TableId) : Bounds (Spares t) fun i w => ¬ i.Unlocks w t := by
  refine bounds_of_instrs (roomy_spares t) (fun tables _ _ => .of_tables tables) ?_ ?_ ?_
  · exact fun h w => .of_keeps (fun _ => Sparing.handler h) w
  · exact fun c w => .of_keeps (fun _ => Sparing.pushConstantAs .variant c) w
  · exact fun calls run other => Instr.spares calls run other

/-! ## Runs of a session -/

namespace Session

variable {s : Session}

/-- A new state takes a new table. -/
theorem spares_withNewState (w : World) : Spares t w w.withNewState := fun _ =>
  congrFun w.table_push_empty t

/-- The groups are opened in tables that are not locked. -/
theorem spares_openLibraries (setup : Setup) (w : World) :
    Spares t w (openLibraries setup w).2 :=
  .of_keeps (fun _ => Sparing.openLibraries setup) w

/-- A state with bindings is set up in new tables. -/
theorem spares_withRuntime {setup : Setup} {host registry : Nat}
    (ready : w.withRuntime setup host registry = .ok v) : Spares t w v := by
  have opened := spares_openLibraries (t := t) setup (w.withContext host registry)
  rw [World.withRuntime_eq_ok.mp ready] at opened
  exact (spares_withNewState w).trans opened

/-- A state that is built spares the tables of the others. -/
theorem spares_setUp (setup : Setup) : Spares t s.world (s.setUp setup).2.world := by
  have tables := setup.tables_hosted s.world
  obtain ⟨_, ended⟩ | ⟨_, ended⟩ | ⟨_, _, _, _, _, enlists, ready, ended⟩ := s.setUp_cases setup
  · rw [ended]
    exact (roomy_spares t).refl _
  · rw [ended]
    exact .of_tables tables
  · rw [ended]
    obtain ⟨registries, rfl⟩ := enlists.exists_registries
    have enlisted : Spares t s.world { setup.hosted s.world with registries } := .of_tables tables
    exact enlisted.trans (spares_withRuntime ready)

/-- A command spares a table whose lock none of its instructions takes away. -/
theorem spares_perform (c : Command)
    (allows : ∀ i, c = .run i →
      Allows (fun j x => ¬ j.Unlocks x t) maxCallDepth (.instr i) s.world) :
    Spares t s.world (s.perform c).2.world := by
  cases c with
  | newState => exact spares_withNewState s.world
  | use i =>
    show Spares t s.world (s.goTo i).world
    unfold Session.goTo
    dsimp only
    split
    · exact .of_tables rfl
    · exact (roomy_spares t).refl _
  | newRuntime setup => exact spares_setUp setup
  | run i =>
    rw [world_perform_run]
    exact (bounds_spares t).ended (allows i rfl)

/-- An event spares a locked table if no instruction in it takes the lock away. -/
theorem spares_happen (e : Event)
    (allows : ∀ i, e = .command (.run i) →
      Allows (fun j x => ¬ j.Unlocks x t) maxCallDepth (.instr i) s.world) :
    Spares t s.world (s.happen e).world := by
  cases e with
  | command c =>
    exact .trans (spares_perform c fun i same => allows i (congrArg _ same)) (.of_tables rfl)
  | access registry type name a =>
    unfold Session.happen
    dsimp only
    split
    next c _ => exact .of_keeps (fun _ => Sparing.access c a) s.world
    next => exact (roomy_spares t).refl _

/-- `Since before later w`: the run of `later`, after that of `before`, is at one moment in the world
`w`, between two events or inside an instruction. -/
inductive Since (before later : List Event) : World → Prop
  | between (mid rest : List Event) (split : later = mid ++ rest) :
      Since before later (after (before ++ mid)).world
  | within {mid rest : List Event} {i : Instr} {w : World}
      (split : later = mid ++ .command (.run i) :: rest)
      (passes : Passes maxCallDepth (.instr i) (after (before ++ mid)).world w) :
      Since before later w

/-- No instruction of the run of `later`, after that of `before`, takes the lock away from the
table. -/
def Seals (before later : List Event) (t : TableId) : Prop :=
  ∀ mid i rest, later = mid ++ .command (.run i) :: rest →
    Allows (fun j x => ¬ j.Unlocks x t) maxCallDepth (.instr i) (after (before ++ mid)).world

/-- A run spares a table whose lock no instruction takes away, at every moment. -/
theorem spares_since {before later : List Event} (seals : Seals before later t)
    (since : Since before later v) : Spares t (after before).world v := by
  -- first the moments between events
  have between : ∀ mid rest, later = mid ++ rest →
      Spares t (after before).world (after (before ++ mid)).world := by
    intro mid
    induction mid using List.reverseRecOn with
    | nil =>
      intro _ _
      rw [List.append_nil]
      exact (roomy_spares t).refl _
    | append_singleton mid e ih =>
      intro rest split
      rw [List.append_assoc] at split
      rw [← List.append_assoc, after_append]
      refine (ih _ split).trans (spares_happen e fun i same => seals mid i rest ?_)
      rw [split, same]
      rfl
  cases since with
  | between mid rest split => exact between mid rest split
  | @within mid rest i _ split passes =>
    exact (between mid _ split).trans ((bounds_spares t).passes passes (seals mid i rest split))

end Session

end ScriptBind
