import ScriptBind.Proofs.Binding.Dispatch
import ScriptBind.Proofs.Session.Opening

/-!
# Operations that spare locked tables

A locked table refuses new entries and another metatable, and only one instruction takes the lock
away. Every other operation spares it: whatever it does and whether it fails or not, a locked table
is afterwards what it was. It is much the same with the engine values that userdata carry, which no
operation exchanges but the engine, when it is called for a method.

So the lemmas here are about any property that is `Spared`. There is one for each operation that
calls no function, in the order of the modules that define them.

Main results:

* `Sparing.changeTable` — a table that may refuse a change.
* `Sparing.openBuiltins`, `openClasses`, `openEnums` — the libraries.
* `Sparing.handler` — every handler, whatever its arguments.
-/

namespace ScriptBind

open ScriptM

/-- The second value from the top is the last but one that was pushed, if the frame reaches that
far. -/
theorem State.valueOrNil_second (s : State) (x y : Value) :
    ((s.push x).push y).valueOrNil (-2) = x ∨ ((s.push x).push y).valueOrNil (-2) = .nil := by
  unfold valueOrNil value? slot?
  rw [if_neg (by decide)]
  split
  · left
    simp [push]
  · exact .inr rfl

/-! ## What is spared -/

namespace World

/-- A table is locked and has these contents. -/
def Frozen (t : TableId) (c : Table) (w : World) : Prop := c.readonly = true ∧ w.table t = c

/-- Neither the tables nor the userdata that carry engine values or objects have changed, and no host
has come that has another engine. -/
structure Untouched (w v : World) : Prop where
  tables : v.tables = w.tables
  values : ∀ (i : Nat) (d : Userdata), (∀ n, d.payload ≠ .raw n) →
    w.userdata[i]? = some d → v.userdata[i]? = some d
  engines : ∀ h ∈ v.hosts, ∃ k ∈ w.hosts, h.engine = k.engine

/-- Worlds with the same tables, userdata and hosts differ in nothing that counts here. -/
theorem Untouched.of_eq {w v : World} (tables : v.tables = w.tables)
    (userdata : v.userdata = w.userdata) (hosts : v.hosts = w.hosts) : w.Untouched v where
  tables
  values := fun _ _ _ entry => userdata ▸ entry
  engines := fun h mem => ⟨h, hosts ▸ mem, rfl⟩

end World

/-- A property that survives whatever respects the locks of tables and leaves the userdata that
carry engine values, and a receiver that the engine of its host leaves behind. -/
class Spared (P : World → Prop) : Prop where
  untouched {w v : World} (h : w.Untouched v) (holds : P w) : P v
  allocTable : Keeps P ScriptM.allocTable
  changeTable (s : TableId) {f : Table → Except ScriptError Table}
    (refuses : ∀ old new, f old = .ok new → old.readonly = false) :
    Keeps P (ScriptM.changeTable s f)
  lock (s : TableId) : Keeps P (ScriptM.setReadonly s true)
  received {w : World} {target : Variant} (found : w.anyBuiltinAt? 1 = some target) (host : Nat)
    (method : String) (args : List Variant) (holds : P w) :
    P (ScriptM.writeReceiver ((w.host host).engine.call target method args).2 w).2

/-- What does not depend on tables survives all changes of them. -/
theorem keeps_changeTable {P : World → Prop} (aside : ∀ (w : World) tables, P w → P { w with tables })
    (s : TableId) (f : Table → Except ScriptError Table) : Keeps P (ScriptM.changeTable s f) := by
  intro w holds
  unfold ScriptM.changeTable
  rw [run_bind, run_get]
  dsimp only
  cases f (w.table s) with
  | error e => exact holds
  | ok new => exact aside w _ holds

/-! ## Locked tables -/

namespace World.Frozen

variable {t : TableId} {c : Table} {w : World}

/-- A locked table exists, so it is not the next one. -/
theorem allocTable : Keeps (Frozen t c) ScriptM.allocTable := by
  rintro w ⟨locked, same⟩
  refine ⟨locked, ?_⟩
  have made : t.index < w.tables.size := by
    refine Nat.lt_of_not_le fun outside => ?_
    have empty : w.table t = Table.empty := by
      rw [World.table, Array.getD_eq_getD_getElem?, Array.getElem?_eq_none outside]
      rfl
    rw [← same, empty] at locked
    cases locked
  exact (World.table_push made Table.empty).trans same

/-- The table whose contents change was not locked, or it would have refused. -/
theorem changeTable (s : TableId) {f : Table → Except ScriptError Table}
    (refuses : ∀ old new, f old = .ok new → old.readonly = false) :
    Keeps (Frozen t c) (ScriptM.changeTable s f) := by
  rintro w ⟨locked, same⟩
  unfold ScriptM.changeTable
  rw [run_bind, run_get]
  dsimp only
  cases changed : f (w.table s) with
  | error e => exact ⟨locked, same⟩
  | ok new =>
    refine ⟨locked, (w.table_modify t s fun _ => new).trans ?_⟩
    -- a locked table would have refused the change
    have other : ¬ (s.index = t.index ∧ t.index < w.tables.size) := by
      rintro ⟨here, -⟩
      have free := refuses _ new changed
      rw [show s = t from congrArg TableId.mk here, same, locked] at free
      cases free
    rw [if_neg other]
    exact same

/-- A lock may be put on, even where there is one. -/
theorem lock (s : TableId) : Keeps (Frozen t c) (ScriptM.setReadonly s true) := by
  rintro w ⟨locked, same⟩
  refine ⟨locked, (w.table_modify t s fun old => { old with readonly := true }).trans ?_⟩
  rw [same]
  split
  · obtain ⟨entries, metatable, readonly⟩ := c
    cases locked
    rfl
  · rfl

/-- A lock may be taken off another table. -/
theorem unlock {s : TableId} (other : s ≠ t) (readonly : Bool) (frozen : w.Frozen t c) :
    (ScriptM.setReadonly s readonly w).2.Frozen t c := by
  refine ⟨frozen.1, (w.table_modify t s fun old => { old with readonly }).trans ?_⟩
  rw [if_neg fun here => other (congrArg TableId.mk here.1)]
  exact frozen.2

/-- Only the tables matter. -/
theorem of_tables {v : World} (same : v.tables = w.tables) (frozen : w.Frozen t c) :
    v.Frozen t c := by
  refine ⟨frozen.1, ?_⟩
  rw [World.table, same]
  exact frozen.2

instance : Spared (Frozen t c) where
  untouched h := of_tables h.tables
  allocTable := allocTable
  changeTable := changeTable
  lock := lock
  received := by
    intro w _ _ _ _ _ frozen
    unfold writeReceiver
    rw [run_bind, run_state]
    dsimp only
    cases w.state.toUserdata? 1 with
    | some u => exact of_tables rfl frozen
    | none => exact frozen

end World.Frozen

/-! ## The metatable that is popped -/

/-- A popped value becomes the metatable of another one. -/
def ScriptM.attachPopped (target : Value) : Value → ScriptM Unit
  | .nil => attach target none
  | .table mt => attach target (some mt)
  | other => throw (.runtime ("metatable must be a table, got " ++ other.kind))

/-- The target is found first, and then the metatable is taken off the stack. -/
theorem ScriptM.run_setMetatable (index : Int) (w : World) :
    setMetatable index w = (popValue >>= attachPopped (w.state.valueOrNil index)) w := rfl

/-- Anything that is not a table or nil is refused as a metatable. -/
theorem keeps_attachPopped {P : World → Prop} {target : Value}
    (attached : ∀ mt, Keeps P (attach target mt)) (v : Value) :
    Keeps P (attachPopped target v) := by
  cases v with
  | nil => exact attached none
  | table mt => exact attached (some mt)
  | _ => exact .throw _

namespace Sparing

/-! ## Operations that only look -/

section

variable {α : Type} {P : World → Prop}

/-- A userdata is found by its metatable, and nothing changes. -/
theorem checkUserdata (index : Int) (name : String) :
    Keeps P (ScriptM.checkUserdata index name) := by
  refine Keeps.get.bind fun w => ?_
  split
  · exact .pure _
  · exact .throw _

/-- The context is looked up, or its absence reported. -/
theorem context : Keeps P ScriptM.context := by
  refine (Keeps.reads _).bind fun s => ?_
  split
  · exact .pure _
  · exact .throw _

/-- What a host has answered becomes a result or an error. -/
theorem granted (answer : Except HostError α) : Keeps P (ScriptM.granted answer) := by
  cases answer with
  | ok a => exact .pure a
  | error e => exact .throw _

/-- A native value is read. -/
theorem checkNative (type : NativeType) (index : Int) :
    Keeps P (ScriptM.checkNative type index) := by
  refine Keeps.get.bind fun w => ?_
  split
  · exact .pure _
  · exact .throw _

/-- What has not been found is an error, and nothing changes either way. -/
theorem demand (index : Int) (expected : String) (found : Option α) :
    Keeps P (ScriptM.demand index expected found) := by
  cases found with
  | some a => exact .pure a
  | none => exact (Keeps.reads _).bind fun _ => .throw _

/-- The binding of a type is looked up. -/
theorem builtinBinding (k : Context) (type : String) : Keeps P (ScriptM.builtinBinding k type) := by
  refine (Keeps.reads _).bind fun r => ?_
  split
  · exact .pure _
  · exact .throw _

/-- A text that belongs to a function is read. -/
theorem textUpvalue (n : Nat) : Keeps P (ScriptM.textUpvalue n) := by
  refine (Keeps.reads _).bind fun s => ?_
  split <;> exact .pure _

/-- The name of the called method is read. -/
theorem calledMethod : Keeps P ScriptM.calledMethod := by
  refine (Keeps.reads _).bind fun s => ?_
  split
  · exact .pure _
  · exact .throw _

/-- The receiver is read from the first argument. -/
theorem receiver : Keeps P ScriptM.receiver :=
  Keeps.get.bind fun _ => demand 1 "builtin" _

/-- The name of the class that a function belongs to is read. -/
theorem classUpvalue : Keeps P ScriptM.classUpvalue := by
  refine (textUpvalue 1).bind fun name => ?_
  split
  · exact .pure _
  · exact .throw _

/-- The object at the first argument is read. -/
theorem receivedObject : Keeps P ScriptM.receivedObject :=
  Keeps.get.bind fun _ => demand 1 _ _

/-- A class without instances refuses to make one. -/
theorem classRefusal : Keeps P ScriptM.classRefusal :=
  classUpvalue.bind fun _ => .throw _

end

variable {α : Type} {P : World → Prop} [Spared P]

/-! ## Elementary operations -/

/-- An operation that changes neither tables nor userdata nor hosts. -/
theorem plain {act : ScriptM α}
    (same : ∀ w, (act w).2.tables = w.tables ∧ (act w).2.userdata = w.userdata ∧
      (act w).2.hosts = w.hosts) : Keeps P act := by
  intro w holds
  obtain ⟨tables, userdata, hosts⟩ := same w
  exact Spared.untouched (.of_eq tables userdata hosts) holds

/-- A new table is none of those that are locked. -/
theorem allocTable : Keeps P ScriptM.allocTable := Spared.allocTable

/-- A change that locked tables refuse changes no locked table. -/
theorem changeTable (s : TableId) {f : Table → Except ScriptError Table}
    (refuses : ∀ old new, f old = .ok new → old.readonly = false) :
    Keeps P (ScriptM.changeTable s f) :=
  Spared.changeTable s refuses

/-- Entries are made in unlocked tables only. -/
theorem setKey (s : TableId) (k : Key) (v : Value) : Keeps P (ScriptM.setKey s k v) :=
  changeTable s fun _ _ entered => Table.unlocked_of_set entered

theorem setText (s : TableId) (name : String) (v : Value) : Keeps P (ScriptM.setText s name v) :=
  setKey s (.string name) v

/-- To lock a table takes no lock away. -/
theorem lock (s : TableId) : Keeps P (ScriptM.setReadonly s true) := Spared.lock s

/-- The state has neither tables nor userdata of its own. -/
theorem modifyState (f : State → State) : Keeps P (ScriptM.modifyState f) :=
  plain fun _ => ⟨rfl, rfl, rfl⟩

/-- An operation of the state changes nothing but the state. -/
theorem onState (f : State → Except ScriptError State) : Keeps P (ScriptM.onState f) :=
  plain fun w => by
    rw [run_onState]
    cases f w.state <;> exact ⟨rfl, rfl, rfl⟩

theorem push (v : Value) : Keeps P (ScriptM.push v) := modifyState _

theorem pop (n : Nat) : Keeps P (ScriptM.pop n) := onState _

theorem popValue : Keeps P ScriptM.popValue :=
  plain fun w => by
    rw [run_popValue]
    cases w.state.popValue <;> exact ⟨rfl, rfl, rfl⟩

/-- A host may get other classes and objects. -/
theorem setClasses (host : Nat) (db : ClassDb) {w : World} (holds : P w) :
    P (w.setClasses host db) := by
  refine Spared.untouched (w := w) ⟨rfl, fun _ _ _ entry => entry, fun h mem => ?_⟩ holds
  obtain ⟨i, bound, rfl⟩ := Array.mem_iff_getElem.mp mem
  have bound' : i < w.hosts.size := by simpa [World.setClasses] using bound
  refine ⟨w.hosts[i], Array.getElem_mem bound', ?_⟩
  simp only [World.setClasses, Array.getElem_modify]
  split <;> rfl

/-! ## Tables, metatables and userdata -/

/-- A table may refuse another metatable, and nothing else has one but userdata. -/
theorem attach {target : Value} (other : ∀ u, target ≠ .userdata u) (mt : Option TableId) :
    Keeps P (ScriptM.attach target mt) := by
  cases target with
  | table s =>
    refine changeTable s fun old new changed => ?_
    unfold Table.setMetatable at changed
    split at changed
    · cases changed
    next unlocked => simpa using unlocked
  | userdata u => exact absurd rfl (other u)
  | _ => exact .throw _

/-- A table is made and pushed. -/
theorem pushNewTable : Keeps P ScriptM.pushNewTable :=
  allocTable.bind fun _ => (push _).bind fun _ => .pure _

/-- A function is made and pushed. -/
theorem pushFunction (f : Function) : Keeps P (ScriptM.pushFunction f) :=
  plain fun _ => ⟨rfl, rfl, rfl⟩

theorem pushHandler (name : String) (h : Handler) (upvalues : List Value) :
    Keeps P (ScriptM.pushHandler name h upvalues) :=
  pushFunction _

/-- A new userdata takes none of the places that are taken. -/
theorem newUserdata (d : Userdata) {w : World} (state : State) (holds : P w) :
    P { w with userdata := w.userdata.push d, state } := by
  refine Spared.untouched (w := w)
    ⟨rfl, fun i x _ entry => ?_, fun h mem => ⟨h, mem, rfl⟩⟩ holds
  exact getElem?_push_kept entry d

/-- A userdata is made and pushed, and those from before carry what they did. -/
theorem pushUserdata (p : Payload) : Keeps P (ScriptM.pushUserdata p) :=
  fun w holds => newUserdata ⟨p, none⟩ (w.state.push _) holds

/-- The top is entered at a key, unless the table is locked. -/
theorem setField (index : Int) (key : String) : Keeps P (ScriptM.setField index key) :=
  (Keeps.check _).bind fun s => popValue.bind fun v => setText s key v

/-- The top becomes a global, unless the globals are locked. -/
theorem setGlobal (name : String) : Keeps P (ScriptM.setGlobal name) :=
  popValue.bind fun v => (Keeps.reads _).bind fun s => setText s.globals name v

/-- Where the value at the index is no userdata, none gets another metatable. -/
theorem setMetatable {index : Int} {w : World} (other : ∀ u, w.state.valueOrNil index ≠ .userdata u)
    (holds : P w) : P (ScriptM.setMetatable index w).2 :=
  popValue.bind (keeps_attachPopped (attach other)) w holds

/-- Where no userdata cares for its metatable, any value may get another one. -/
theorem setMetatable_any
    (userdata : ∀ (u : UserdataId) (mt : Option TableId), Keeps P (ScriptM.attach (.userdata u) mt))
    (index : Int) : Keeps P (ScriptM.setMetatable index) := by
  have attached : ∀ (target : Value) (mt : Option TableId), Keeps P (ScriptM.attach target mt) := by
    intro target mt
    cases target with
    | userdata u => exact userdata u mt
    | _ => exact attach (fun _ => by nofun) mt
  exact (Keeps.reads _).bind fun target => popValue.bind (keeps_attachPopped (attached target))

/-- A metatable that is made for a name is a new table. -/
theorem newMetatable (name : String) : Keeps P (ScriptM.newMetatable name) := by
  refine Keeps.get.bind fun w => ?_
  split
  · exact (push _).bind fun _ => .pure _
  · exact allocTable.bind fun _ => (modifyState _).bind fun _ => (push _).bind fun _ => .pure _

theorem getMetatable (name : String) : Keeps P (ScriptM.getMetatable name) := by
  refine Keeps.get.bind fun w => ?_
  split <;> exact (push _).bind fun _ => .pure _

/-! ## Requests -/

/-- A host is asked something, and no host changes. -/
theorem ask (host : Nat) (r : Request) (answer : Host → α) : Keeps P (ScriptM.ask host r answer) :=
  plain fun _ => ⟨rfl, rfl, rfl⟩

/-- A host makes or changes objects; its engine stays. -/
theorem askClasses (host : Nat) (r : Request) (answer : ClassDb → α × ClassDb) :
    Keeps P (ScriptM.askClasses host r answer) :=
  fun w holds => setClasses host _
    (Spared.untouched (w := w) (.of_eq rfl rfl rfl) holds)

/-! ## Native values -/

/-- The metatable of a type is found or made. -/
theorem instanceMetatable (name : String) : Keeps P (ScriptM.instanceMetatable name) := by
  refine Keeps.get.bind fun w => ?_
  split
  · exact .pure _
  · exact (newMetatable name).discard.bind fun _ => (Keeps.check _).bind fun _ =>
      (pop 1).bind fun _ => .pure _

/-- A new userdata is tagged; those from before are not. -/
theorem pushTagged (p : Payload) (mt : TableId) : Keeps P (ScriptM.pushTagged p mt) := by
  intro w holds
  rw [run_pushTagged]
  exact newUserdata ⟨p, some mt⟩ _ holds

/-- A math value is pushed as a new userdata. -/
theorem pushBuiltin (v : Variant) : Keeps P (ScriptM.pushBuiltin v) :=
  (instanceMetatable _).bind fun mt => pushTagged (.variant v) mt

/-- The shared metatable of objects is marked only if it is not locked. -/
theorem plainObjectMetatable : Keeps P ScriptM.plainObjectMetatable :=
  (instanceMetatable _).bind fun mt => Keeps.get.bind fun _ =>
    .optional (setText mt objectMark _) fun _ => .pure mt

/-- An object is pushed as a new userdata. -/
theorem pushObject (id : ObjectId) : Keeps P (ScriptM.pushObject id) := by
  refine context.bind fun c => (ask _ _ _).bind fun answer => (granted answer).bind fun cls =>
    (Keeps.reads _).bind fun r => Keeps.get.bind fun w => ?_
  split
  · exact pushTagged _ _
  · exact plainObjectMetatable.bind fun mt => pushTagged _ _

/-- An engine value is pushed in the way of its type. -/
theorem pushVariant (v : Variant) : Keeps P (ScriptM.pushVariant v) := by
  unfold ScriptM.pushVariant
  split
  case h_7 => exact pushObject _
  case h_8 => exact pushBuiltin v
  all_goals exact push _

theorem pushNative (v : NativeValue) : Keeps P (ScriptM.pushNative v) := by
  cases v with
  | math v => exact pushBuiltin v
  | object id => exact pushObject id
  | variant v => exact pushVariant v
  | _ => exact push _

/-! ## Lazy constants -/

/-- The outcome of a constant is kept apart from tables and userdata. -/
theorem constantOutcome (k : Constant) {host : ScriptM Nat} (finds : Keeps P host) :
    Keeps P (ScriptM.constantOutcome k host) := by
  refine Keeps.get.bind fun w => ?_
  split
  · exact .pure _
  · exact finds.bind fun i => (ask _ _ _).bind fun answer =>
      (plain fun _ => ⟨rfl, rfl, rfl⟩).bind fun _ => .pure _

/-- The outcome of a constant is fetched if need be, and pushed. -/
theorem pushConstantAs (type : NativeType) (k : Constant) :
    Keeps P (ScriptM.pushConstantAs type k) := by
  refine (constantOutcome k (context.bind fun _ => .pure _)).bind fun answer =>
    (granted answer).bind fun v => ?_
  split
  · exact (pushNative _).bind fun _ => .pure _
  · exact .throw _

/-! ## Arguments and results -/

/-- The class of an object may be asked for. -/
theorem checkObject (k : Context) (index : Int) (cls : String) :
    Keeps P (ScriptM.checkObject k index cls) := by
  refine (Keeps.reads _).bind fun s => .ite (.pure _) ?_
  exact Keeps.get.bind fun _ => (demand index cls _).bind fun id => (ask _ _ _).bind fun answer =>
    (granted answer).bind fun _ => (Keeps.reads _).bind fun _ =>
      .ite (.pure _) ((Keeps.reads _).bind fun _ => .throw _)

/-- An argument is converted to its type. -/
theorem checkArg (k : Context) (index : Int) (type : ArgType) :
    Keeps P (ScriptM.checkArg k index type) := by
  refine Keeps.get.bind fun w => ?_
  split
  case h_3 => exact checkObject k index _
  case h_4 => exact checkObject k index _
  all_goals exact demand index _ _

theorem matchesArg (k : Context) (index : Int) (type : ArgType) :
    Keeps P (ScriptM.matchesArg k index type) := by
  have checked : Keeps P (outcome (ScriptM.checkArg k index type)) := fun w frozen =>
    checkArg k index type w frozen
  refine checked.bind fun r => ?_
  cases r <;> exact .pure _

/-- All arguments are tried one after the other. -/
theorem matchArgs (k : Context) (types : List ArgType) (index : Int) :
    Keeps P (ScriptM.matchArgs k index types) := by
  induction types generalizing index with
  | nil => exact .pure true
  | cons type rest ih =>
    exact (matchesArg k index type).bind fun _ => .ite (ih (index + 1)) (.pure false)

/-- All arguments are converted one after the other. -/
theorem checkArgs (k : Context) (types : List ArgType) (index : Int) :
    Keeps P (ScriptM.checkArgs k index types) := by
  induction types generalizing index with
  | nil => exact .pure []
  | cons type rest ih =>
    exact (checkArg k index type).bind fun _ => (ih (index + 1)).bind fun _ => .pure _

/-- The arguments of a call are counted, and then converted. -/
theorem collectArgs (k : Context) (first : Int) (m : Registry.Method) :
    Keeps P (ScriptM.collectArgs k first m) := by
  refine (Keeps.reads _).bind fun s => ?_
  dsimp only
  split
  · exact (Keeps.throw _).bind fun _ => checkArgs k _ first
  · exact checkArgs k _ first

/-- A result is pushed if one is declared. -/
theorem pushResult (m : Registry.Method) (result : Variant) :
    Keeps P (ScriptM.pushResult m result) :=
  .ite (.pure 0) ((pushVariant result).bind fun _ => .pure 1)

/-! ## Libraries -/

/-- What is entered into a library is taken from the stack again, so it is the library that gets a
metatable, and no userdata. -/
theorem layLibrary (name metatable : String) : Keeps P (ScriptM.layLibrary name metatable) := by
  refine (push _).bind fun _ => (setField _ _).bind fun _ => fun u₀ h₀ => ?_
  -- each step is followed, so as to know what lies below the top in the end
  refine Keeps.bind_ok (pushNewTable.discard u₀ h₀) fun _ u₁ made₁ h₁ => ?_
  refine Keeps.bind_ok (pushNewTable.discard u₁ h₁) fun _ u₂ made₂ h₂ => ?_
  refine Keeps.bind_ok (push _ u₂ h₂) fun _ u₃ pushed₃ h₃ => ?_
  refine Keeps.bind_ok (setField _ _ u₃ h₃) fun _ u₄ set₄ h₄ => ?_
  refine Keeps.bind_ok (pushHandler _ _ _ u₄ h₄) fun _ u₅ pushed₅ h₅ => ?_
  refine Keeps.bind_ok (setField _ _ u₅ h₅) fun _ u₆ set₆ h₆ => ?_
  have state : u₆.state =
      (u₀.state.push (.table ⟨u₀.tables.size⟩)).push (.table ⟨u₁.tables.size⟩) := by
    rw [state_of_setField set₆, state_of_pushHandler pushed₅, state_of_setField set₄,
      state_of_push pushed₃, state_of_pushNewTable made₂, state_of_pushNewTable made₁]
    simp [State.push]
  have other : ∀ x, u₆.state.valueOrNil (-2) ≠ .userdata x := by
    intro x held
    rw [state] at held
    rcases State.valueOrNil_second u₀.state (.table ⟨u₀.tables.size⟩) (.table ⟨u₁.tables.size⟩)
      with same | same
    · cases same.symm.trans held
    · cases same.symm.trans held
  exact Keeps.bind_ok (setMetatable other h₆) fun _ u₇ _ h₇ => onState _ u₇ h₇

/-- A library is refused if the metatable that it is for is locked; anything else that is changed is
new or unlocked. -/
theorem newLibrary (name metatable : String) : Keeps P (ScriptM.newLibrary name metatable) := by
  rw [newLibrary_eq]
  exact (newMetatable metatable).discard.bind fun _ => Keeps.get.bind fun _ =>
    .ite ((pop 1).bind fun _ => .throw _)
      ((layLibrary name metatable).bind fun _ => setGlobal name)

/-- What is finished gets locks, and loses none. -/
theorem finishLibrary (isObject : Bool) : Keeps P (ScriptM.finishLibrary isObject) := by
  refine (Keeps.check _).bind fun lib => (Keeps.check _).bind fun mt =>
    .optional (setText _ _ _) fun _ => (setText _ _ _).bind fun _ => Keeps.get.bind fun w => ?_
  have locks : ∀ _ : Unit, Keeps P _ := fun _ =>
    (lock mt).bind fun _ => (lock lib).bind fun _ => pop 2
  dsimp only
  split
  · exact (setText _ _ _).bind fun _ => (lock _).bind locks
  · exact locks ()

/-- A function is entered under a key, unless the table is locked. -/
theorem installHandler (index : Int) (field name : String) (h : Handler) (upvalues : List Value) :
    Keeps P (ScriptM.installHandler index field name h upvalues) :=
  (pushHandler name h upvalues).bind fun _ => setField index field

/-! ## Builtin types -/

/-- A constant, an integer or a static method is pushed. -/
theorem pushLibraryEntry (k : Context) (b : Registry.Builtin) (type key : String) :
    Keeps P (ScriptM.pushLibraryEntry k b type key) := by
  unfold ScriptM.pushLibraryEntry
  split
  · exact pushConstantAs .variant _
  · split
    · exact (push _).bind fun _ => .pure 1
    · split
      · exact (pushHandler _ _ _).bind fun _ => .pure 1
      · exact .throw _

/-- A name is looked up in a library. -/
theorem builtinGlobalIndex : Keeps P ScriptM.builtinGlobalIndex := by
  refine (Keeps.check _).bind fun key => Keeps.get.bind fun _ => (demand 1 "library" _).bind
    fun type => context.bind fun k => (Keeps.reads _).bind fun r => ?_
  split
  · exact pushLibraryEntry _ _ _ _
  · exact .throw _

/-- A static method is run by the host. -/
theorem builtinStaticCall : Keeps P ScriptM.builtinStaticCall := by
  refine (textUpvalue 1).bind fun type => (textUpvalue 2).bind fun method => ?_
  split
  · refine context.bind fun k => (builtinBinding k _).bind fun b => ?_
    split
    · exact .throw _
    · exact (collectArgs k 1 _).bind fun args => (ask _ _ _).bind fun answer =>
        (granted answer).bind fun result => pushResult _ result
  · exact .throw _

/-- The receiver that is written is the one that the engine has left of the first argument. -/
theorem callResolved {w : World} {target : Variant} (found : w.anyBuiltinAt? 1 = some target)
    (k : Context) (m : Registry.Method) (args : List Variant) (holds : P w) :
    P (ScriptM.callResolved k target m args w).2 := by
  let u := w.asking [(k.host, .call target m.name args)]
  let r := (w.host k.host).engine.call target m.name args
  have asked : P u := Spared.untouched (w := w) (.of_eq rfl rfl rfl) holds
  show P ((ScriptM.granted r.1 >>= fun result =>
    if !m.flags.isConst then ScriptM.writeReceiver r.2 >>= fun _ => ScriptM.pushResult m result
    else ScriptM.pushResult m result) u).2
  refine Keeps.bind_ok (granted r.1 u asked) fun result v ran granted => ?_
  -- to look at the answer changes nothing
  obtain rfl : v = u := by
    cases given : r.1 with
    | ok x =>
      rw [given] at ran
      cases ran
      rfl
    | error e =>
      rw [given] at ran
      cases ran
  split
  · have received := Spared.received (P := P) (w := u) found k.host m.name args asked
    exact Keeps.bind_ok received fun _ x _ h => pushResult m result x h
  · exact pushResult m result u asked

/-- A method of a value is run by the host, and the receiver may be written back: this is what
spared properties allow for. -/
theorem callBuiltinMethod (method : String) : Keeps P (ScriptM.callBuiltinMethod method) := by
  intro w holds
  rw [run_callBuiltinMethod]
  cases found : w.anyBuiltinAt? 1 with
  | none => exact holds
  | some target =>
    dsimp only
    cases w.state.context with
    | none => exact holds
    | some k =>
      dsimp only
      cases (w.registry k.registry).builtin? target.tag.name with
      | none => exact holds
      | some b =>
        dsimp only
        cases instanceMethod? b method with
        | none => exact holds
        | some m =>
          -- the arguments are only looked at, so the receiver is still the one that was found
          obtain ⟨qs, -, ran⟩ :=
            (Inquires.collectArgs k 2 m).run_bind (ScriptM.callResolved k target m) w
          have asked : P (w.asking qs) := Spared.untouched (w := w) (.of_eq rfl rfl rfl) holds
          dsimp only
          rw [ran]
          cases (ScriptM.collectArgs k 2 m w).1 with
          | error e => exact asked
          | ok args => exact callResolved (w := w.asking qs) found k m args asked

/-- The method whose name the state has is called. -/
theorem builtinNamecall : Keeps P ScriptM.builtinNamecall :=
  calledMethod.bind fun method => callBuiltinMethod method

/-- A method that was fetched from a value is called. -/
theorem builtinMethod : Keeps P ScriptM.builtinMethod := by
  refine (textUpvalue 1).bind fun method => ?_
  split
  · exact callBuiltinMethod _
  · exact .throw _

/-- A member is asked for, or a method is handed out as a function. -/
theorem builtinMemberIndex : Keeps P ScriptM.builtinMemberIndex :=
  receiver.bind fun _ => (Keeps.check _).bind fun key => context.bind fun k =>
    (builtinBinding k _).bind fun _ =>
      .ite ((ask _ _ _).bind fun answer => (granted answer).bind fun v =>
          (pushVariant v).bind fun _ => .pure 1)
        (.ite ((pushHandler key .builtinMethod _).bind fun _ => .pure 1) (.throw _))

theorem builtinText : Keeps P ScriptM.builtinText :=
  receiver.bind fun _ => context.bind fun _ => (ask _ _ _).bind fun _ =>
    (push _).bind fun _ => .pure 1

theorem builtinEqual : Keeps P ScriptM.builtinEqual := by
  refine Keeps.get.bind fun w => ?_
  dsimp only
  split <;> exact (push _).bind fun _ => .pure 1

/-- Constructors are tried in order until one fits. -/
theorem fittingConstructor (k : Context) (count : Nat) (ks : List Registry.Constructor) :
    Keeps P (ScriptM.fittingConstructor k count ks) := by
  induction ks with
  | nil => exact .pure none
  | cons _ rest ih => exact .ite ((matchArgs k _ 1).bind fun _ => .ite (.pure _) ih) ih

/-- A value is constructed by the host and pushed. -/
theorem builtinConstructor : Keeps P ScriptM.builtinConstructor := by
  refine (textUpvalue 1).bind fun type => ?_
  split
  · exact .throw _
  · refine context.bind fun k => (builtinBinding k _).bind fun b => (Keeps.reads _).bind fun s =>
      (fittingConstructor k _ b.constructors).bind fun found => ?_
    split
    · exact .throw _
    · exact (checkArgs k _ 1).bind fun args => (ask _ _ _).bind fun answer =>
        (granted answer).bind fun v => (pushVariant v).bind fun _ => .pure 1

/-- The library of one builtin type is opened. -/
theorem openBuiltin (b : Registry.Builtin) : Keeps P (ScriptM.openBuiltin b) :=
  (newLibrary b.name b.name).bind fun _ => (installHandler _ _ _ _ _).bind fun _ =>
    (installHandler _ _ _ _ _).bind fun _ => (installHandler _ _ _ _ _).bind fun _ =>
      (installHandler _ _ _ _ _).bind fun _ => (installHandler _ _ _ _ _).bind fun _ =>
        finishLibrary false

/-- The libraries of all builtin types are opened, up to the first that fails. -/
theorem openBuiltins : Keeps P ScriptM.openBuiltins :=
  context.bind fun _ => (Keeps.reads _).bind fun _ =>
    (Keeps.forM _ fun b _ => openBuiltin b).bind fun _ => .pure _

/-! ## Classes -/

/-- An object is made by the host and pushed. -/
theorem classConstructor : Keeps P ScriptM.classConstructor :=
  classUpvalue.bind fun _ => context.bind fun _ => (askClasses _ _ _).bind fun answer =>
    (granted answer).bind fun id => (pushObject id).bind fun _ => .pure 1

/-- A method of an object is run by the host, which may change the object. -/
theorem classNamecall : Keeps P ScriptM.classNamecall := by
  refine calledMethod.bind fun method => receivedObject.bind fun id => context.bind fun k =>
    (ask _ _ _).bind fun answer => (granted answer).bind fun cls => (Keeps.reads _).bind fun r => ?_
  split
  · exact .throw _
  · exact (collectArgs k 2 _).bind fun args => (askClasses _ _ _).bind fun answer =>
      (granted answer).bind fun result => pushResult _ result

theorem objectText : Keeps P ScriptM.objectText :=
  receivedObject.bind fun _ => context.bind fun _ => (ask _ _ _).bind fun _ =>
    (push _).bind fun _ => .pure 1

theorem objectEqual : Keeps P ScriptM.objectEqual := by
  refine Keeps.get.bind fun w => ?_
  dsimp only
  split <;> exact (push _).bind fun _ => .pure 1

theorem installInteger (index : Int) (k : String × Int64) :
    Keeps P (ScriptM.installInteger index k) :=
  (push _).bind fun _ => setField index k.1

/-- The library of one class is opened. -/
theorem openClass (k : Registry.Class) : Keeps P (ScriptM.openClass k) := by
  have finished : ∀ _ : Unit, Keeps P _ := fun _ =>
    (Keeps.forM k.constants fun n _ => installInteger (-2) n).bind fun _ => finishLibrary true
  exact (newLibrary k.name k.name).bind fun _ => (installHandler _ _ _ _ _).bind fun _ =>
    (installHandler _ _ _ _ _).bind fun _ => (installHandler _ _ _ _ _).bind fun _ =>
      .ite ((installHandler _ _ _ _ _).bind finished) ((installHandler _ _ _ _ _).bind finished)

/-- The libraries of all classes are opened, up to the first that fails. -/
theorem openClasses : Keeps P ScriptM.openClasses :=
  context.bind fun _ => (Keeps.reads _).bind fun _ =>
    (Keeps.forM _ fun k _ => openClass k).bind fun _ => .pure _

/-! ## Global enums -/

/-- The table of enums is found among the globals, or made. -/
theorem enumTable : Keeps P ScriptM.enumTable := by
  refine Keeps.get.bind fun w => ?_
  split
  · exact .ite (.throw _) (.pure _)
  · exact pushNewTable.bind fun _ => (setGlobal _).bind fun _ => .pure _
  · exact .throw _

/-- A table for an enum is made, and locked when it is filled. -/
theorem openEnum (enums : TableId) (e : Registry.Enumeration) :
    Keeps P (ScriptM.openEnum enums e) :=
  pushNewTable.bind fun _ => (Keeps.forM e.values fun _ _ => setText _ _ _).bind fun _ =>
    (lock _).bind fun _ => (pop 1).bind fun _ => setText enums e.name _

/-- All enums are entered, and then their table is locked. -/
theorem openEnums : Keeps P ScriptM.openEnums :=
  context.bind fun _ => enumTable.bind fun enums => (Keeps.reads _).bind fun _ =>
    (Keeps.forM _ fun e _ => openEnum enums e).bind fun _ => (lock enums).bind fun _ => .pure _

/-! ## Handlers -/

/-- No handler changes a locked table. -/
theorem handler (h : Handler) : Keeps P h.run := by
  cases h with
  | builtinCtor => exact builtinConstructor
  | builtinGlobalIndex => exact builtinGlobalIndex
  | builtinMemberIndex => exact builtinMemberIndex
  | builtinNamecall => exact builtinNamecall
  | builtinMethod => exact builtinMethod
  | builtinStaticCall => exact builtinStaticCall
  | builtinText => exact builtinText
  | builtinEqual => exact builtinEqual
  | classCtor => exact classConstructor
  | classNoCtor => exact classRefusal
  | classNamecall => exact classNamecall
  | objectText => exact objectText
  | objectEqual => exact objectEqual

end Sparing

end ScriptBind
