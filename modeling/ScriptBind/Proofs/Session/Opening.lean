import ScriptBind.Proofs.Binding.Marshalling
import ScriptBind.Proofs.Session.Installed

/-!
# Opened libraries

Opening the library of a builtin type puts handlers into the metatable of its values and locks it.
The handlers stay there while other libraries are opened, and from then on as long as nobody takes
the lock away.

Main results:

* `openBuiltin_ok` — what one opened library leaves.
* `opened_openBuiltins` — the metatables of all builtin types are `World.Opened`.
* `World.Opened.later` — and they are in every later world in which nobody has changed them.
-/

namespace ScriptBind

open ScriptM

/-! ## Values on the stack -/

/-- A value with a few others above it is found from the top. -/
theorem State.value?_below {s : State} {below above : List Value} {x : Value} {index : Int}
    (stack : s.stack = below ++ x :: above) (low : s.base ≤ below.length)
    (counted : index = -(above.length + 1)) : s.value? index = some x := by
  have length : s.stack.length = below.length + (above.length + 1) := by simp [stack]
  have negative : index < 0 := by omega
  have count : index.natAbs = above.length + 1 := by omega
  have held : index < 0 ∧ index.natAbs ≤ s.top := by
    refine ⟨negative, ?_⟩
    rw [top]
    omega
  have slot : s.slot? index = some below.length := by
    rw [slot?, if_neg (by omega), if_pos held, count, length, Nat.add_sub_cancel]
  rw [value?, slot, stack]
  simp

/-- A table below other values is found at the index that counts them. -/
theorem State.checkTable_below {s : State} {below above : List Value} {t : TableId} {index : Int}
    (stack : s.stack = below ++ .table t :: above) (low : s.base ≤ below.length)
    (counted : index = -(above.length + 1)) : s.checkTable index = .ok t := by
  rw [checkTable, toTable?, value?_below stack low counted]
  rfl

/-- A push keeps the frame within the stack. -/
theorem State.framed_push {s : State} (framed : s.Framed) (x : Value) : (s.push x).Framed := by
  show s.base ≤ (s.stack ++ [x]).length
  rw [List.length_append]
  exact Nat.le_add_right_of_le framed

/-- The top can be copied. -/
theorem State.pushValue_top {s : State} (framed : s.Framed) (x : Value) :
    (s.push x).pushValue (-1) = .ok ((s.push x).push x) := by
  obtain ⟨k, slot, at_⟩ := Option.bind_eq_some_iff.mp (value?_push framed x)
  rw [pushValue, State.slot, slot]
  show Except.ok ((s.push x).push ((s.push x).stack.getD k .nil)) = _
  rw [List.getD_eq_getElem?_getD, at_]
  rfl

/-! ## Opened types -/

/-- The metatable of a name has the handlers of builtin values, and is locked. -/
def World.Opened (w : World) (name : String) : Prop :=
  ∃ mt, w.metatableNamed name = some mt ∧ (w.table mt).readonly = true ∧
    w.Bears mt "__namecall" .builtinNamecall ∧ w.Bears mt "__index" .builtinMemberIndex

namespace ScriptM

/-! ## The steps of a library -/

/-- Makes a library and its metatable above an instance metatable, and leaves the library twice. -/
def layLibrary (name metatable : String) : ScriptM Unit := do
  push (.string metatable)
  setField (-2) World.typeField
  discard pushNewTable
  discard pushNewTable
  push (.string name)
  setField (-2) World.typeField
  pushHandler "builtin_global_index" .builtinGlobalIndex []
  setField (-2) "__index"
  setMetatable (-2)
  onState fun s => s.pushValue (-1)

/-- A library is laid out unless its metatable is locked, and then made a global. -/
theorem newLibrary_eq (name metatable : String) :
    newLibrary name metatable = (do
      discard (newMetatable metatable)
      if (← MonadState.get).isReadonly (-1) then
        pop 1
        throw (.runtime ("library '" ++ name ++ "' is already open"))
      else
        layLibrary name metatable
        setGlobal name) := by
  unfold newLibrary layLibrary
  simp only [bind_assoc]
  rfl

/-! ## What an operation leaves on the stack -/

section Stack

variable {w v : World}

/-- A table that was changed has accepted the change. -/
theorem changeTable_ok {t : TableId} {f : Table → Except ScriptError Table}
    (ok : changeTable t f w = (.ok (), v)) :
    ∃ new, f (w.table t) = .ok new ∧ v = w.putTable t new := by
  unfold changeTable at ok
  rw [run_bind, run_get] at ok
  dsimp only at ok
  cases changed : f (w.table t) with
  | ok new =>
    rw [changed] at ok
    cases ok
    exact ⟨new, rfl, rfl⟩
  | error e =>
    rw [changed] at ok
    cases ok

/-- To change a table leaves the state alone. -/
theorem state_of_changeTable {t : TableId} {f : Table → Except ScriptError Table}
    (ok : changeTable t f w = (.ok (), v)) : v.state = w.state := by
  obtain ⟨new, -, rfl⟩ := changeTable_ok ok
  rfl

/-- An entry leaves the state alone. -/
theorem state_of_setText {t : TableId} {name : String} {x : Value}
    (ok : setText t name x w = (.ok (), v)) : v.state = w.state :=
  state_of_changeTable (f := fun old => old.set (.string name) x) ok

/-- A value that is taken off is gone from the top. -/
theorem state_of_popValue {x : Value} (ok : popValue w = (.ok x, v)) :
    v.state = { w.state with stack := w.state.stack.dropLast } := by
  rw [run_popValue] at ok
  cases popped : w.state.popValue with
  | error e =>
    rw [popped] at ok
    cases ok
  | ok taken =>
    rw [popped] at ok
    cases ok
    unfold State.popValue at popped
    split at popped
    · cases popped
    · cases popped
      rw [List.dropLast_eq_take]
      rfl

/-- The value that is entered is gone from the top. -/
theorem state_of_setField {index : Int} {key : String}
    (ok : setField index key w = (.ok (), v)) :
    v.state = { w.state with stack := w.state.stack.dropLast } := by
  obtain ⟨t, u, checked, ok⟩ := run_bind_eq_ok.mp ok
  rw [run_check] at checked
  obtain ⟨-, rfl⟩ := Prod.mk.inj checked
  obtain ⟨x, u, popped, ok⟩ := run_bind_eq_ok.mp ok
  rw [state_of_setText ok, state_of_popValue popped]

/-- The metatable that is attached is gone from the top. -/
theorem state_of_setMetatable {index : Int} (ok : setMetatable index w = (.ok (), v)) :
    v.state = { w.state with stack := w.state.stack.dropLast } := by
  -- a metatable is not part of the state
  have attached : ∀ {target : Value} {mt : Option TableId} {u : World},
      attach target mt u = (.ok (), v) → v.state = u.state := by
    intro target mt u ok
    cases target with
    | table t => exact state_of_changeTable (f := fun old => old.setMetatable mt) ok
    | userdata i =>
      cases ok
      rfl
    | _ => cases ok
  obtain ⟨target, u, read, ok⟩ := run_bind_eq_ok.mp ok
  cases read
  obtain ⟨x, u, popped, ok⟩ := run_bind_eq_ok.mp ok
  rw [← state_of_popValue popped]
  cases x with
  | nil => exact attached ok
  | table mt => exact attached ok
  | _ => cases ok

/-- A value that is pushed is on top. -/
theorem state_of_push {x : Value} (ok : push x w = (.ok (), v)) : v.state = w.state.push x := by
  cases ok
  rfl

/-- A new table is on top. -/
theorem state_of_pushNewTable (ok : discard pushNewTable w = (.ok (), v)) :
    v.state = w.state.push (.table ⟨w.tables.size⟩) := by
  cases ok
  rfl

/-- A new function is on top. -/
theorem state_of_pushHandler {name : String} {h : Handler} {upvalues : List Value}
    (ok : pushHandler name h upvalues w = (.ok (), v)) :
    v.state = w.state.push (.function ⟨w.functions.size⟩) := by
  cases ok
  rfl

/-- A handler that is installed leaves the stack as it was. -/
theorem state_of_installHandler {index : Int} {key name : String} {h : Handler}
    {upvalues : List Value} (ok : installHandler index key name h upvalues w = (.ok (), v)) :
    v.state = w.state := by
  obtain ⟨_, u, pushed, ok⟩ := run_bind_eq_ok.mp ok
  rw [state_of_setField ok, state_of_pushHandler pushed]
  simp [State.push]

/-- What is on top of the stack becomes the global of a name, if there is a table of globals. -/
theorem setGlobal_ok {name : String} {s : State} {x : Value} (framed : s.Framed)
    (top : w.state = s.push x) (something : x.isNil = false)
    (ok : setGlobal name w = (.ok (), v)) :
    v.state = s ∧ ((v.table s.globals).field name = x ∨ (v.table s.globals).field name = .nil) := by
  obtain ⟨y, u, popped, ok⟩ := run_bind_eq_ok.mp ok
  rw [run_popValue, top, State.popValue_push framed] at popped
  cases popped
  obtain ⟨s', u, read, ok⟩ := run_bind_eq_ok.mp ok
  cases read
  obtain ⟨new, set, rfl⟩ := changeTable_ok (f := fun old => old.set (.string name) x) ok
  refine ⟨rfl, ?_⟩
  have changed := { w with state := s }.table_modify s.globals s.globals fun _ => new
  -- a change of a table that is not there is none, and then the global stays nil
  split at changed
  · exact .inl ((congrArg (fun t => t.field name) changed).trans (Table.field_set set something))
  next outside =>
    have empty := World.table_empty (w := { w with state := s })
      (Nat.le_of_not_lt fun h => outside ⟨rfl, h⟩)
    exact .inr (congrArg (fun t => t.field name) (changed.trans empty))

/-- What is laid out is a new table, which stands on the stack twice: whatever is pushed for a field
or as a metatable is taken from there again. -/
theorem layLibrary_ok {name metatable : String} (framed : w.state.Framed)
    (ok : layLibrary name metatable w = (.ok (), v)) :
    ∃ lib, v.state = (w.state.push (.table lib)).push (.table lib) ∧ lib.index < v.tables.size := by
  obtain ⟨_, u₁, pushed₁, ok⟩ := run_bind_eq_ok.mp ok
  obtain ⟨_, u₂, set₂, ok⟩ := run_bind_eq_ok.mp ok
  obtain ⟨_, u₃, made₃, ok⟩ := run_bind_eq_ok.mp ok
  obtain ⟨_, u₄, made₄, ok⟩ := run_bind_eq_ok.mp ok
  obtain ⟨_, u₅, pushed₅, ok⟩ := run_bind_eq_ok.mp ok
  obtain ⟨_, u₆, set₆, ok⟩ := run_bind_eq_ok.mp ok
  obtain ⟨_, u₇, pushed₇, ok⟩ := run_bind_eq_ok.mp ok
  obtain ⟨_, u₈, set₈, ok⟩ := run_bind_eq_ok.mp ok
  obtain ⟨_, u₉, set₉, copied⟩ := run_bind_eq_ok.mp ok
  have state : u₉.state = w.state.push (.table ⟨u₂.tables.size⟩) := by
    rw [state_of_setMetatable set₉, state_of_setField set₈, state_of_pushHandler pushed₇,
      state_of_setField set₆, state_of_push pushed₅, state_of_pushNewTable made₄,
      state_of_pushNewTable made₃, state_of_setField set₂, state_of_push pushed₁]
    simp [State.push]
  -- the library has been made, and no table is taken away
  have size : u₂.tables.size < u₉.tables.size := by
    have size₃ : u₃.tables.size = u₂.tables.size + 1 := by
      cases made₃
      exact Array.size_push ..
    have size₄ := (Evolving.pushNewTable.discard.ran made₄).size_tables
    have size₅ := ((Evolving.push _).ran pushed₅).size_tables
    have size₆ := ((Evolving.setField _ _).ran set₆).size_tables
    have size₇ := ((Evolving.pushHandler _ _ _).ran pushed₇).size_tables
    have size₈ := ((Evolving.setField _ _).ran set₈).size_tables
    have size₉ := ((Evolving.setMetatable _).ran set₉).size_tables
    omega
  rw [run_onState, state, State.pushValue_top framed] at copied
  cases copied
  exact ⟨⟨u₂.tables.size⟩, rfl, size⟩

/-- A library that is made stands on the stack, above a registered metatable, and is the global of
its name, if there are globals. -/
theorem newLibrary_ok {name metatable : String} (framed : w.state.Framed)
    (ok : newLibrary name metatable w = (.ok (), v)) :
    ∃ mt lib, v.metatableNamed metatable = some mt ∧
      v.state.stack = w.state.stack ++ [.table mt, .table lib] ∧ lib.index < v.tables.size ∧
      ((v.table v.state.globals).field name = .table lib ∨
        (v.table v.state.globals).field name = .nil) := by
  rw [newLibrary_eq] at ok
  obtain ⟨_, u₁, made, ok⟩ := run_bind_eq_ok.mp ok
  have framed₁ := ((Evolving.newMetatable metatable).discard.ran made).framed framed
  obtain ⟨mt, named, stack⟩ : ∃ mt, u₁.metatableNamed metatable = some mt ∧
      u₁.state.stack = w.state.stack ++ [.table mt] := by
    rw [run_discard, run_newMetatable] at made
    cases known : w.metatableNamed metatable with
    | some mt =>
      rw [known] at made
      cases made
      exact ⟨mt, known, rfl⟩
    | none =>
      rw [known] at made
      cases made
      exact ⟨_, Keyed.get?_put_self .., rfl⟩
  obtain ⟨x, u₂, read, ok⟩ := run_bind_eq_ok.mp ok
  cases read
  split at ok
  -- a library that is open already is refused
  · obtain ⟨_, _, _, refused⟩ := run_bind_eq_ok.mp ok
    cases refused
  · obtain ⟨_, u₂, laid, ok⟩ := run_bind_eq_ok.mp ok
    obtain ⟨lib, state₂, inside⟩ := layLibrary_ok framed₁ laid
    have kept := ((Evolving.setGlobal name).ran ok).size_tables
    obtain ⟨state, global⟩ := setGlobal_ok (State.framed_push framed₁ _) state₂ rfl ok
    refine ⟨mt, lib, ?_, ?_, Nat.lt_of_lt_of_le inside kept, ?_⟩
    · show Keyed.get? metatable v.state.metatables = some mt
      rw [state]
      exact named
    · rw [state, State.push, stack, List.append_assoc]
      rfl
    · rw [state]
      exact global

/-- A handler that is installed is a new function, which stands in a field of the table at the
index. -/
theorem installHandler_ok {index : Int} {t : TableId} {key name : String} {h : Handler}
    {upvalues : List Value} (framed : w.state.Framed)
    (found : (w.state.push (.function ⟨w.functions.size⟩)).checkTable index = .ok t)
    (made : t.index < w.tables.size)
    (ok : installHandler index key name h upvalues w = (.ok (), v)) :
    (v.table t).field key = .function ⟨w.functions.size⟩ ∧
      v.functions[w.functions.size]? = some ⟨name, .handler h, upvalues⟩ := by
  obtain ⟨_, u, pushed, ok⟩ := run_bind_eq_ok.mp ok
  -- the function has been made, and is on top of the stack
  let made_w : World := { w with functions := w.functions.push ⟨name, .handler h, upvalues⟩ }
  obtain rfl : u = { made_w with state := w.state.push (.function ⟨w.functions.size⟩) } := by
    cases pushed
    rfl
  obtain ⟨s, u₁, checked, entered⟩ := run_bind_eq_ok.mp ok
  rw [run_check, found] at checked
  cases checked
  obtain ⟨x, u₂, popped, entered⟩ := run_bind_eq_ok.mp entered
  rw [run_popValue, State.popValue_push framed] at popped
  cases popped
  obtain ⟨new, set, rfl⟩ :=
    changeTable_ok (f := fun old => old.set (.string key) (.function ⟨w.functions.size⟩)) entered
  refine ⟨?_, Array.getElem?_push_size⟩
  have changed := made_w.table_modify t t fun _ => new
  rw [if_pos ⟨rfl, made⟩] at changed
  have entry : new.field key = .function ⟨w.functions.size⟩ := Table.field_set set rfl
  rw [← entry]
  exact congrArg (fun t => t.field key) changed

/-- A handler that is installed in the metatable below a library stands there. -/
theorem bears_installHandler {below : List Value} {mt lib : TableId} {key name : String}
    {h : Handler} {upvalues : List Value} (low : w.state.base ≤ below.length)
    (stack : w.state.stack = below ++ [.table mt, .table lib])
    (made : mt.index < w.tables.size)
    (ok : installHandler (-3) key name h upvalues w = (.ok (), v)) : v.Bears mt key h := by
  have framed : w.state.Framed := by
    show w.state.base ≤ w.state.stack.length
    rw [stack, List.length_append]
    omega
  have stack : (w.state.push (.function ⟨w.functions.size⟩)).stack =
      below ++ .table mt :: [.table lib, .function ⟨w.functions.size⟩] := by
    simp [State.push, stack]
  have found : (w.state.push (.function ⟨w.functions.size⟩)).checkTable (-3) = .ok mt :=
    State.checkTable_below stack low rfl
  obtain ⟨entry, known⟩ := installHandler_ok framed found made ok
  exact ⟨_, entry, World.handler?_eq_some.mpr ⟨_, known, rfl⟩⟩

/-- Values that are popped are gone from the top. -/
theorem state_of_pop {count : Nat} (ok : pop count w = (.ok (), v)) :
    v.state.stack = w.state.stack.take (w.state.stack.length - count) := by
  rw [pop, run_onState, State.pop] at ok
  by_cases held : count ≤ w.state.top
  · rw [if_pos held] at ok
    cases ok
    rfl
  · rw [if_neg held] at ok
    cases ok

/-- A table is locked, and those that were locked stay so. -/
theorem setReadonly_ok {s : TableId} (ok : setReadonly s true w = (.ok (), v)) :
    v.state = w.state ∧ v.tables.size = w.tables.size ∧
      (s.index < w.tables.size → (v.table s).readonly = true) ∧
      ∀ t, (w.table t).readonly = true → (v.table t).readonly = true := by
  cases ok
  have changed := fun t => w.table_modify t s fun old => { old with readonly := true }
  refine ⟨rfl, Array.size_modify, fun made => ?_, fun t locked => ?_⟩
  · have here := changed s
    rw [if_pos ⟨rfl, made⟩] at here
    exact congrArg Table.readonly here
  · refine (congrArg Table.readonly (changed t)).trans ?_
    split
    · rfl
    · exact locked

/-- Two tables that are locked stay so when their values are taken from the stack. -/
theorem lock_ok {mt lib : TableId} (mt_made : mt.index < w.tables.size)
    (lib_made : lib.index < w.tables.size)
    (ok : (do
      setReadonly mt true
      setReadonly lib true
      pop 2 : ScriptM Unit) w = (.ok (), v)) :
    (v.table mt).readonly = true ∧ (v.table lib).readonly = true ∧
      v.state.stack = w.state.stack.take (w.state.stack.length - 2) := by
  obtain ⟨_, u₁, first, ok⟩ := run_bind_eq_ok.mp ok
  obtain ⟨_, u₂, second, ok⟩ := run_bind_eq_ok.mp ok
  obtain ⟨state₁, size₁, locks_mt, -⟩ := setReadonly_ok first
  obtain ⟨state₂, -, locks_lib, stays⟩ := setReadonly_ok second
  have popped := state_of_pop ok
  -- nothing is popped but the stack
  have tables : v.tables = u₂.tables := by
    have kept : (pop 2 u₂).2.tables = u₂.tables := by
      rw [pop, run_onState]
      cases u₂.state.pop 2 <;> rfl
    rwa [ok] at kept
  have table : v.table = u₂.table := by
    funext t
    rw [World.table, World.table, tables]
  rw [table]
  rw [state₂, state₁] at popped
  exact ⟨stays mt (locks_mt mt_made), locks_lib (size₁ ▸ lib_made), popped⟩

/-- The end of `finishLibrary`. -/
def lockLibrary (mt lib : TableId) : ScriptM Unit := do
  setText mt "__metatable" (.string lockedMetatable)
  match ((← MonadState.get).table lib).metatable with
  | some libMt =>
    setText libMt "__metatable" (.string lockedMetatable)
    setReadonly libMt true
  | none => pure ()
  setReadonly mt true
  setReadonly lib true
  pop 2

/-- The end of a library: entries neither move the stack nor take tables away, and then the library
and its metatable are locked. -/
theorem lockLibrary_ok {mt lib : TableId} (mt_made : mt.index < w.tables.size)
    (lib_made : lib.index < w.tables.size)
    (ok : lockLibrary mt lib w = (.ok (), v)) :
    (v.table mt).readonly = true ∧ (v.table lib).readonly = true ∧
      v.state.stack = w.state.stack.take (w.state.stack.length - 2) := by
  obtain ⟨_, u₁, entered₁, ok⟩ := run_bind_eq_ok.mp ok
  have state₁ := state_of_setText entered₁
  have size₁ := ((Evolving.setText mt _ _).ran entered₁).size_tables
  obtain ⟨u, u₂, read, ok⟩ := run_bind_eq_ok.mp ok
  cases read
  -- the metatable of the library is locked first, if it has one
  cases tag : (u₁.table lib).metatable with
  | some libMt =>
    simp only [tag] at ok
    obtain ⟨_, u₃, entered₃, ok⟩ := run_bind_eq_ok.mp ok
    obtain ⟨_, u₄, locked₄, ok⟩ := run_bind_eq_ok.mp ok
    have state₃ := state_of_setText entered₃
    have size₃ := ((Evolving.setText libMt _ _).ran entered₃).size_tables
    obtain ⟨state₄, size₄, -, -⟩ := setReadonly_ok locked₄
    have locked := lock_ok (by omega) (by omega) ok
    rwa [state₄, state₃, state₁] at locked
  | none =>
    simp only [tag] at ok
    have locked := lock_ok (by omega) (by omega) ok
    rwa [state₁] at locked

/-- A finished library is locked together with its metatable. -/
theorem finishLibrary_ok {isObject : Bool} {below : List Value} {mt lib : TableId}
    (low : w.state.base ≤ below.length)
    (stack : w.state.stack = below ++ [.table mt, .table lib])
    (mt_made : mt.index < w.tables.size) (lib_made : lib.index < w.tables.size)
    (ok : finishLibrary isObject w = (.ok (), v)) :
    (v.table mt).readonly = true ∧ (v.table lib).readonly = true ∧ v.state.stack = below := by
  have found_mt : w.state.checkTable (-2) = .ok mt := State.checkTable_below stack low rfl
  have found_lib : w.state.checkTable (-1) = .ok lib := by
    have stack : w.state.stack = below ++ [.table mt] ++ .table lib :: [] := by simp [stack]
    exact State.checkTable_below stack (by simp; omega) rfl
  have cut : w.state.stack.take (w.state.stack.length - 2) = below := by
    rw [stack]
    simp
  obtain ⟨l, u₁, checked, ok⟩ := run_bind_eq_ok.mp ok
  rw [run_check, found_lib] at checked
  cases checked
  obtain ⟨m, u₂, checked₂, ok⟩ := run_bind_eq_ok.mp ok
  rw [run_check, found_mt] at checked₂
  cases checked₂
  -- the mark of object metatables is one more entry before the locks
  cases isObject with
  | false =>
    have locked := lockLibrary_ok mt_made lib_made ok
    rwa [cut] at locked
  | true =>
    obtain ⟨_, u₃, marked, ok⟩ := run_bind_eq_ok.mp ok
    have size := ((Evolving.setText mt _ _).ran marked).size_tables
    have locked := lockLibrary_ok (by omega) (by omega) ok
    rwa [state_of_setText marked, cut] at locked

/-! ## Opened builtin types -/

/-- An opened library leaves the stack, and the metatable of its values has their handlers. -/
theorem openBuiltin_ok {b : Registry.Builtin} (framed : w.state.Framed)
    (housed : w.Houses w.state) (ok : openBuiltin b w = (.ok (), v)) :
    v.Opened b.name ∧ v.state.stack = w.state.stack := by
  obtain ⟨_, u₀, created, ok⟩ := run_bind_eq_ok.mp ok
  obtain ⟨mt, lib, named, stack, lib_made, -⟩ := newLibrary_ok framed created
  have evolves₀ : Evolves w u₀ := (Evolving.newLibrary b.name b.name).ran created
  have made₀ : mt.index < u₀.tables.size := (evolves₀.houses housed).of_named named
  obtain ⟨_, u₁, namecall, ok⟩ := run_bind_eq_ok.mp ok
  obtain ⟨_, u₂, index, ok⟩ := run_bind_eq_ok.mp ok
  obtain ⟨_, u₃, text, ok⟩ := run_bind_eq_ok.mp ok
  obtain ⟨_, u₄, equality, ok⟩ := run_bind_eq_ok.mp ok
  obtain ⟨_, u₅, constructor, ok⟩ := run_bind_eq_ok.mp ok
  -- the state is the same after each handler
  have state₁ := state_of_installHandler namecall
  have state₂ : u₂.state = u₀.state := (state_of_installHandler index).trans state₁
  have state₅ : u₅.state = u₀.state := by
    rw [state_of_installHandler constructor, state_of_installHandler equality,
      state_of_installHandler text, state₂]
  have low : u₀.state.base ≤ w.state.stack.length := evolves₀.base_eq.symm ▸ framed
  have evolves : ∀ {i key name h upvalues} {a b : World},
      installHandler i key name h upvalues a = (.ok (), b) → Evolves a b := by
    intro i key name h upvalues a b ok
    exact (Evolving.installHandler i key name h upvalues).ran ok
  have made₁ : mt.index < u₁.tables.size :=
    Nat.lt_of_lt_of_le made₀ (evolves namecall).size_tables
  -- a handler stays while other fields are entered
  have stays {key : String} {h : Handler} (text_apart : "__tostring" ≠ key)
      (equality_apart : "__eq" ≠ key) (new_apart : "new" ≠ key) (locked_apart : "__metatable" ≠ key)
      (mark_apart : objectMark ≠ key) (at₂ : World.Installed mt key h false u₂) :
      World.Installed mt key h false v := by
    have at₃ := (Keeps.installHandler (-3) "__tostring" (.inr text_apart) _ _ _).after text at₂
    have at₄ := (Keeps.installHandler (-3) "__eq" (.inr equality_apart) _ _ _).after equality at₃
    have at₅ := (Keeps.installHandler (-2) "new" (.inr new_apart) _ _ _).after constructor at₄
    exact (Keeps.finishLibrary false (.inr locked_apart) (.inr mark_apart)).after ok at₅
  have namecall_stays : World.Installed mt "__namecall" .builtinNamecall false v := by
    have at₁ : World.Installed mt "__namecall" .builtinNamecall false u₁ :=
      ⟨bears_installHandler low stack made₀ namecall, nofun⟩
    have at₂ := (Keeps.installHandler (-3) "__index" (.inr (by decide)) _ _ _).after index at₁
    exact stays (by decide) (by decide) (by decide) (by decide) (by decide) at₂
  have index_stays : World.Installed mt "__index" .builtinMemberIndex false v := by
    have at₂ : World.Installed mt "__index" .builtinMemberIndex false u₂ :=
      ⟨bears_installHandler (state₁ ▸ low) (state₁ ▸ stack) made₁ index, nofun⟩
    exact stays (by decide) (by decide) (by decide) (by decide) (by decide) at₂
  have later := (((((evolves namecall).trans (evolves index)).trans (evolves text)).trans
    (evolves equality)).trans (evolves constructor)).size_tables
  obtain ⟨locked, -, left⟩ := finishLibrary_ok (state₅ ▸ low) (state₅ ▸ stack)
    (Nat.lt_of_lt_of_le made₀ later) (Nat.lt_of_lt_of_le lib_made later) ok
  have named_still : v.metatableNamed b.name = some mt := by
    have named₅ : u₅.metatableNamed b.name = some mt := by
      show Keyed.get? b.name u₅.state.metatables = some mt
      rw [state₅]
      exact named
    exact ((Evolving.finishLibrary false).ran ok).metatable_kept named₅
  exact ⟨⟨mt, named_still, locked, namecall_stays.bears, index_stays.bears⟩, left⟩

/-- Opening other libraries leaves an opened one as it is. -/
theorem keeps_opened (bs : List Registry.Builtin) (name : String) :
    Keeps (fun w => w.Opened name) (bs.forM openBuiltin) := by
  have one : ∀ b, Keeps (fun w => w.Opened name) (openBuiltin b) := by
    rintro b w ⟨mt, named, locked, namecall, index⟩
    have evolves := Evolving.openBuiltin b w
    have namecall' := Keeps.openBuiltin b w ⟨namecall, fun _ => locked⟩
    have index' := Keeps.openBuiltin b w ⟨index, fun _ => locked⟩
    exact ⟨mt, evolves.metatable_kept named, namecall'.readonly rfl, namecall'.bears,
      index'.bears⟩
  exact .forM bs fun b _ => one b

/-- The induction is on the types that are still to be opened. -/
theorem opened_forM {bs : List Registry.Builtin} (framed : w.state.Framed)
    (housed : w.Houses w.state) (ok : bs.forM openBuiltin w = (.ok (), v)) :
    ∀ b ∈ bs, v.Opened b.name := by
  induction bs generalizing w with
  | nil => exact fun b hb => absurd hb List.not_mem_nil
  | cons k rest ih =>
    obtain ⟨_, u, first, others⟩ := run_bind_eq_ok.mp ok
    have evolves : Evolves w u := (Evolving.openBuiltin k).ran first
    intro b hb
    rcases List.mem_cons.mp hb with rfl | hb
    · exact (keeps_opened rest b.name).after others (openBuiltin_ok framed housed first).1
    · exact ih (evolves.framed framed) (evolves.houses housed) others b hb

/-- The builtin types of a registry that have libraries. -/
def libraryTypes (r : Registry) : List Registry.Builtin :=
  r.builtins.filter fun b => !b.tag.isScriptNative

/-- Once the builtin types have been opened, the metatables of all of them have their handlers. -/
theorem opened_openBuiltins {c : Context} {count : Nat} (framed : w.state.Framed)
    (housed : w.Houses w.state) (context : w.state.context = some c)
    (ok : openBuiltins w = (.ok count, v)) :
    ∀ b ∈ libraryTypes (w.registry c.registry), v.Opened b.name := by
  obtain ⟨d, u₁, found, ok⟩ := run_bind_eq_ok.mp ok
  rw [run_context, context] at found
  cases found
  obtain ⟨r, u₂, read, ok⟩ := run_bind_eq_ok.mp ok
  cases read
  obtain ⟨_, u₃, opened, ok⟩ := run_bind_eq_ok.mp ok
  cases ok
  exact opened_forM framed housed opened

end Stack

end ScriptM

/-- What was opened is so in every later world in which the name has its metatable and the table is
as it was. -/
theorem World.Opened.later {w v : World} {name : String} (opened : w.Opened name)
    (later : Leads w v)
    (intact : ∃ mt, w.metatableNamed name = some mt ∧ v.metatableNamed name = some mt ∧
      v.table mt = w.table mt) : v.Opened name := by
  obtain ⟨mt, named, locked, ⟨f, namecall, known⟩, ⟨g, index, known'⟩⟩ := opened
  obtain ⟨mt', before, after, same⟩ := intact
  obtain rfl : mt' = mt := Option.some.inj (before.symm.trans named)
  refine ⟨mt', after, ?_, ⟨f, ?_, later.handler_kept known⟩, ⟨g, ?_, later.handler_kept known'⟩⟩
  · rw [same]
    exact locked
  · rw [same]
    exact namecall
  · rw [same]
    exact index

end ScriptBind
