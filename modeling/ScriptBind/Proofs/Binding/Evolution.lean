import ScriptBind.Proofs.Script.Calling

/-!
# How the binding layer evolves a world

The binding layer calls no functions: its handlers, the libraries that they belong to, and the
values that move on and off the stack are compositions of elementary changes. There is one lemma
for each operation, in the order of the modules under `Binding`.

Main results:

* `Evolving.handler` — every handler, whatever its arguments.
* `Evolving.openBuiltins`, `openClasses`, `openEnums` — the libraries.
-/

namespace ScriptBind.Evolving

open ScriptM

variable {α : Type}

/-! ## Requests -/

/-- The context is looked up, or its absence reported; nothing changes. -/
theorem context : Evolving ScriptM.context := by
  refine state.bind fun s => ?_
  split
  · exact pure _
  · exact throw _

/-- A registry is only read. -/
theorem registry (c : Context) : Evolving (ScriptM.registry c) := reads _

/-- The answer of a host becomes a result or an error, and the world is as it was. -/
theorem granted (answer : Except HostError α) : Evolving (ScriptM.granted answer) := by
  cases answer with
  | ok a => exact pure a
  | error e => exact throw _

/-- A request is noted. Requests for constants are left out here: they are noted together with their
answer. -/
theorem record (host : Nat) {r : Request} (other : r.isConstant = false) :
    Evolving (ScriptM.record host r) :=
  fun w => .request w host other

/-- A host is asked something that does not change it. -/
theorem ask (host : Nat) {r : Request} (other : r.isConstant = false) (answer : Host → α) :
    Evolving (ScriptM.ask host r answer) :=
  (record host other).bind fun _ => reads _

/-- A host changes its classes by one step. -/
theorem askClasses (host : Nat) {r : Request} (other : r.isConstant = false)
    {answer : ClassDb → α × ClassDb} (steps : ∀ db : ClassDb, db.Step (answer db).2) :
    Evolving (ScriptM.askClasses host r answer) :=
  fun w => (Evolves.request w host other).trans (.classes (steps (w.host host).classes))

/-- To construct a value leaves the host as it is. -/
theorem askConstruct (host : Nat) (type : Tag) (index : UInt32) (args : List Variant) :
    Evolving (ScriptM.askConstruct host type index args) :=
  ask _ rfl _

/-- A method call of a value leaves the host as it is; the receiver is written back later. -/
theorem askCall (host : Nat) (receiver : Variant) (method : String) (args : List Variant) :
    Evolving (ScriptM.askCall host receiver method args) :=
  ask _ rfl _

/-- A static call leaves the host as it is. -/
theorem askCallStatic (host : Nat) (type : Tag) (method : String) (args : List Variant) :
    Evolving (ScriptM.askCallStatic host type method args) :=
  ask _ rfl _

theorem askMember (host : Nat) (target : Variant) (name : String) :
    Evolving (ScriptM.askMember host target name) :=
  ask _ rfl _

/-- The text of a value is asked for, which leaves the host as it is. -/
theorem askText (host : Nat) (value : Variant) : Evolving (ScriptM.askText host value) :=
  ask _ rfl _

/-- The class of an object is asked for, which leaves the host as it is. -/
theorem askClassName (host : Nat) (id : ObjectId) : Evolving (ScriptM.askClassName host id) :=
  ask _ rfl _

/-- A host makes an object, which is one step of its classes. -/
theorem askInstantiate (host : Nat) (cls : String) : Evolving (ScriptM.askInstantiate host cls) :=
  askClasses _ rfl fun _ => .instantiate cls

/-- A host runs a method of an object, which is one step of its classes. -/
theorem askCallObject (host : Nat) (id : ObjectId) (cls method : String) (args : List Variant) :
    Evolving (ScriptM.askCallObject host id cls method args) :=
  askClasses _ rfl fun _ => .call id cls method args

/-! ## Native values -/

/-- The metatable of a type is found, or registered and taken off the stack again. -/
theorem instanceMetatable (name : String) : Evolving (ScriptM.instanceMetatable name) := by
  refine get.bind fun w => ?_
  split
  · exact pure _
  · exact (newMetatable name).discard.bind fun _ => (check _).bind fun _ =>
      (pop 1).bind fun _ => pure _

/-- A userdata is made, and tagged once it is there. -/
theorem pushTagged (p : Payload) (mt : TableId) : Evolving (ScriptM.pushTagged p mt) :=
  (pushUserdata p).bind fun u => attach (.userdata u) (some mt)

/-- A math value is pushed under the metatable of its type. -/
theorem pushBuiltin (v : Variant) : Evolving (ScriptM.pushBuiltin v) :=
  (instanceMetatable _).bind fun mt => pushTagged (.variant v) mt

/-- The shared metatable of objects is found or made, and marked unless it is locked. -/
theorem plainObjectMetatable : Evolving ScriptM.plainObjectMetatable := by
  refine (instanceMetatable _).bind fun mt => get.bind fun w => ?_
  dsimp only
  split
  · exact (setText _ _ _).bind fun _ => pure mt
  · exact pure mt

/-- An object is pushed under the metatable of its class, or under the shared one. -/
theorem pushObject (id : ObjectId) : Evolving (ScriptM.pushObject id) := by
  refine context.bind fun c => (askClassName _ _).bind fun answer =>
    (granted answer).bind fun cls => (registry c).bind fun r => get.bind fun w => ?_
  split
  · exact pushTagged _ _
  · exact plainObjectMetatable.bind fun mt => pushTagged _ _

/-- An engine value is pushed in the way of its type. -/
theorem pushVariant (v : Variant) : Evolving (ScriptM.pushVariant v) := by
  unfold ScriptM.pushVariant
  split
  case h_7 => exact pushObject _
  case h_8 => exact pushBuiltin v
  all_goals exact push _

/-- A native value is pushed like the engine value that it stands for. -/
theorem pushNative (v : NativeValue) : Evolving (ScriptM.pushNative v) := by
  cases v with
  | math v => exact pushBuiltin v
  | object id => exact pushObject id
  | variant v => exact pushVariant v
  | _ => exact push _

/-- A native value is read, and nothing changes. -/
theorem checkNative (type : NativeType) (index : Int) :
    Evolving (ScriptM.checkNative type index) := by
  refine get.bind fun w => ?_
  split
  · exact pure _
  · exact throw _

/-! ## Lazy constants -/

/-- The host of the current state is looked up, whether there is one or not. -/
theorem run_contextHost (w : World) :
    (do return (← ScriptM.context).host : ScriptM Nat) w =
      match w.state.context with
      | some c => (.ok c.host, w)
      | none => (.error (.runtime "no binding context installed on this state"), w) := by
  rw [run_bind]
  unfold ScriptM.context
  rw [run_bind, run_state]
  dsimp only
  cases w.state.context <;> rfl

/-- An outcome is entered only for a constant that has none. To find the host does not fetch the
constant. -/
theorem run_constantOutcome (c : Constant) {host : ScriptM Nat} (finds : ∀ w, (host w).2 = w)
    (w : World) :
    ScriptM.constantOutcome c host w =
      match w.knownOutcome? c.ref with
      | some outcome => (.ok outcome, w)
      | none =>
        match (host w).1 with
        | .ok i => (.ok ((w.host i).engine.constant c.type c.name), w.withFetched i c)
        | .error e => (.error e, w) := by
  unfold ScriptM.constantOutcome
  rw [run_bind, run_get]
  dsimp only
  cases w.knownOutcome? c.ref with
  | some outcome => rfl
  | none =>
    dsimp only
    rw [run_bind]
    cases found : host w with
    | mk r v =>
      -- the world is still the one in which the constant had no outcome
      have kept := finds w
      rw [found] at kept
      cases kept
      cases r <;> rfl

/-- A constant is fetched at most once: if its outcome is known, nothing changes. -/
theorem evolves_constantOutcome {c : Constant} {host : ScriptM Nat} (finds : ∀ w, (host w).2 = w)
    {w : World} (stands : w.Stands c) : Evolves w (ScriptM.constantOutcome c host w).2 := by
  rw [run_constantOutcome c finds]
  cases new : w.knownOutcome? c.ref with
  | some outcome => exact .refl w
  | none =>
    cases (host w).1 with
    | ok i => exact .fetched i new stands
    | error e => exact .refl w

/-- The outcome of a constant is fetched if need be, and pushed if it fits. -/
theorem evolves_pushConstantAs (type : NativeType) {c : Constant} {w : World}
    (stands : w.Stands c) : Evolves w (ScriptM.pushConstantAs type c w).2 := by
  have finds : ∀ w, ((do return (← ScriptM.context).host : ScriptM Nat) w).2 = w := by
    intro w
    rw [run_contextHost]
    cases w.state.context <;> rfl
  refine .bind (evolves_constantOutcome finds stands) fun answer v _ => ?_
  refine (granted answer).bind (fun x => ?_) v
  split
  · exact (pushNative _).bind fun _ => pure 1
  · exact throw _

/-- A loose constant stands for itself. -/
theorem pushConstantAs (type : NativeType) (i : Nat) :
    Evolving (do ScriptM.pushConstantAs type ((← MonadState.get).looseConstant i)) :=
  fun w => evolves_pushConstantAs type (c := w.looseConstant i) trivial

/-! ## Arguments and results -/

/-- What has not been found is an error, and nothing changes either way. -/
theorem demand (index : Int) (expected : String) (found : Option α) :
    Evolving (ScriptM.demand index expected found) := by
  cases found with
  | some a => exact pure a
  | none => exact state.bind fun _ => throw _

/-- The class of an object may be asked for, and nothing else happens. -/
theorem checkObject (c : Context) (index : Int) (cls : String) :
    Evolving (ScriptM.checkObject c index cls) := by
  refine state.bind fun s => ite (pure _) ?_
  exact get.bind fun _ => (demand index cls _).bind fun id =>
    (askClassName c.host id).bind fun answer => (granted answer).bind fun _ =>
      (registry c).bind fun _ => ite (pure _) (state.bind fun _ => throw _)

/-- An argument is converted to its type; only for an object may the host be asked. -/
theorem checkArg (c : Context) (index : Int) (type : ArgType) :
    Evolving (ScriptM.checkArg c index type) := by
  refine get.bind fun w => ?_
  split
  case h_3 => exact checkObject c index _
  case h_4 => exact checkObject c index _
  all_goals exact demand index _ _

/-- Whether an argument fits is found out in the same way. -/
theorem matchesArg (c : Context) (index : Int) (type : ArgType) :
    Evolving (ScriptM.matchesArg c index type) := by
  refine (checkArg c index type).outcome.bind fun r => ?_
  cases r with
  | ok _ => exact pure true
  | error _ => exact pure false

/-- All arguments are tried one after the other, up to the first that does not fit. -/
theorem matchArgs (c : Context) (types : List ArgType) (index : Int) :
    Evolving (ScriptM.matchArgs c index types) := by
  induction types generalizing index with
  | nil => exact pure true
  | cons type rest ih =>
    exact (matchesArg c index type).bind fun _ => ite (ih (index + 1)) (pure false)

/-- All arguments are converted one after the other, up to the first that cannot be. -/
theorem checkArgs (c : Context) (types : List ArgType) (index : Int) :
    Evolving (ScriptM.checkArgs c index types) := by
  induction types generalizing index with
  | nil => exact pure []
  | cons type rest ih =>
    exact (checkArg c index type).bind fun _ => (ih (index + 1)).bind fun _ => pure _

/-- The arguments of a call are counted, and then converted. -/
theorem collectArgs (c : Context) (first : Int) (m : Registry.Method) :
    Evolving (ScriptM.collectArgs c first m) := by
  refine state.bind fun s => ?_
  dsimp only
  split
  · exact (throw _).bind fun _ => checkArgs c _ first
  · exact checkArgs c _ first

/-- A result is pushed if one is declared. -/
theorem pushResult (m : Registry.Method) (result : Variant) :
    Evolving (ScriptM.pushResult m result) :=
  ite (pure 0) ((pushVariant result).bind fun _ => pure 1)

/-! ## Libraries -/

/-- A library is laid out above the metatable of its type and becomes a global. -/
theorem newLibrary (name metatable : String) : Evolving (ScriptM.newLibrary name metatable) := by
  refine (newMetatable metatable).discard.bind fun _ => get.bind fun w => ?_
  have entered : ∀ _ : Unit, Evolving _ := fun _ =>
    (push (.string metatable)).bind fun _ => (setField (-2) World.typeField).bind fun _ =>
      pushNewTable.discard.bind fun _ => pushNewTable.discard.bind fun _ =>
        (push (.string name)).bind fun _ => (setField (-2) World.typeField).bind fun _ =>
          (pushHandler "builtin_global_index" .builtinGlobalIndex []).bind fun _ =>
            (setField (-2) "__index").bind fun _ => (setMetatable (-2)).bind fun _ =>
              (onState (f := fun s => s.pushValue (-1)) State.reshapes_of_pushValue).bind fun _ =>
                setGlobal name
  exact ite ((pop 1).bind fun _ => (throw _).bind entered) (entered ())

/-- A library and its metatables are locked and taken off the stack. -/
theorem finishLibrary (isObject : Bool) : Evolving (ScriptM.finishLibrary isObject) := by
  refine (check _).bind fun lib => (check _).bind fun mt => optional (setText _ _ _) fun _ =>
    (setText _ _ _).bind fun _ => get.bind fun w => ?_
  have locked : ∀ _ : Unit, Evolving _ := fun _ =>
    (setReadonly mt true).bind fun _ => (setReadonly lib true).bind fun _ => pop 2
  dsimp only
  split
  · exact (setText _ _ _).bind fun _ => (setReadonly _ true).bind locked
  · exact locked ()

/-- A function that runs a handler is made and entered under a key. -/
theorem installHandler (index : Int) (field name : String) (h : Handler) (upvalues : List Value) :
    Evolving (ScriptM.installHandler index field name h upvalues) :=
  (pushHandler name h upvalues).bind fun _ => setField index field

/-! ## Builtin types -/

/-- The binding of a type is looked up, and nothing changes. -/
theorem builtinBinding (c : Context) (type : String) :
    Evolving (ScriptM.builtinBinding c type) := by
  refine (registry c).bind fun r => ?_
  split
  · exact pure _
  · exact throw _

/-- A text that belongs to a function is read. -/
theorem textUpvalue (n : Nat) : Evolving (ScriptM.textUpvalue n) := by
  refine state.bind fun s => ?_
  split
  · exact pure _
  · exact pure _

/-- The receiver of a method is read from the first argument. -/
theorem receiver : Evolving ScriptM.receiver := get.bind fun _ => demand 1 "builtin" _

/-- The name of the called method is read from the state. -/
theorem calledMethod : Evolving ScriptM.calledMethod := by
  refine state.bind fun s => ?_
  split
  · exact pure _
  · exact throw _

/-- What a builtin type of a registry declares under a key stands for itself. -/
theorem stands_declared {w : World} {registry : Nat} {b : Registry.Builtin} {key : String}
    {constant : Constant} (listed : b ∈ (w.registry registry).builtins)
    (declared : Constant.declared? registry b key = some constant) : w.Stands constant := by
  obtain ⟨spelling, found, rfl⟩ := Option.map_eq_some_iff.mp declared
  exact ⟨b, listed, rfl, rfl, found⟩

/-- An entry of a library that is not in its table is a constant to be fetched, an integer or a
static method. -/
theorem evolves_pushLibraryEntry {c : Context} {b : Registry.Builtin} (type key : String) {w : World}
    (listed : b ∈ (w.registry c.registry).builtins) :
    Evolves w (ScriptM.pushLibraryEntry c b type key w).2 := by
  unfold ScriptM.pushLibraryEntry
  cases declared : Constant.declared? c.registry b key with
  | some constant => exact evolves_pushConstantAs .variant (stands_declared listed declared)
  | none =>
    cases b.enumValue? key with
    | some n => exact (push _).bind (fun _ => pure 1) w
    | none =>
      cases ScriptM.staticMethod? b key with
      | some m => exact (pushHandler _ _ _).bind (fun _ => pure 1) w
      | none => exact throw _ w

/-- A name is looked up in a library, as its metatable has it done. -/
theorem builtinGlobalIndex : Evolving ScriptM.builtinGlobalIndex := by
  refine (check _).bind fun key => get.bind fun _ => (demand 1 "library" _).bind fun type =>
    context.bind fun c w => ?_
  refine .bind (registry c w) fun r v known => ?_
  cases known
  cases found : (w.registry c.registry).builtin? type with
  | some b => exact evolves_pushLibraryEntry type key (List.mem_of_find?_eq_some found)
  | none => exact throw _ w

/-- A static method is called through the function that was looked up. -/
theorem builtinStaticCall : Evolving ScriptM.builtinStaticCall := by
  refine (textUpvalue 1).bind fun type => (textUpvalue 2).bind fun method => ?_
  split
  · refine context.bind fun c => (builtinBinding c _).bind fun b => ?_
    split
    · exact throw _
    · exact (collectArgs c 1 _).bind fun args =>
        (askCallStatic c.host b.tag _ args).bind fun answer =>
          (granted answer).bind fun result => pushResult _ result
  · exact throw _

/-- The payload of the receiver is replaced. -/
theorem writeReceiver (v : Variant) : Evolving (ScriptM.writeReceiver v) := by
  refine state.bind fun s => ?_
  split
  · exact change fun w => .setPayload w _ (.variant v)
  · exact pure ()

/-- A method of a value is called: arguments, request, write-back and result, in this order. -/
theorem callBuiltinMethod (method : String) : Evolving (ScriptM.callBuiltinMethod method) := by
  refine receiver.bind fun target => context.bind fun c => (builtinBinding c _).bind fun b => ?_
  dsimp only
  split
  · exact throw _
  · exact (collectArgs c 2 _).bind fun args => (askCall c.host target _ args).bind fun r =>
      (granted r.1).bind fun result => optional (writeReceiver r.2) fun _ => pushResult _ result

/-- The method whose name the state has is called. -/
theorem builtinNamecall : Evolving ScriptM.builtinNamecall :=
  calledMethod.bind fun method => callBuiltinMethod method

/-- A method that was fetched from a value is called. -/
theorem builtinMethod : Evolving ScriptM.builtinMethod := by
  refine (textUpvalue 1).bind fun method => ?_
  split
  · exact callBuiltinMethod _
  · exact throw _

/-- A member is asked for, or a method is handed out as a function. -/
theorem builtinMemberIndex : Evolving ScriptM.builtinMemberIndex :=
  receiver.bind fun target => (check _).bind fun key => context.bind fun c =>
    (builtinBinding c _).bind fun _ =>
      ite ((askMember c.host target key).bind fun answer => (granted answer).bind fun v =>
          (pushVariant v).bind fun _ => pure 1)
        (ite ((pushHandler key .builtinMethod _).bind fun _ => pure 1) (throw _))

/-- The text of a value is pushed. -/
theorem builtinText : Evolving ScriptM.builtinText :=
  receiver.bind fun target => context.bind fun c => (askText c.host target).bind fun _ =>
    (push _).bind fun _ => pure 1

/-- Two values are compared, and the answer is pushed. -/
theorem builtinEqual : Evolving ScriptM.builtinEqual := by
  refine get.bind fun w => ?_
  dsimp only
  split
  · exact (push _).bind fun _ => pure 1
  · exact (push _).bind fun _ => pure 1

/-- Constructors are tried in order until one fits the arguments. -/
theorem fittingConstructor (c : Context) (count : Nat) (ks : List Registry.Constructor) :
    Evolving (ScriptM.fittingConstructor c count ks) := by
  induction ks with
  | nil => exact pure none
  | cons k rest ih => exact ite ((matchArgs c _ 1).bind fun _ => ite (pure _) ih) ih

/-- A value is constructed by the first constructor that fits. -/
theorem builtinConstructor : Evolving ScriptM.builtinConstructor := by
  refine (textUpvalue 1).bind fun type => ?_
  split
  · exact throw _
  · refine context.bind fun c => (builtinBinding c _).bind fun b => state.bind fun s =>
      (fittingConstructor c _ b.constructors).bind fun k => ?_
    split
    · exact throw _
    · exact (checkArgs c _ 1).bind fun args => (askConstruct c.host b.tag _ args).bind fun answer =>
        (granted answer).bind fun v => (pushVariant v).bind fun _ => pure 1

/-- The library of one builtin type is opened. -/
theorem openBuiltin (b : Registry.Builtin) : Evolving (ScriptM.openBuiltin b) :=
  (newLibrary b.name b.name).bind fun _ => (installHandler _ _ _ _ _).bind fun _ =>
    (installHandler _ _ _ _ _).bind fun _ => (installHandler _ _ _ _ _).bind fun _ =>
      (installHandler _ _ _ _ _).bind fun _ => (installHandler _ _ _ _ _).bind fun _ =>
        finishLibrary false

/-- The libraries of all builtin types are opened, in the order of the registry. -/
theorem openBuiltins : Evolving ScriptM.openBuiltins :=
  context.bind fun c => (registry c).bind fun _ => (forM openBuiltin _).bind fun _ => pure _

/-! ## Classes -/

theorem classUpvalue : Evolving ScriptM.classUpvalue := by
  refine (textUpvalue 1).bind fun name => ?_
  split
  · exact pure _
  · exact throw _

/-- The object at the first argument is read. -/
theorem receivedObject : Evolving ScriptM.receivedObject := get.bind fun _ => demand 1 _ _

/-- An object is made and pushed under its class. -/
theorem classConstructor : Evolving ScriptM.classConstructor :=
  classUpvalue.bind fun cls => context.bind fun c => (askInstantiate c.host cls).bind fun answer =>
    (granted answer).bind fun id => (pushObject id).bind fun _ => pure 1

/-- A class without instances refuses to make one. -/
theorem classRefusal : Evolving ScriptM.classRefusal := classUpvalue.bind fun _ => throw _

/-- A method of an object is looked up, checked and run by the host. -/
theorem classNamecall : Evolving ScriptM.classNamecall := by
  refine calledMethod.bind fun method => receivedObject.bind fun id => context.bind fun c =>
    (askClassName c.host id).bind fun answer => (granted answer).bind fun cls =>
      (registry c).bind fun r => ?_
  split
  · exact throw _
  · exact (collectArgs c 2 _).bind fun args => (askCallObject c.host id _ _ args).bind fun answer =>
      (granted answer).bind fun result => pushResult _ result

/-- The text of an object is pushed, which takes no request. -/
theorem objectText : Evolving ScriptM.objectText :=
  receivedObject.bind fun id => context.bind fun c => (askText c.host (.object id)).bind fun _ =>
    (push _).bind fun _ => pure 1

/-- Two objects are compared, and the answer is pushed. -/
theorem objectEqual : Evolving ScriptM.objectEqual := by
  refine get.bind fun w => ?_
  dsimp only
  split
  · exact (push _).bind fun _ => pure 1
  · exact (push _).bind fun _ => pure 1

/-- An integer is entered under its name. -/
theorem installInteger (index : Int) (k : String × Int64) :
    Evolving (ScriptM.installInteger index k) :=
  (push _).bind fun _ => setField index k.1

/-- The library of one class is opened. -/
theorem openClass (k : Registry.Class) : Evolving (ScriptM.openClass k) := by
  have finished : ∀ _ : Unit, Evolving _ := fun _ =>
    (forM (installInteger (-2)) k.constants).bind fun _ => finishLibrary true
  exact (newLibrary k.name k.name).bind fun _ => (installHandler _ _ _ _ _).bind fun _ =>
    (installHandler _ _ _ _ _).bind fun _ => (installHandler _ _ _ _ _).bind fun _ =>
      ite ((installHandler _ _ _ _ _).bind finished) ((installHandler _ _ _ _ _).bind finished)

/-- The libraries of all classes are opened, in the order of the registry. -/
theorem openClasses : Evolving ScriptM.openClasses :=
  context.bind fun c => (registry c).bind fun _ => (forM openClass _).bind fun _ => pure _

/-! ## Global enums -/

/-- The table of enums is found among the globals, or made. -/
theorem enumTable : Evolving ScriptM.enumTable := by
  refine get.bind fun w => ?_
  split
  · exact ite (throw _) (pure _)
  · exact pushNewTable.bind fun _ => (setGlobal _).bind fun _ => pure _
  · exact throw _

/-- The table of one enum is made, filled, locked and entered. -/
theorem openEnum (enums : TableId) (e : Registry.Enumeration) :
    Evolving (ScriptM.openEnum enums e) :=
  pushNewTable.bind fun _ => (forM (fun _ => setText _ _ _) e.values).bind fun _ =>
    (setReadonly _ true).bind fun _ => (pop 1).bind fun _ => setText enums e.name _

/-- All enums are entered one after the other, and then their table is locked. -/
theorem openEnums : Evolving ScriptM.openEnums :=
  context.bind fun c => enumTable.bind fun enums => (registry c).bind fun _ =>
    (forM (openEnum enums) _).bind fun _ => (setReadonly enums true).bind fun _ => pure _

/-! ## Handlers -/

/-- Every handler is a composition of elementary changes. -/
theorem handler (h : Handler) : Evolving h.run := by
  cases h with
  | builtinCtor => exact builtinConstructor
  | builtinGlobalIndex => exact builtinGlobalIndex
  | builtinMemberIndex => exact builtinMemberIndex
  | builtinNamecall => exact builtinNamecall
  | builtinMethod => exact builtinMethod
  | builtinStaticCall => exact builtinStaticCall
  | builtinText => exact builtinText
  | builtinEqual => exact builtinEqual
  | classCtor => exact classConstructor
  | classNoCtor => exact classRefusal
  | classNamecall => exact classNamecall
  | objectText => exact objectText
  | objectEqual => exact objectEqual

end ScriptBind.Evolving
