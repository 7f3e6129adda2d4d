import ScriptBind.Binding.Dispatch
import ScriptBind.Proofs.Script.Evolution

/-!
# Handlers as equations

What a handler looks up before it does anything: its arguments and upvalues, the context of the
state, and the binding of a type. Each lookup leaves the world as it is, so a handler is a case
distinction on the world that it starts in.

Main results:

* `World.anyBuiltinAt?_eq_some` — what makes a userdata a builtin value.
* `run_builtinGlobalIndex`, `run_builtinMemberIndex` — a name of a library or of a value.
* `run_callBuiltinMethod`, `run_builtinStaticCall`, `run_builtinConstructor`, `run_classNamecall` —
  what a call resolves to, up to the arguments.
-/

namespace ScriptBind

/-! ## Builtin values on the stack -/

/-- A userdata is found where the stack has one. -/
theorem State.toUserdata?_eq_some {s : State} {index : Int} {u : UserdataId} :
    s.toUserdata? index = some u ↔ s.value? index = some (.userdata u) := by
  rw [State.toUserdata?, Option.bind_eq_some_iff]
  constructor
  · rintro ⟨v, at_, same⟩
    cases v with
    | userdata u' =>
      cases same
      exact at_
    | _ => cases same
  · exact fun at_ => ⟨_, at_, rfl⟩

namespace World

variable {w : World} {index : Int} {u : UserdataId} {x : Variant}

/-- A userdata has the metatable that is registered under the name. -/
theorem testUserdata?_eq_some {name : String} :
    w.testUserdata? index name = some u ↔
      w.state.value? index = some (.userdata u) ∧
        ∃ mt, w.metatableNamed name = some mt ∧ (w.userdatum u).metatable = some mt := by
  rw [← State.toUserdata?_eq_some, testUserdata?]
  cases w.state.toUserdata? index with
  | none => simp
  | some u' =>
    cases w.metatableNamed name with
    | none => simp
    | some mt =>
      constructor
      · intro found
        obtain ⟨tagged, found⟩ := Option.ite_none_right_eq_some.mp found
        cases found
        exact ⟨rfl, mt, rfl, tagged⟩
      · rintro ⟨same, mt', named, tagged⟩
        cases same
        cases named
        exact if_pos tagged

/-- A builtin value is a userdata that carries the metatable of its type. -/
theorem anyBuiltinAt?_eq_some :
    w.anyBuiltinAt? index = some x ↔
      ∃ u, w.testUserdata? index x.tag.name = some u ∧ (w.userdatum u).payload = .variant x := by
  unfold anyBuiltinAt? builtinAt?
  constructor
  · intro found
    obtain ⟨u, -, found⟩ := Option.bind_eq_some_iff.mp found
    split at found
    next y _ =>
      obtain ⟨u, tagged, found⟩ := Option.bind_eq_some_iff.mp found
      split at found
      next z payload =>
        -- the payload is looked at twice, the second time for the type whose metatable was found
        obtain ⟨same, found⟩ := Option.ite_none_right_eq_some.mp found
        cases found
        exact ⟨u, same ▸ tagged, payload⟩
      next => cases found
    next => cases found
  · rintro ⟨u, tagged, payload⟩
    have held : w.state.toUserdata? index = some u :=
      State.toUserdata?_eq_some.mpr (testUserdata?_eq_some.mp tagged).1
    simp [held, payload, tagged]

end World

namespace ScriptM

variable {α : Type}

/-! ## Lookups -/

/-- The error of what needs a host or a registry in a state without a context. -/
def noContext : ScriptError := .runtime "no binding context installed on this state"

/-- The context is found, or its absence reported. -/
theorem run_context (w : World) :
    context w =
      match w.state.context with
      | some c => (.ok c, w)
      | none => (.error noContext, w) := by
  unfold context
  rw [run_bind, run_state]
  dsimp only
  cases w.state.context <;> rfl

/-- The registry is the one of the context. -/
@[simp] theorem run_registry (c : Context) (w : World) :
    registry c w = (.ok (w.registry c.registry), w) := rfl

/-- What has been found is answered, and anything else is an argument error. -/
theorem run_demand (index : Int) (expected : String) (found : Option α) (w : World) :
    demand index expected found w =
      match found with
      | some a => (.ok a, w)
      | none => (.error (w.state.argError index expected), w) := by
  cases found <;> rfl

/-- The receiver is the math value at the first argument. -/
theorem run_receiver (w : World) :
    receiver w =
      match w.anyBuiltinAt? 1 with
      | some v => (.ok v, w)
      | none => (.error (w.state.argError 1 "builtin"), w) := by
  unfold receiver
  rw [run_bind, run_get]
  dsimp only
  cases w.anyBuiltinAt? 1 <;> rfl

/-- The received object is the one at the first argument. -/
theorem run_receivedObject (w : World) :
    receivedObject w =
      match w.objectAt? 1 with
      | some id => (.ok id, w)
      | none => (.error (w.state.argError 1 NativeType.object.name), w) := by
  unfold receivedObject
  rw [run_bind, run_get]
  dsimp only
  cases w.objectAt? 1 <;> rfl

/-- The method is the one that the state has the name of. -/
theorem run_calledMethod (w : World) :
    calledMethod w =
      match w.state.namecall with
      | some method => (.ok method, w)
      | none => (.error (.runtime "no method name for namecall"), w) := by
  unfold calledMethod
  rw [run_bind, run_state]
  dsimp only
  cases w.state.namecall <;> rfl

/-- The text of an upvalue. -/
def upvalueText? (s : State) (n : Nat) : Option String :=
  match s.upvalue? n with
  | some (.string text) => some text
  | _ => none

/-- A text is found among the upvalues, or nothing. -/
theorem run_textUpvalue (n : Nat) (w : World) :
    textUpvalue n w = (.ok (upvalueText? w.state n), w) := by
  unfold textUpvalue upvalueText?
  rw [run_bind, run_state]
  dsimp only
  cases w.state.upvalue? n with
  | none => rfl
  | some v => cases v <;> rfl

/-- A type is found in the registry, or refused by its name. -/
theorem run_builtinBinding (c : Context) (type : String) (w : World) :
    builtinBinding c type w =
      match (w.registry c.registry).builtin? type with
      | some b => (.ok b, w)
      | none => (.error (.runtime ("unknown builtin type " ++ type)), w) := by
  unfold builtinBinding
  rw [run_bind, run_registry]
  dsimp only
  cases (w.registry c.registry).builtin? type <;> rfl

/-! ## Libraries -/

/-- What is looked up in a library, case by case. -/
theorem run_builtinGlobalIndex (w : World) :
    builtinGlobalIndex w =
      match w.state.checkText 2 with
      | .error e => (.error e, w)
      | .ok key =>
        match w.libraryType 1 with
        | none => (.error (w.state.argError 1 "library"), w)
        | some type =>
          match w.state.context with
          | none => (.error noContext, w)
          | some c =>
            match (w.registry c.registry).builtin? type with
            | some b => pushLibraryEntry c b type key w
            | none => (.error (invalidMember key type), w) := by
  unfold builtinGlobalIndex
  rw [run_bind, run_check]
  cases w.state.checkText 2 with
  | error e => rfl
  | ok key =>
    dsimp only
    rw [run_bind, run_get]
    dsimp only
    rw [run_bind, run_demand]
    cases w.libraryType 1 with
    | none => rfl
    | some type =>
      dsimp only
      rw [run_bind, run_context]
      cases w.state.context with
      | none => rfl
      | some c =>
        dsimp only
        rw [run_bind, run_registry]
        dsimp only
        cases (w.registry c.registry).builtin? type <;> rfl

/-! ## Methods of values -/

/-- A resolved method is called with arguments. -/
def callResolved (c : Context) (target : Variant) (m : Registry.Method) (args : List Variant) :
    ScriptM Nat := do
  let (answer, changed) ← askCall c.host target m.name args
  let result ← granted answer
  if !m.flags.isConst then
    writeReceiver changed
  pushResult m result

/-- What a method call of a value comes to, case by case. -/
theorem run_callBuiltinMethod (method : String) (w : World) :
    callBuiltinMethod method w =
      match w.anyBuiltinAt? 1 with
      | none => (.error (w.state.argError 1 "builtin"), w)
      | some target =>
        match w.state.context with
        | none => (.error noContext, w)
        | some c =>
          match (w.registry c.registry).builtin? target.tag.name with
          | none => (.error (.runtime ("unknown builtin type " ++ target.tag.name)), w)
          | some b =>
            match instanceMethod? b method with
            | none => (.error (invalidMethod method target.tag.name), w)
            | some m => (collectArgs c 2 m >>= callResolved c target m) w := by
  unfold callBuiltinMethod
  rw [run_bind, run_receiver]
  cases w.anyBuiltinAt? 1 with
  | none => rfl
  | some target =>
    dsimp only
    rw [run_bind, run_context]
    cases w.state.context with
    | none => rfl
    | some c =>
      dsimp only
      rw [run_bind, run_builtinBinding]
      cases (w.registry c.registry).builtin? target.tag.name with
      | none => rfl
      | some b =>
        dsimp only
        cases instanceMethod? b method <;> rfl

/-- A method call takes the name from the state. -/
theorem run_builtinNamecall (w : World) :
    builtinNamecall w =
      match w.state.namecall with
      | some method => callBuiltinMethod method w
      | none => (.error (.runtime "no method name for namecall"), w) := by
  unfold builtinNamecall
  rw [run_bind, run_calledMethod]
  cases w.state.namecall <;> rfl

/-- A method that was fetched takes its name from the function. -/
theorem run_builtinMethod (w : World) :
    builtinMethod w =
      match upvalueText? w.state 1 with
      | some method => callBuiltinMethod method w
      | none => (.error (.runtime "method is missing its binding"), w) := by
  unfold builtinMethod
  rw [run_bind, run_textUpvalue]
  cases upvalueText? w.state 1 <;> rfl

/-- What a value of a builtin type holds under a name. -/
def pushEntry (c : Context) (b : Registry.Builtin) (target : Variant) (key : String) :
    ScriptM Nat := do
  if (b.member? key).isSome then
    pushVariant (← granted (← askMember c.host target key))
    return 1
  else if (instanceMethod? b key).isSome then
    pushHandler key .builtinMethod [.string key]
    return 1
  else throw (invalidMember key target.tag.name)

/-- What is read from a value, case by case. -/
theorem run_builtinMemberIndex (w : World) :
    builtinMemberIndex w =
      match w.anyBuiltinAt? 1 with
      | none => (.error (w.state.argError 1 "builtin"), w)
      | some target =>
        match w.state.checkText 2 with
        | .error e => (.error e, w)
        | .ok key =>
          match w.state.context with
          | none => (.error noContext, w)
          | some c =>
            match (w.registry c.registry).builtin? target.tag.name with
            | none => (.error (.runtime ("unknown builtin type " ++ target.tag.name)), w)
            | some b => pushEntry c b target key w := by
  unfold builtinMemberIndex
  rw [run_bind, run_receiver]
  cases w.anyBuiltinAt? 1 with
  | none => rfl
  | some target =>
    dsimp only
    rw [run_bind, run_check]
    cases w.state.checkText 2 with
    | error e => rfl
    | ok key =>
      dsimp only
      rw [run_bind, run_context]
      cases w.state.context with
      | none => rfl
      | some c =>
        dsimp only
        rw [run_bind, run_builtinBinding]
        cases (w.registry c.registry).builtin? target.tag.name <;> rfl

/-- The host puts a value into words. -/
theorem run_builtinText (w : World) :
    builtinText w =
      match w.anyBuiltinAt? 1 with
      | none => (.error (w.state.argError 1 "builtin"), w)
      | some target =>
        match w.state.context with
        | none => (.error noContext, w)
        | some c =>
          (do
            push (.string (← askText c.host target))
            return 1 : ScriptM Nat) w := by
  unfold builtinText
  rw [run_bind, run_receiver]
  cases w.anyBuiltinAt? 1 with
  | none => rfl
  | some target =>
    dsimp only
    rw [run_bind, run_context]
    cases w.state.context <;> rfl

/-! ## Static methods and constructors -/

/-- A resolved static method is called with arguments. -/
def callStaticResolved (c : Context) (b : Registry.Builtin) (m : Registry.Method)
    (args : List Variant) : ScriptM Nat := do
  pushResult m (← granted (← askCallStatic c.host b.tag m.name args))

/-- What a static call comes to, case by case. -/
theorem run_builtinStaticCall (w : World) :
    builtinStaticCall w =
      match upvalueText? w.state 1, upvalueText? w.state 2 with
      | some type, some method =>
        match w.state.context with
        | none => (.error noContext, w)
        | some c =>
          match (w.registry c.registry).builtin? type with
          | none => (.error (.runtime ("unknown builtin type " ++ type)), w)
          | some b =>
            match b.method? method with
            | none => (.error (invalidMethod method type), w)
            | some m => (collectArgs c 1 m >>= callStaticResolved c b m) w
      | _, _ => (.error (.runtime "static method is missing its binding"), w) := by
  unfold builtinStaticCall
  rw [run_bind, run_textUpvalue]
  dsimp only
  rw [run_bind, run_textUpvalue]
  dsimp only
  cases upvalueText? w.state 1 with
  | none => rfl
  | some type =>
    cases upvalueText? w.state 2 with
    | none => rfl
    | some method =>
      dsimp only
      rw [run_bind, run_context]
      cases w.state.context with
      | none => rfl
      | some c =>
        dsimp only
        rw [run_bind, run_builtinBinding]
        cases (w.registry c.registry).builtin? type with
        | none => rfl
        | some b =>
          dsimp only
          cases b.method? method <;> rfl

/-- A fitting constructor is called with arguments. -/
def constructResolved (c : Context) (b : Registry.Builtin) (k : Registry.Constructor)
    (args : List Variant) : ScriptM Nat := do
  pushVariant (← granted (← askConstruct c.host b.tag k.index args))
  return 1

/-- The error when no constructor fits. -/
def noConstructor (type : String) : ScriptError :=
  .runtime ("no constructor of " ++ type ++ " matches the given arguments")

/-- What a constructor comes to, case by case. -/
theorem run_builtinConstructor (w : World) :
    builtinConstructor w =
      match upvalueText? w.state 1 with
      | none => (.error (.runtime "constructor is missing its type"), w)
      | some type =>
        match w.state.context with
        | none => (.error noContext, w)
        | some c =>
          match (w.registry c.registry).builtin? type with
          | none => (.error (.runtime ("unknown builtin type " ++ type)), w)
          | some b =>
            (do
              match ← fittingConstructor c w.state.top b.constructors with
              | none => throw (noConstructor type)
              | some k =>
                let args ← checkArgs c 1 k.arguments
                constructResolved c b k args : ScriptM Nat) w := by
  unfold builtinConstructor
  rw [run_bind, run_textUpvalue]
  dsimp only
  cases upvalueText? w.state 1 with
  | none => rfl
  | some type =>
    dsimp only
    rw [run_bind, run_context]
    cases w.state.context with
    | none => rfl
    | some c =>
      dsimp only
      rw [run_bind, run_builtinBinding]
      cases (w.registry c.registry).builtin? type <;> rfl

/-! ## Objects -/

/-- The class of a function is its first upvalue. -/
theorem run_classUpvalue (w : World) :
    classUpvalue w =
      match upvalueText? w.state 1 with
      | some cls => (.ok cls, w)
      | none => (.error (.runtime "class function is missing its class name"), w) := by
  unfold classUpvalue
  rw [run_bind, run_textUpvalue]
  dsimp only
  cases upvalueText? w.state 1 <;> rfl

/-- What `new` of a class comes to, case by case. -/
theorem run_classConstructor (w : World) :
    classConstructor w =
      match upvalueText? w.state 1 with
      | none => (.error (.runtime "class function is missing its class name"), w)
      | some cls =>
        match w.state.context with
        | none => (.error noContext, w)
        | some c =>
          (do
            pushObject (← granted (← askInstantiate c.host cls))
            return 1 : ScriptM Nat) w := by
  unfold classConstructor
  rw [run_bind, run_classUpvalue]
  cases upvalueText? w.state 1 with
  | none => rfl
  | some cls =>
    dsimp only
    rw [run_bind, run_context]
    cases w.state.context <;> rfl

/-- The text of an object takes its class and its number. -/
theorem run_objectText (w : World) :
    objectText w =
      match w.objectAt? 1 with
      | none => (.error (w.state.argError 1 NativeType.object.name), w)
      | some id =>
        match w.state.context with
        | none => (.error noContext, w)
        | some c =>
          (do
            push (.string (← askText c.host (.object id)))
            return 1 : ScriptM Nat) w := by
  unfold objectText
  rw [run_bind, run_receivedObject]
  cases w.objectAt? 1 with
  | none => rfl
  | some id =>
    dsimp only
    rw [run_bind, run_context]
    cases w.state.context <;> rfl

/-- A resolved method of an object is called with arguments. -/
def callObjectResolved (c : Context) (id : ObjectId) (owner : Registry.Class) (m : Registry.Method)
    (args : List Variant) : ScriptM Nat := do
  pushResult m (← granted (← askCallObject c.host id owner.name m.name args))

/-- Once the class of the object is known, its method is found and called. -/
theorem run_classNamecall (w : World) :
    classNamecall w =
      match w.state.namecall with
      | none => (.error (.runtime "no method name for namecall"), w)
      | some method =>
        match w.objectAt? 1 with
        | none => (.error (w.state.argError 1 NativeType.object.name), w)
        | some id =>
          match w.state.context with
          | none => (.error noContext, w)
          | some c =>
            match (w.host c.host).classes.classOf id with
            | .error e =>
              (.error (.host e), { w with requests := w.requests.push (c.host, .className id) })
            | .ok cls =>
              (match (w.registry c.registry).findMethod? cls method with
                | none => throw (invalidMethod method cls)
                | some (owner, m) =>
                  collectArgs c 2 m >>= callObjectResolved c id owner m : ScriptM Nat)
                { w with requests := w.requests.push (c.host, .className id) } := by
  unfold classNamecall
  rw [run_bind, run_calledMethod]
  cases w.state.namecall with
  | none => rfl
  | some method =>
    dsimp only
    rw [run_bind, run_receivedObject]
    cases w.objectAt? 1 with
    | none => rfl
    | some id =>
      dsimp only
      rw [run_bind, run_context]
      cases w.state.context with
      | none => rfl
      | some c =>
        -- the question is recorded whatever the answer is
        have asked : askClassName c.host id w =
            (.ok ((w.host c.host).classes.classOf id),
              { w with requests := w.requests.push (c.host, .className id) }) := rfl
        dsimp only
        rw [run_bind, asked]
        dsimp only
        cases (w.host c.host).classes.classOf id with
        | error e => rfl
        | ok cls =>
          dsimp only
          rw [granted, run_bind, run_pure]
          dsimp only
          rw [run_bind, run_registry]
          dsimp only [World.registry]
          cases (w.registries.getD c.registry default).findMethod? cls method <;> rfl

end ScriptM

end ScriptBind
