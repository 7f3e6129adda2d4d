import ScriptBind.Proofs.Session.CallFrames
import ScriptBind.Proofs.Session.Opening

/-!
# Two ways to a method

A script calls a method of a value by its name, or fetches it from the value as a field and calls
what it got with the value as the first argument. The first way leads through `__namecall` and the
name of the method call in progress, the second through `__index` and a new function that carries
the name. Both end in one handler, in frames that differ only in what the handler cannot see.

Main results:

* `callByName_eq`, `callFetched_eq` — each way as one activation of a handler.
* `method_paths_agree` — both ways have the same outcome and leave the same world, but for the
  function that has been fetched.
-/

namespace ScriptBind

namespace ScriptM

variable {w : World} {f : FunctionId} {args : List Value}

/-! ## The two ways -/

/-- Calls a method of a value by its name. -/
def callByName (run : Runner) (v : Value) (name : String) (args : List Value)
    (wanted : Option Nat) : ScriptM Unit := do
  push v
  args.forM push
  callMethod run name args.length wanted

/-- Fetches a method from the value at an index, and calls it with the value as the first
argument. -/
def callFetched (run : Runner) (index : Int) (v : Value) (name : String) (args : List Value)
    (wanted : Option Nat) : ScriptM Unit := do
  getField run index name
  push v
  args.forM push
  call run (args.length + 1) wanted

/-- The second operation ends like the first one, and in the same world but for functions that it has
made. -/
def EndsAlike (first second : Except ScriptError Unit × World) : Prop :=
  second.1 = first.1 ∧
    ∃ made, second.2 = { first.2 with functions := first.2.functions ++ made }

/-- To end in the same way is to end alike. -/
theorem EndsAlike.of_eq {ended first second : Except ScriptError Unit × World}
    (h : first = ended ∧ second = ended) : EndsAlike first second := by
  obtain ⟨rfl, rfl⟩ := h
  exact ⟨rfl, #[], by rw [Array.append_empty]⟩

/-- The first way activates the `__namecall` handler, while the name of the method is known. -/
theorem callByName_eq (run : Runner) {v : Value} {name : String} (args : List Value)
    (wanted : Option Nat) (framed : w.state.Framed)
    (handler : w.metafield v "__namecall" = some (.function f)) :
    let ended := invoke run w.state.stack.length f wanted
      ((w.withNamecall (some name)).withCall f (v :: args))
    callByName run v name args wanted w =
      (ended.1, ended.2.withNamecall w.state.namecall) := by
  intro ended
  -- the value and the arguments are on the stack
  let q := w.withStack (w.state.stack ++ v :: args)
  have ran : callByName run v name args wanted w = callMethod run name args.length wanted q := by
    have stack : w.state.stack ++ [v] ++ args = w.state.stack ++ v :: args := by
      rw [List.append_assoc]
      rfl
    unfold callByName
    rw [run_push_bind, run_forM_push]
    exact congrArg (fun stack => callMethod run name args.length wanted (w.withStack stack)) stack
  have stack : q.state.stack = w.state.stack ++ v :: args := rfl
  obtain ⟨held, slot, here⟩ := slotBelow_of_stack stack framed
  have called : (ScriptCall.method name).called q w.state.stack.length f =
      (w.withNamecall (some name)).withCall f (v :: args) := by
    simp [ScriptCall.called, State.insertAt, q, World.withStack, World.withCall,
      World.withNamecall]
  have handled : callMethod run name args.length wanted q = _ :=
    ScriptCall.run_handled run wanted held (slot.symm ▸ here.symm ▸ handler)
  rw [slot, called] at handled
  rw [ran, handled]
  have call := run_call_withCall (w := w.withNamecall (some name)) run wanted framed f (v :: args)
  rw [show args.length + 1 = (v :: args).length from rfl, call]
  rfl

/-- The field of a value with an `__index` handler is what the handler leaves. -/
theorem run_getField (run : Runner) {index : Int} {name : String} {u : UserdataId}
    {g : FunctionId} (framed : w.state.Framed) (value : w.state.valueOrNil index = .userdata u)
    (handler : w.metafield (.userdata u) "__index" = some (.function g)) :
    getField run index name w =
      match invoke run w.state.stack.length g (some 1)
        (w.withCall g [.userdata u, .string name]) with
      | (.ok (), v) => (popValue >>= push) v
      | (.error e, v) => (.error e, v) := by
  -- the value has no entries of its own, so the handler is asked at once
  have asked : indexValue run (.userdata u) (.string name) w =
      (call run 2 (some 1) >>= fun _ => popValue)
        (w.withCall g [.userdata u, .string name]) := by
    have raw : rawEntry (.userdata u) (.string name) = pure none := rfl
    have stack : w.state.stack ++ [.function g] ++ [.userdata u] ++ [.string name] =
        w.state.stack ++ .function g :: [.userdata u, .string name] := by simp
    show indexChain run (.string name) (99 + 1) (.userdata u) w = _
    unfold indexChain
    rw [raw, pure_bind]
    refine (run_bind _ _ _).trans ?_
    rw [run_get]
    dsimp only
    rw [handler]
    dsimp only
    rw [run_push_bind, run_push_bind, run_push_bind]
    exact congrArg (fun stack => (call run 2 (some 1) >>= fun _ => popValue) (w.withStack stack))
      stack
  have activated := run_call_withCall (w := w) run (some 1) framed g [.userdata u, .string name]
  have read : query (fun s => s.valueOrNil index) w = (.ok (.userdata u), w) := by
    rw [← value]
    rfl
  unfold getField
  rw [run_bind, read]
  dsimp only
  rw [run_bind, asked, run_bind, show 2 = [Value.userdata u, .string name].length from rfl,
    activated]
  obtain ⟨r, v⟩ := invoke run w.state.stack.length g (some 1)
    (w.withCall g [.userdata u, .string name])
  cases r with
  | error e => rfl
  | ok _ =>
    dsimp only
    rw [run_bind]

/-- The function that an `__index` handler makes of a method. -/
def fetchedMethod (name : String) : Function := ⟨name, .handler .builtinMethod, [.string name]⟩

/-- The world that knows a fetched method. -/
def withMethod (w : World) (name : String) : World :=
  w.under (w.functions.push (fetchedMethod name)) w.state.namecall

/-- Once it is fetched, the method is activated like any function. -/
theorem callFetched_eq {run : Runner} {index : Int} {v : Value} {name : String}
    (args : List Value) (wanted : Option Nat) (framed : w.state.Framed) {k : FunctionId}
    (fetched : getField run index name w =
      (.ok (), (withMethod w name).withStack (w.state.stack ++ [.function k]))) :
    callFetched run index v name args wanted w =
      invoke run w.state.stack.length k wanted ((withMethod w name).withCall k (v :: args)) := by
  have stack : w.state.stack ++ [.function k] ++ [v] ++ args =
      w.state.stack ++ .function k :: v :: args := by simp
  have call := run_call_withCall (w := withMethod w name) run wanted framed k (v :: args)
  unfold callFetched
  rw [run_bind, fetched]
  dsimp only
  rw [run_push_bind, run_forM_push]
  refine Eq.trans ?_ call
  exact congrArg
    (fun stack => ScriptM.call run (args.length + 1) wanted ((withMethod w name).withStack stack))
    stack

/-! ## Values with handlers -/

/-- The value is a builtin value, and the handlers of its metatable are `f` and `g`. -/
structure Handled (w : World) (v : Value) (x : Variant) (f g : FunctionId) : Prop where
  value : ∃ u, v = .userdata u ∧ (w.userdatum u).payload = .variant x ∧
    ∃ mt, w.metatableNamed x.tag.name = some mt ∧ (w.userdatum u).metatable = some mt
  namecall : w.metafield v "__namecall" = some (.function f)
  namecall_known : w.handler? f = some .builtinNamecall
  index : w.metafield v "__index" = some (.function g)
  index_known : w.handler? g = some .builtinMemberIndex

variable {v : Value} {x : Variant} {g : FunctionId} {name : String} {index : Int}

/-- A builtin value of an opened type has the handlers. -/
theorem handled_of_opened (value : w.anyBuiltinAt? index = some x)
    (opened : w.Opened x.tag.name) : ∃ f g, Handled w (w.state.valueOrNil index) x f g := by
  obtain ⟨u, carried, payload⟩ := World.anyBuiltinAt?_eq_some.mp value
  obtain ⟨at_, mt, named, tagged⟩ := World.testUserdata?_eq_some.mp carried
  -- the value carries the metatable that has been opened
  obtain ⟨mt', named', -, ⟨f, namecall, knownf⟩, ⟨g, index, knowng⟩⟩ := opened
  obtain rfl : mt' = mt := Option.some.inj (named'.symm.trans named)
  have field : ∀ {event : String} {k : FunctionId}, (w.table mt').field event = .function k →
      w.metafield (.userdata u) event = some (.function k) := by
    intro event k entry
    rw [World.metafield, World.metatable, tagged]
    dsimp only
    rw [entry]
  refine ⟨f, g, ?_⟩
  rw [State.valueOrNil, at_]
  exact ⟨⟨u, rfl, payload, mt', named, tagged⟩, field namecall, knownf, field index, knowng⟩

/-- It is the receiver of every call in which it comes first. -/
theorem Handled.receiver (handled : Handled w v x f g) {e : World}
    (first : e.state.value? 1 = some v) (userdata : e.userdata = w.userdata)
    (metatables : e.state.metatables = w.state.metatables) : e.anyBuiltinAt? 1 = some x := by
  obtain ⟨u, rfl, payload, mt, named, tagged⟩ := handled.value
  have same : e.userdatum u = w.userdatum u := by
    rw [World.userdatum, World.userdatum, userdata]
  have named : e.metatableNamed x.tag.name = some mt := by
    rw [World.metatableNamed, metatables]
    exact named
  rw [← same] at payload tagged
  exact World.anyBuiltinAt?_eq_some.mpr
    ⟨u, World.testUserdata?_eq_some.mpr ⟨first, mt, named, tagged⟩, payload⟩

theorem Handled.userdata (handled : Handled w v x f g) : ∃ u, v = .userdata u :=
  let ⟨u, same, _⟩ := handled.value
  ⟨u, same⟩

/-! ## In the frames of the handlers -/

/-- In the frame of a call by name, the method of that name is called. -/
theorem Handled.run_namecall (handled : Handled w v x f g) (n : Nat) (args : List Value) :
    let e := (w.withNamecall (some name)).callFrame f (v :: args)
    runAt (n + 1) f e = callBuiltinMethod name e := by
  intro e
  have known : e.handler? f = some .builtinNamecall := handled.namecall_known
  rw [runAt_handler known]
  exact run_builtinNamecall e

/-- In the frame of the `__index` handler, the first two arguments are the value and the name. -/
theorem Handled.run_index (handled : Handled w v x f g) (n : Nat) :
    let e := w.callFrame g [v, .string name]
    runAt (n + 1) g e =
      match w.state.context with
      | none => (.error noContext, e)
      | some c =>
        match (w.registry c.registry).builtin? x.tag.name with
        | none => (.error (.runtime ("unknown builtin type " ++ x.tag.name)), e)
        | some b => pushEntry c b x name e := by
  intro e
  have known : e.handler? g = some .builtinMemberIndex := handled.index_known
  have first : e.anyBuiltinAt? 1 = some x := handled.receiver (value?_callFrame 0) rfl rfl
  have second : e.state.checkText 2 = .ok name := by
    have value : e.state.value? 2 = some (.string name) := value?_callFrame 1
    rw [State.checkText, State.toText?, value]
    rfl
  rw [runAt_handler known]
  refine (run_builtinMemberIndex e).trans ?_
  rw [first, second]
  rfl

/-- Without a context, neither handler does anything. -/
theorem Handled.namecall_without_context (handled : Handled w v x f g)
    (context : w.state.context = none) (n : Nat) (args : List Value) :
    let e := (w.withNamecall (some name)).callFrame f (v :: args)
    runAt (n + 1) f e = (.error noContext, e) := by
  intro e
  have first : e.anyBuiltinAt? 1 = some x := handled.receiver (value?_callFrame 0) rfl rfl
  have context : e.state.context = none := context
  refine (handled.run_namecall n args).trans ?_
  rw [run_callBuiltinMethod, first, context]

theorem Handled.index_without_context (handled : Handled w v x f g)
    (context : w.state.context = none) (n : Nat) :
    let e := w.callFrame g [v, .string name]
    runAt (n + 1) g e = (.error noContext, e) := by
  intro e
  refine (handled.run_index n).trans ?_
  rw [context]

/-- A function that has been fetched calls the method of its name. -/
theorem run_fetched (n : Nat) :
    let e := (withMethod w name).callFrame ⟨w.functions.size⟩ args
    runAt (n + 1) ⟨w.functions.size⟩ e = callBuiltinMethod name e := by
  intro e
  have here : e.functions[w.functions.size]? = some (fetchedMethod name) :=
    Array.getElem?_push_size
  have known : e.handler? ⟨w.functions.size⟩ = some .builtinMethod :=
    World.handler?_eq_some.mpr ⟨_, here, rfl⟩
  have upvalue : upvalueText? e.state 1 = some name := upvalueText?_callFrame here rfl
  rw [runAt_handler known]
  refine (run_builtinMethod e).trans ?_
  rw [upvalue]

/-! ## What both ways come to -/

/-- If both handlers fail at once, both ways do. -/
theorem Handled.futile (handled : Handled w v x f g) (framed : w.state.Framed)
    (value : w.state.valueOrNil index = v) {run : Runner} {e : ScriptError} (args : List Value)
    (wanted : Option Nat)
    (full : maxCallDepth ≤ w.state.frames.length → e = .stackOverflow maxCallDepth)
    (byName : w.state.frames.length < maxCallDepth →
      let u := (w.withNamecall (some name)).callFrame f (v :: args)
      run f u = (.error e, u))
    (byIndex : w.state.frames.length < maxCallDepth →
      let u := w.callFrame g [v, .string name]
      run g u = (.error e, u)) :
    callByName run v name args wanted w = (.error e, w) ∧
      callFetched run index v name args wanted w = (.error e, w) := by
  constructor
  -- a call by name enters the name for its time, and takes it out afterwards
  · have ended := run_invoke_futile (w := w.withNamecall (some name)) wanted full byName
    rw [callByName_eq run args wanted framed handled.namecall]
    exact congrArg (fun r => (r.1, r.2.withNamecall w.state.namecall)) ended
  · obtain ⟨u, rfl⟩ := handled.userdata
    have fetched : getField run index name w = _ :=
      run_getField run framed value handled.index
    rw [run_invoke_futile (some 1) full byIndex] at fetched
    unfold callFetched
    rw [run_bind, fetched]

/-- A declared method that is no member is fetched as a new function. -/
theorem Handled.run_getField_method (handled : Handled w v x f g) (framed : w.state.Framed)
    (room : w.state.frames.length < maxCallDepth) (value : w.state.valueOrNil index = v)
    {c : Context} {b : Registry.Builtin} (context : w.state.context = some c)
    (type : (w.registry c.registry).builtin? x.tag.name = some b)
    (method : (instanceMethod? b name).isSome) (plain : b.member? name = none) (n : Nat) :
    getField (runAt (n + 1)) index name w =
      (.ok (), (withMethod w name).withStack
        (w.state.stack ++ [.function ⟨w.functions.size⟩])) := by
  obtain ⟨u, rfl⟩ := handled.userdata
  let e := w.callFrame g [.userdata u, .string name]
  let k : FunctionId := ⟨w.functions.size⟩
  have pushed : pushEntry c b x name e =
      (.ok 1, { e with
        functions := e.functions.push (fetchedMethod name)
        state := e.state.push (.function k) }) := by
    unfold pushEntry
    rw [plain, method]
    rfl
  -- the handler leaves one new function, and the stack as it was below that
  have activated : invoke (runAt (n + 1)) w.state.stack.length g (some 1)
      (w.withCall g [.userdata u, .string name]) =
      (.ok (), (withMethod w name).withStack (w.state.stack ++ [.function k])) := by
    refine run_invoke_pushes room ?_
    rw [handled.run_index n, context]
    dsimp only
    rw [type]
    exact pushed
  have popped : popValue ((withMethod w name).withStack (w.state.stack ++ [.function k])) =
      (.ok (.function k), withMethod w name) :=
    run_popValue_top (w := withMethod w name) framed (.function k)
  rw [run_getField _ framed value handled.index, activated]
  dsimp only
  rw [run_bind, popped]
  rfl

/-- Where both ways get to the method, they end alike. -/
theorem Handled.alike (handled : Handled w v x f g) (framed : w.state.Framed)
    (room : w.state.frames.length < maxCallDepth) (value : w.state.valueOrNil index = v)
    {c : Context} {b : Registry.Builtin} (context : w.state.context = some c)
    (type : (w.registry c.registry).builtin? x.tag.name = some b)
    (method : (instanceMethod? b name).isSome) (plain : b.member? name = none) (n : Nat)
    (args : List Value) (wanted : Option Nat) :
    EndsAlike (callByName (runAt (n + 1)) v name args wanted w)
      (callFetched (runAt (n + 1)) index v name args wanted w) := by
  have got := handled.run_getField_method framed room value context type method plain n
  -- what is left is one handler that is activated in two guises
  let ended := invoke (runAt (n + 1)) w.state.stack.length f wanted
    ((w.withNamecall (some name)).withCall f (v :: args))
  let functions := w.functions.push (fetchedMethod name)
  have first : callByName (runAt (n + 1)) v name args wanted w =
      (ended.1, ended.2.withNamecall w.state.namecall) :=
    callByName_eq (runAt (n + 1)) args wanted framed handled.namecall
  have second : callFetched (runAt (n + 1)) index v name args wanted w =
      (ended.1, ended.2.under functions w.state.namecall) :=
    (callFetched_eq args wanted framed got).trans
      (run_invoke_alike (w := w.withNamecall (some name)) (.callBuiltinMethod name)
        (.callBuiltinMethod name) wanted room functions w.state.namecall
        (handled.run_namecall n args) (run_fetched n))
  have made : ended.2.functions = w.functions :=
    functions_invoke_blind (w := w.withNamecall (some name)) (.callBuiltinMethod name)
      (.callBuiltinMethod name) wanted room (handled.run_namecall n args)
  rw [first, second]
  refine ⟨rfl, #[fetchedMethod name], ?_⟩
  show ended.2.under functions w.state.namecall =
    { ended.2.withNamecall w.state.namecall with
      functions := ended.2.functions ++ #[fetchedMethod name] }
  rw [made]
  rfl

/-- Both ways end alike for every value with handlers. -/
theorem Handled.ways_agree (handled : Handled w v x f g) (framed : w.state.Framed)
    (value : w.state.valueOrNil index = v)
    (declared : ∀ c, w.state.context = some c → ∃ b,
      (w.registry c.registry).builtin? x.tag.name = some b ∧ (instanceMethod? b name).isSome ∧
        b.member? name = none)
    (n : Nat) (args : List Value) (wanted : Option Nat) :
    EndsAlike (callByName (runAt n) v name args wanted w)
      (callFetched (runAt n) index v name args wanted w) := by
  -- the cases are the reasons to fail before a handler has done anything
  rcases Nat.lt_or_ge w.state.frames.length maxCallDepth with room | full
  · have notFull : ∀ e : ScriptError,
        maxCallDepth ≤ w.state.frames.length → e = .stackOverflow maxCallDepth :=
      fun e full => absurd room (Nat.not_lt_of_le full)
    cases n with
    | zero =>
      exact .of_eq (handled.futile framed value args wanted (fun _ => rfl) (fun _ => rfl)
        fun _ => rfl)
    | succ n =>
      cases context : w.state.context with
      | none =>
        exact .of_eq (handled.futile framed value args wanted (notFull _)
          (fun _ => handled.namecall_without_context context n args)
          fun _ => handled.index_without_context context n)
      | some c =>
        obtain ⟨b, type, method, plain⟩ := declared c context
        exact handled.alike framed room value context type method plain n args wanted
  · exact .of_eq (handled.futile framed value args wanted (fun _ => rfl)
      (fun room => absurd room (Nat.not_lt_of_le full))
      fun room => absurd room (Nat.not_lt_of_le full))

/-! ## After the opening -/

/-- For every builtin value of a type whose library has been opened, and every method that the
description declares for values of the type and that is no member, to call the method by its name and
to fetch and call it have the same outcome and leave the same results, requests, payloads and
everything else, but for the fetched function. It does not matter how much has happened since the
opening, as long as the metatable of the type is as it was. What is asked of the state before the
opening holds of a new state and at every moment of a run (`Moment.framed`, `Moment.houses`). -/
theorem method_paths_agree {w₀ w₁ w : World} {c₀ : Context} {count : Nat} {index : Int}
    {x : Variant} {name : String} (framed₀ : w₀.state.Framed) (housed : w₀.Houses w₀.state)
    (context : w₀.state.context = some c₀) (opens : openBuiltins w₀ = (.ok count, w₁))
    (listed : ∃ T ∈ libraryTypes (w₀.registry c₀.registry), T.name = x.tag.name)
    (later : Leads w₁ w) (framed : w.state.Framed)
    (intact : ∃ mt, w₁.metatableNamed x.tag.name = some mt ∧
      w.metatableNamed x.tag.name = some mt ∧ w.table mt = w₁.table mt)
    (value : w.anyBuiltinAt? index = some x)
    (declared : ∀ c, w.state.context = some c → ∃ b m,
      (w.registry c.registry).builtin? x.tag.name = some b ∧ b.method? name = some m ∧
        m.flags.isStatic = false ∧ b.member? name = none)
    (n : Nat) (args : List Value) (wanted : Option Nat) :
    let v := w.state.valueOrNil index
    EndsAlike (callByName (runAt n) v name args wanted w)
      (callFetched (runAt n) index v name args wanted w) := by
  obtain ⟨T, known, named⟩ := listed
  have opened : w₁.Opened x.tag.name :=
    named ▸ opened_openBuiltins framed₀ housed context opens T known
  -- both handlers are still those that the library was opened with
  obtain ⟨f, g, handled⟩ := handled_of_opened value (opened.later later intact)
  refine handled.ways_agree framed rfl (fun c context => ?_) n args wanted
  obtain ⟨b, m, type, method, instance_, plain⟩ := declared c context
  have declared : (instanceMethod? b name).isSome := by
    rw [instanceMethod?, method, Option.filter_some, instance_]
    rfl
  exact ⟨b, type, declared, plain⟩

/-- A run that makes a description with one method and one member known. -/
def described : List Session.Event :=
  [.command (.run (.install (.document ("\x7b\"header\":\x7b\x7d,\"builtin_classes\":[" ++
      "\x7b\"name\":\"Vector2i\",\"members\":[\x7b\"name\":\"x\",\"type\":\"int\"\x7d]," ++
      "\"methods\":[\x7b\"name\":\"echo\",\"return_type\":\"String\",\"arguments\":[" ++
      "\x7b\"name\":\"text\",\"type\":\"String\"\x7d]\x7d]\x7d]\x7d")) (.fresh .plain)))]

/-- The method is called in both ways on a value that is pushed after the opening. -/
theorem method_paths_agree_echo :
    let w₀ := (Session.after described).world
    let w₁ := (openBuiltins w₀).2
    let w := (pushBuiltin (.vector2i ⟨1, 2⟩) w₁).2
    openBuiltins w₀ = (.ok 1, w₁) ∧ w.anyBuiltinAt? (-1) = some (.vector2i ⟨1, 2⟩) ∧
      ∀ (n : Nat) (args : List Value) (wanted : Option Nat),
        let v := w.state.valueOrNil (-1)
        EndsAlike (callByName (runAt n) v "echo" args wanted w)
          (callFetched (runAt n) (-1) v "echo" args wanted w) := by
  have facts :
      let w₀ := (Session.after described).world
      let w₁ := (openBuiltins w₀).2
      let w := (pushBuiltin (.vector2i ⟨1, 2⟩) w₁).2
      w₀.state.context = some ⟨0, 0⟩ ∧ (openBuiltins w₀).1 = .ok 1 ∧
        (∃ T ∈ libraryTypes (w₀.registry 0), T.name = "Vector2i") ∧
        w₁.metatableNamed "Vector2i" = some ⟨1⟩ ∧
        w.anyBuiltinAt? (-1) = some (.vector2i ⟨1, 2⟩) ∧ w.state.context = some ⟨0, 0⟩ ∧
        ((w.registry 0).builtin? "Vector2i").any (fun b =>
          (b.method? "echo").any (fun m => !m.flags.isStatic) && (b.member? "echo").isNone) := by
    decide +kernel
  have moment := Session.Moment.last described
  -- from here on it does not matter what led to the world
  generalize (Session.after described).world = start at facts moment ⊢
  obtain ⟨context, count, listed, named, value, context', declared⟩ := facts
  intro w₀ w₁ w
  have opens : openBuiltins w₀ = (.ok 1, w₁) := by
    have parts : ∀ ended : Except ScriptError Nat × World, ended.1 = .ok 1 →
        ended = (.ok 1, ended.2) := fun _ ok => Prod.ext ok rfl
    exact parts _ count
  have opening : Evolves w₀ w₁ := Evolving.openBuiltins w₀
  have pushing : Evolves w₁ w := Evolving.pushBuiltin (.vector2i ⟨1, 2⟩) w₁
  have framed₁ : w₁.state.Framed := opening.framed moment.framed
  -- the metatable is known, so no table is touched
  have tables : w.tables = w₁.tables := by
    have pushed : w = (pushTagged (.variant (.vector2i ⟨1, 2⟩)) ⟨1⟩ w₁).2 := by
      show (ScriptM.pushBuiltin (.vector2i ⟨1, 2⟩) w₁).2 = _
      unfold ScriptM.pushBuiltin
      rw [run_bind, run_instanceMetatable _ framed₁]
      have named : w₁.metatableNamed (Variant.vector2i ⟨1, 2⟩).tag.name = some ⟨1⟩ := named
      rw [named]
    rw [pushed]
    rfl
  refine ⟨opens, value, method_paths_agree (x := .vector2i ⟨1, 2⟩) moment.framed moment.houses
    context opens listed (.evolves pushing) (pushing.framed framed₁)
    ⟨⟨1⟩, named, pushing.metatable_kept named, ?_⟩ value fun c known => ?_⟩
  · rw [World.table, World.table, tables]
  · obtain rfl : c = ⟨0, 0⟩ := Option.some.inj (known.symm.trans context')
    obtain ⟨b, type, declared⟩ := (Option.any_eq_true _ _).mp declared
    obtain ⟨method, plain⟩ := Bool.and_eq_true_iff.mp declared
    obtain ⟨m, method, instance_⟩ := (Option.any_eq_true _ _).mp method
    exact ⟨b, m, type, method, by simpa using instance_, by simpa using plain⟩

end ScriptM

end ScriptBind
