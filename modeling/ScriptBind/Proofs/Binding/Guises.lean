import ScriptBind.Proofs.Binding.Handlers
import ScriptBind.Proofs.Binding.Marshalling

/-!
# What a handler cannot tell apart

Two calls may reach one handler in different ways: through different functions, with different
upvalues, with and without a method call in progress. What lies below the frame differs then, and
what is known of the frame, but not the arguments. `Guise` collects what may differ. An operation is
`Blind` if it does the same in every guise of a world, and leaves the guise as it is.

Main results:

* `Blind.collectArgs`, `Blind.pushVariant` — arguments on their way in, results on their way out.
* `Blind.callBuiltinMethod` — a method of a value, once its name is known.
* `Counts.callBuiltinMethod` — it leaves as many results as it answers.
-/

namespace ScriptBind

/-! ## Guises -/

/-- What may differ between two calls of one handler with the same arguments. -/
structure Guise where
  below : List Value
  frames : List Frame
  functions : Array Function
  namecall : Option String

namespace World

/-- The world in another guise: the values of the running frame are the same. -/
def inGuise (w : World) (g : Guise) : World :=
  { w with
    functions := g.functions
    state :=
      { w.state with
        stack := g.below ++ w.state.stack.drop w.state.base
        frames := g.frames
        namecall := g.namecall } }

/-- The guise that the world is in. -/
def guise (w : World) : Guise :=
  ⟨w.state.stack.take w.state.base, w.state.frames, w.functions, w.state.namecall⟩

/-- A world is in its own guise. -/
theorem inGuise_guise (w : World) : w.inGuise w.guise = w := by
  unfold inGuise guise
  rw [List.take_append_drop]

end World

/-- The frame of a guise starts in the same slot as that of the world. -/
structure Guise.Fits (g : Guise) (w : World) : Prop where
  framed : w.state.Framed
  base : (g.frames.head?.map fun f => f.base).getD 0 = w.state.base
  below : g.below.length = w.state.base

namespace Guise.Fits

variable {g : Guise} {w : World}

/-- The guise that a world is in fits it. -/
theorem guise (framed : w.state.Framed) : w.guise.Fits w :=
  ⟨framed, rfl, List.length_take_of_le framed⟩

/-- The frame starts in the same slot in every guise. -/
theorem base_inGuise (fits : g.Fits w) : (w.inGuise g).state.base = w.state.base := fits.base

/-- The stack is as high in every guise. -/
theorem length_inGuise (fits : g.Fits w) :
    (w.inGuise g).state.stack.length = w.state.stack.length := by
  have framed : w.state.base ≤ w.state.stack.length := fits.framed
  simp only [World.inGuise, List.length_append, List.length_drop, fits.below]
  omega

/-- The frame has as many values in every guise. -/
theorem top_inGuise (fits : g.Fits w) : (w.inGuise g).state.top = w.state.top := by
  rw [State.top, State.top, fits.length_inGuise, fits.base_inGuise]

/-- An index names the same value in every guise. -/
theorem value?_inGuise (fits : g.Fits w) (index : Int) :
    (w.inGuise g).state.value? index = w.state.value? index := by
  have slots : (w.inGuise g).state.slot? index = w.state.slot? index := by
    rw [State.slot?, State.slot?, fits.length_inGuise, fits.base_inGuise, fits.top_inGuise]
  rw [State.value?, State.value?, slots]
  cases at_ : w.state.slot? index with
  | none => rfl
  | some k =>
    -- the slot belongs to the frame, where both stacks hold the same
    have low : w.state.base ≤ k := State.base_le_of_slot? at_
    show (g.below ++ w.state.stack.drop w.state.base)[k]? = w.state.stack[k]?
    rw [List.getElem?_append_right (by rw [fits.below]; exact low), fits.below,
      List.getElem?_drop, Nat.add_sub_cancel' low]

/-- So do the values from a slot of the frame upwards. -/
theorem drop_inGuise (fits : g.Fits w) {slot : Nat} (low : w.state.base ≤ slot) :
    (w.inGuise g).state.stack.drop slot = w.state.stack.drop slot := by
  show (g.below ++ w.state.stack.drop w.state.base).drop slot = _
  rw [List.drop_append, List.drop_of_length_le (by rw [fits.below]; exact low), fits.below,
    List.drop_drop, Nat.add_sub_cancel' low, List.nil_append]

/-- The frame holds the same userdata in every guise. -/
theorem toUserdata?_inGuise (fits : g.Fits w) (index : Int) :
    (w.inGuise g).state.toUserdata? index = w.state.toUserdata? index := by
  rw [State.toUserdata?, State.toUserdata?, fits.value?_inGuise]

/-- An argument is refused in the same words in every guise. -/
theorem argError_inGuise (fits : g.Fits w) (index : Int) (expected : String) :
    (w.inGuise g).state.argError index expected = w.state.argError index expected := by
  simp only [State.argError, State.kind, fits.value?_inGuise]

/-- The frame holds the same objects in every guise. -/
theorem objectAt?_inGuise (fits : g.Fits w) (index : Int) :
    (w.inGuise g).objectAt? index = w.objectAt? index := by
  rw [World.objectAt?, World.objectAt?, fits.toUserdata?_inGuise]
  rfl

/-- The frame holds the same values of a type in every guise. -/
theorem builtinAt?_inGuise (fits : g.Fits w) (index : Int) (type : Tag) :
    (w.inGuise g).builtinAt? index type = w.builtinAt? index type := by
  rw [World.builtinAt?, World.builtinAt?, World.testUserdata?, World.testUserdata?,
    fits.toUserdata?_inGuise]
  rfl

/-- The frame holds the same math values in every guise. -/
theorem anyBuiltinAt?_inGuise (fits : g.Fits w) (index : Int) :
    (w.inGuise g).anyBuiltinAt? index = w.anyBuiltinAt? index := by
  rw [World.anyBuiltinAt?, World.anyBuiltinAt?, fits.toUserdata?_inGuise]
  simp only [fits.builtinAt?_inGuise]
  rfl

/-- The frame holds the same integers in every guise. -/
theorem integerAt?_inGuise (fits : g.Fits w) (index : Int) :
    (w.inGuise g).integerAt? index = w.integerAt? index := by
  rw [World.integerAt?, World.integerAt?, State.toNumber?, State.toNumber?, fits.value?_inGuise]

/-- The frame holds the same engine values in every guise. -/
theorem variantAt?_inGuise (fits : g.Fits w) (index : Int) :
    (w.inGuise g).variantAt? index = w.variantAt? index := by
  simp only [World.variantAt?, fits.value?_inGuise, fits.objectAt?_inGuise,
    fits.anyBuiltinAt?_inGuise]

/-- The frame holds the same arguments in every guise. -/
theorem builtinArg?_inGuise (fits : g.Fits w) (index : Int) (type : Tag) :
    (w.inGuise g).builtinArg? index type = w.builtinArg? index type := by
  have absent : (w.inGuise g).state.isNoneOrNil index = w.state.isNoneOrNil index := by
    rw [State.isNoneOrNil, State.isNoneOrNil, State.valueOrNil, State.valueOrNil,
      fits.value?_inGuise]
  cases type with
  | nil =>
    rw [World.builtinArg?, World.builtinArg?, absent]
  | _ =>
    simp only [World.builtinArg?, World.booleanAt?, State.toNumber?, State.toText?,
      fits.value?_inGuise, fits.integerAt?_inGuise, fits.builtinAt?_inGuise]

end Guise.Fits

namespace ScriptM

/-! ## Blind operations -/

/-- The operation does the same in every guise, and leaves the guise as it is. -/
def Blind {α : Type} (act : ScriptM α) : Prop :=
  ∀ w g, g.Fits w → act (w.inGuise g) = ((act w).1, (act w).2.inGuise g) ∧ g.Fits (act w).2

namespace Blind

variable {α β : Type}

/-- A blind operation leaves the guise of its own world, too. -/
theorem guise_eq {act : ScriptM α} (blind : Blind act) {w : World} (framed : w.state.Framed) :
    (act w).2 = (act w).2.inGuise w.guise ∧ w.guise.Fits (act w).2 := by
  -- in its own guise a world is what it is
  obtain ⟨run, fits⟩ := blind w w.guise (.guise framed)
  rw [World.inGuise_guise] at run
  exact ⟨congrArg Prod.snd run, fits⟩

/-- A value that is returned is the same in every guise. -/
theorem pure (a : α) : Blind (Pure.pure a : ScriptM α) := fun _ _ fits => ⟨rfl, fits⟩

/-- An error is the same in every guise. -/
theorem throw (e : ScriptError) : Blind (MonadExcept.throw e : ScriptM α) :=
  fun _ _ fits => ⟨rfl, fits⟩

/-- What one operation leaves is again a guise of what it leaves elsewhere, so the next one goes on.
-/
theorem bind {a : ScriptM α} {f : α → ScriptM β} (ha : Blind a) (hf : ∀ x, Blind (f x)) :
    Blind (a >>= f) := by
  intro w g fits
  obtain ⟨run, fits'⟩ := ha w g fits
  rw [run_bind, run_bind, run]
  cases hv : a w with
  | mk r v =>
    rw [hv] at fits'
    cases r with
    | ok x => exact hf x v g fits'
    | error e => exact ⟨rfl, fits'⟩

/-- One of two operations, if the guise does not decide which. -/
theorem ite {p : Prop} [Decidable p] {a b : ScriptM α} (ha : Blind a) (hb : Blind b) :
    Blind (if p then a else b) := by
  split
  · exact ha
  · exact hb

/-- A step that is taken only under a condition. -/
theorem optional {p : Prop} [Decidable p] {a : ScriptM Unit} {rest : Unit → ScriptM β}
    (ha : Blind a) (hrest : ∀ u, Blind (rest u)) : Blind (if p then a >>= rest else rest ()) :=
  ite (ha.bind hrest) (hrest ())

/-- An operation that goes on with what it reads from the world, which is the same in every
guise. -/
theorem reading {f : World → ScriptM α} (same : ∀ w g, g.Fits w → f (w.inGuise g) = f w)
    (hf : ∀ w, Blind (f w)) : Blind (MonadState.get >>= f) := by
  intro w g fits
  rw [run_bind, run_bind, run_get, run_get]
  dsimp only
  rw [same w g fits]
  exact hf w w g fits

/-- As `reading`, for what is read from the state. -/
theorem readingState {f : State → ScriptM α}
    (same : ∀ (w : World) (g : Guise), g.Fits w → f (w.inGuise g).state = f w.state) (hf : ∀ s, Blind (f s)) :
    Blind (ScriptM.state >>= f) := by
  intro w g fits
  rw [run_bind, run_bind, run_state, run_state]
  dsimp only
  rw [same w g fits]
  exact hf w.state w g fits

/-- A change of what no guise hides. -/
theorem change {f : World → World} (same : ∀ w g, f (w.inGuise g) = (f w).inGuise g)
    (stays : ∀ (w : World) (g : Guise), g.Fits w → g.Fits (f w)) : Blind (modify f : ScriptM Unit) := by
  intro w g fits
  rw [run_modify, run_modify, same]
  exact ⟨rfl, stays w g fits⟩

/-- A value that is pushed lies within the frame. -/
theorem push (v : Value) : Blind (ScriptM.push v) := by
  intro w g fits
  have framed : w.state.base ≤ w.state.stack.length := fits.framed
  refine ⟨?_, ?_, fits.base, fits.below⟩
  · show (Except.ok (), { w.inGuise g with state := (w.inGuise g).state.push v }) = _
    have stack : (w.inGuise g).state.stack ++ [v] =
        g.below ++ (w.state.stack ++ [v]).drop w.state.base := by
      rw [List.drop_append_of_le_length framed, ← List.append_assoc]
      rfl
    simp only [State.push, stack]
    rfl
  · show w.state.base ≤ (w.state.stack ++ [v]).length
    rw [List.length_append]
    omega

/-! ## Requests -/

/-- The context is no part of the guise. -/
theorem context : Blind ScriptM.context := by
  refine readingState (fun _ _ _ => rfl) fun s => ?_
  cases s.context with
  | some c => exact pure c
  | none => exact throw _

/-- The registries are no part of the guise. -/
theorem registry (c : Context) : Blind (ScriptM.registry c) :=
  reading (fun _ _ _ => rfl) fun w => pure (w.registry c.registry)

/-- The answer of a host is no part of the guise. -/
theorem granted (answer : Except HostError α) : Blind (ScriptM.granted answer) := by
  cases answer with
  | ok a => exact pure a
  | error e => exact throw _

/-- A host is asked in the same way in every guise. -/
theorem ask (host : Nat) (r : Request) (answer : Host → α) :
    Blind (ScriptM.ask host r answer) :=
  Blind.bind (change (fun _ _ => rfl) fun _ _ fits => ⟨fits.framed, fits.base, fits.below⟩)
    fun _ => reading (fun _ _ _ => rfl) fun w => pure (answer (w.host host))

/-! ## Arguments -/

/-- What has not been found is refused in the same words in every guise. -/
theorem demand (index : Int) (expected : String) (found : Option α) :
    Blind (ScriptM.demand index expected found) := by
  cases found with
  | some a => exact pure a
  | none =>
    refine readingState (fun w g fits => ?_) fun s => throw _
    rw [fits.argError_inGuise]

/-- An object is checked in the same way in every guise. -/
theorem checkObject (c : Context) (index : Int) (cls : String) :
    Blind (ScriptM.checkObject c index cls) := by
  refine readingState (fun w g fits => ?_) fun s =>
    ite (pure _) (reading (fun w g fits => ?_) fun w => ?_)
  · rw [fits.value?_inGuise]
  · rw [fits.objectAt?_inGuise]
  · refine (demand index cls _).bind fun id => (ask _ _ _).bind fun answer =>
      (granted answer).bind fun _ => (registry c).bind fun _ => ite (pure _)
        (readingState (fun w g fits => ?_) fun s => throw _)
    rw [fits.argError_inGuise]

/-- An argument is converted in the same way in every guise. -/
theorem checkArg (c : Context) (index : Int) (type : ArgType) :
    Blind (ScriptM.checkArg c index type) := by
  refine reading (fun w g fits => ?_) fun w => ?_
  · simp only [fits.variantAt?_inGuise, fits.integerAt?_inGuise, fits.builtinArg?_inGuise]
  · split
    · exact demand _ _ _
    · exact demand _ _ _
    · exact checkObject c index _
    · exact checkObject c index _
    · exact demand _ _ _

/-- All arguments are converted in the same way in every guise. -/
theorem checkArgs (c : Context) (types : List ArgType) (index : Int) :
    Blind (ScriptM.checkArgs c index types) := by
  induction types generalizing index with
  | nil => exact pure []
  | cons type rest ih =>
    exact (checkArg c index type).bind fun v => (ih (index + 1)).bind fun vs => pure (v :: vs)

/-- The arguments are counted and converted in the same way in every guise. -/
theorem collectArgs (c : Context) (first : Int) (m : Registry.Method) :
    Blind (ScriptM.collectArgs c first m) := by
  refine readingState (fun w g fits => ?_) fun s => ?_
  · rw [fits.top_inGuise]
  · dsimp only
    split
    · exact (throw _).bind fun _ => checkArgs c _ first
    · exact checkArgs c _ first

/-! ## Results -/

/-- The metatable of a type is found or made in the same way in every guise. -/
theorem instanceMetatable (name : String) : Blind (ScriptM.instanceMetatable name) := by
  intro w g fits
  -- the metatable is on the stack for a moment, so both frames must lie within their stacks
  have framed : (w.inGuise g).state.Framed := by
    show (w.inGuise g).state.base ≤ (w.inGuise g).state.stack.length
    rw [fits.base_inGuise, fits.length_inGuise]
    exact fits.framed
  have named : (w.inGuise g).metatableNamed name = w.metatableNamed name := rfl
  rw [run_instanceMetatable name framed, run_instanceMetatable name fits.framed, named]
  cases w.metatableNamed name with
  | some mt => exact ⟨rfl, fits⟩
  | none => exact ⟨rfl, fits.framed, fits.base, fits.below⟩

/-- A userdata is made in the same way in every guise. -/
theorem pushTagged (p : Payload) (mt : TableId) : Blind (ScriptM.pushTagged p mt) := by
  have alloc : Blind (allocUserdata p) := fun w g fits =>
    ⟨rfl, fits.framed, fits.base, fits.below⟩
  refine (alloc.bind fun u => (push _).bind fun _ => pure u).bind fun u => ?_
  exact change (fun _ _ => rfl) fun _ _ fits => ⟨fits.framed, fits.base, fits.below⟩

/-- Tables are no part of the guise. -/
theorem changeTable (t : TableId) (f : Table → Except ScriptError Table) :
    Blind (ScriptM.changeTable t f) := by
  refine reading (fun _ _ _ => rfl) fun w => ?_
  cases f (w.table t) with
  | ok new =>
    exact change (fun _ _ => rfl) fun _ _ fits => ⟨fits.framed, fits.base, fits.below⟩
  | error e => exact throw e

/-- The shared metatable of objects is found or made in the same way in every guise. -/
theorem plainObjectMetatable : Blind ScriptM.plainObjectMetatable :=
  (instanceMetatable _).bind fun mt => reading (fun _ _ _ => rfl) fun _ =>
    optional (changeTable mt fun old => old.set (.string objectMark) (.boolean true)) fun _ =>
      pure mt

/-- An object is pushed in the same way in every guise. -/
theorem pushObject (id : ObjectId) : Blind (ScriptM.pushObject id) := by
  refine context.bind fun c => (ask _ _ _).bind fun a => (granted a).bind fun cls =>
    (registry c).bind fun r => reading (fun _ _ _ => rfl) fun w => ?_
  split
  · exact pushTagged _ _
  · exact plainObjectMetatable.bind fun mt => pushTagged _ _

/-- An engine value is pushed in the same way in every guise. -/
theorem pushVariant (v : Variant) : Blind (ScriptM.pushVariant v) := by
  unfold ScriptM.pushVariant
  split
  case h_7 => exact pushObject _
  case h_8 => exact (instanceMetatable _).bind fun mt => pushTagged _ mt
  all_goals exact push _

/-- A result is pushed in the same way in every guise. -/
theorem pushResult (m : Registry.Method) (result : Variant) :
    Blind (ScriptM.pushResult m result) :=
  ite (pure 0) ((pushVariant result).bind fun _ => pure 1)

/-! ## Methods of values -/

/-- The receiver is the first value of the frame in every guise. -/
theorem writeReceiver (v : Variant) : Blind (ScriptM.writeReceiver v) := by
  refine readingState (fun w g fits => ?_) fun s => ?_
  · rw [fits.toUserdata?_inGuise]
  · cases s.toUserdata? 1 with
    | some u => exact change (fun _ _ => rfl) fun _ _ fits => ⟨fits.framed, fits.base, fits.below⟩
    | none => exact pure ()

/-- A method is called and answered in the same way in every guise. -/
theorem callResolved (c : Context) (target : Variant) (m : Registry.Method)
    (args : List Variant) : Blind (ScriptM.callResolved c target m args) :=
  (ask _ _ _).bind fun r => (granted r.1).bind fun result =>
    optional (writeReceiver r.2) fun _ => pushResult m result

/-- A method of a value is called in the same way in every guise. -/
theorem callBuiltinMethod (method : String) : Blind (ScriptM.callBuiltinMethod method) := by
  intro w g fits
  have sameContext : (w.inGuise g).state.context = w.state.context := rfl
  have sameRegistry : ∀ i, (w.inGuise g).registry i = w.registry i := fun _ => rfl
  -- what the handler looks up first is the same, and its errors name the same argument
  rw [run_callBuiltinMethod, run_callBuiltinMethod, fits.anyBuiltinAt?_inGuise, sameContext]
  cases w.anyBuiltinAt? 1 with
  | none => exact ⟨by rw [fits.argError_inGuise], fits⟩
  | some target =>
    cases w.state.context with
    | none => exact ⟨rfl, fits⟩
    | some c =>
      dsimp only
      rw [sameRegistry]
      cases (w.registry c.registry).builtin? target.tag.name with
      | none => exact ⟨rfl, fits⟩
      | some b =>
        dsimp only
        cases instanceMethod? b method with
        | none => exact ⟨rfl, fits⟩
        | some m =>
          exact ((collectArgs c 2 m).bind fun args => callResolved c target m args) w g fits

end Blind

/-! ## How many results -/

/-- If the operation succeeds, it has added as many values as it answers. -/
def Counts (act : ScriptM Nat) : Prop :=
  ∀ w v k, w.state.Framed → act w = (.ok k, v) →
    v.state.stack.length = w.state.stack.length + k

namespace Counts

/-- What adds no value may come before. -/
theorem after {α : Type} {a : ScriptM α} {f : α → ScriptM Nat} (ha : Neutral a)
    (hf : ∀ x, Counts (f x)) : Counts (a >>= f) := by
  intro w v k framed ok
  obtain ⟨x, u, first, ok⟩ := run_bind_eq_ok.mp ok
  have before := ha w framed
  rw [first] at before
  have added := hf x u v k (before.framed framed) ok
  rwa [before.stack] at added

/-- A method has as many results as it declares. -/
theorem pushResult (m : Registry.Method) (result : Variant) :
    Counts (ScriptM.pushResult m result) := by
  intro w v k framed ok
  unfold ScriptM.pushResult at ok
  split at ok
  · cases ok
    rfl
  · obtain ⟨_, u, pushed, ok⟩ := run_bind_eq_ok.mp ok
    cases ok
    have added := Pushes.pushVariant result w framed
    rw [pushed] at added
    obtain ⟨-, x, stack⟩ := added
    rw [stack, List.length_append, List.length_singleton]

/-- The request and the write-back add no value. -/
theorem callResolved (c : Context) (target : Variant) (m : Registry.Method)
    (args : List Variant) : Counts (ScriptM.callResolved c target m args) := by
  have asked : Neutral (askCall c.host target m.name args) := fun w _ => ⟨rfl, rfl⟩
  have written : ∀ v, Neutral (writeReceiver v) := fun v =>
    Neutral.state.bind fun s => by
      split
      · exact fun w _ => ⟨rfl, rfl⟩
      · exact .pure ()
  -- only the result is pushed, after everything that may fail
  refine .after asked fun r => .after (Inquires.granted r.1).neutral fun result => ?_
  dsimp only
  split
  · exact .after (written r.2) fun _ => pushResult m result
  · exact pushResult m result

/-- A method of a value leaves as many results as it answers. -/
theorem callBuiltinMethod (method : String) : Counts (ScriptM.callBuiltinMethod method) := by
  intro w v k framed ok
  rw [run_callBuiltinMethod] at ok
  split at ok
  · cases ok
  next target _ =>
    split at ok
    · cases ok
    next c _ =>
      split at ok
      · cases ok
      · split at ok
        · cases ok
        next m _ =>
          -- only a call with all arguments gets as far as to push something
          have counts : Counts (collectArgs c 2 m >>= ScriptM.callResolved c target m) :=
            .after (Inquires.collectArgs c 2 m).neutral fun args => callResolved c target m args
          exact counts w v k framed ok

end Counts

end ScriptM

end ScriptBind
