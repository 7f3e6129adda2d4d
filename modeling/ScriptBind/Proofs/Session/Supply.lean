import ScriptBind.Proofs.Session.Hosts
import ScriptBind.Proofs.Session.Installed
import ScriptBind.Proofs.Session.Requests

/-!
# Functions that libraries make

Most handlers look up what their function carries, or refuse. Two rely on it: the function of a
static method carries its type and its name, and `new` of a class that has instances the name of the
class. The binding layer makes such functions when it opens the libraries of classes, and when a
name is looked up in a library. Whether it succeeds or fails, what they carry is what the registry of the
context declares.

Main results:

* `adds_openClasses`, `adds_builtinGlobalIndex` — what the functions carry that libraries make.
* `Supplied.bound` — at any later time they are bound as the registry says.
-/

namespace ScriptBind

open Registry (Builtin)

/-- A function of the binding layer carries what the libraries of a registry bind it to. -/
def Function.Bound (r : Registry) (g : Function) : Prop :=
  ∀ h, g.code = .handler h → h.Bound r g.upvalues

/-- The function of a handler is bound if it carries what the handler is bound to. -/
theorem Function.bound_handler {r : Registry} {name : String} {h : Handler} {upvalues : List Value}
    (bound : h.Bound r upvalues) : Function.Bound r ⟨name, .handler h, upvalues⟩ := by
  rintro h' code
  cases code
  exact bound

namespace ScriptM

/-- Every function that has been made from `w` to `v` has a property. -/
def Adds (P : Function → Prop) (w v : World) : Prop :=
  ∀ (i : Nat) (g : Function), v.functions[i]? = some g → w.functions[i]? = some g ∨ P g

namespace Adds

/-- Nothing has been made yet. -/
theorem refl {P : Function → Prop} (w : World) : Adds P w w := fun _ _ known => .inl known

/-! ## The stack, tables and metatables -/

section Stack

variable {α : Type} {P : Function → Prop} {w₀ : World}

/-- An operation that makes no function. -/
theorem idle {act : ScriptM α} (same : ∀ w, (act w).2.functions = w.functions) :
    Keeps (Adds P w₀) act := by
  intro w adds i g known
  rw [same] at known
  exact adds i g known

/-- The state has no functions. -/
theorem modifyState (f : State → State) : Keeps (Adds P w₀) (ScriptM.modifyState f) :=
  idle fun _ => rfl

/-- An operation of the state makes no function. -/
theorem onState (f : State → Except ScriptError State) : Keeps (Adds P w₀) (ScriptM.onState f) := by
  refine idle fun w => ?_
  rw [run_onState]
  cases f w.state <;> rfl

theorem push (v : Value) : Keeps (Adds P w₀) (ScriptM.push v) := modifyState _

theorem pop (count : Nat) : Keeps (Adds P w₀) (ScriptM.pop count) := onState _

theorem popValue : Keeps (Adds P w₀) ScriptM.popValue :=
  (Keeps.check _).bind fun _ => (modifyState _).bind fun _ => .pure _

/-- A change of a table makes no function. -/
theorem changeTable (t : TableId) (f : Table → Except ScriptError Table) :
    Keeps (Adds P w₀) (ScriptM.changeTable t f) := by
  refine idle fun w => ?_
  unfold ScriptM.changeTable
  rw [run_bind, run_get]
  dsimp only
  cases f (w.table t) <;> rfl

theorem setText (t : TableId) (name : String) (v : Value) :
    Keeps (Adds P w₀) (ScriptM.setText t name v) :=
  changeTable t _

theorem setReadonly (t : TableId) (readonly : Bool) :
    Keeps (Adds P w₀) (ScriptM.setReadonly t readonly) :=
  idle fun _ => rfl

/-- An entry makes no function. -/
theorem setField (index : Int) (key : String) : Keeps (Adds P w₀) (ScriptM.setField index key) :=
  (Keeps.check _).bind fun t => popValue.bind fun v => setText t key v

/-- A new global makes no function. -/
theorem setGlobal (name : String) : Keeps (Adds P w₀) (ScriptM.setGlobal name) :=
  popValue.bind fun v => (Keeps.reads _).bind fun s => setText s.globals name v

/-- A metatable that is attached makes no function. -/
theorem attach (target : Value) (mt : Option TableId) :
    Keeps (Adds P w₀) (ScriptM.attach target mt) := by
  cases target with
  | table t => exact changeTable t _
  | userdata u => exact idle fun _ => rfl
  | _ => exact .throw _

/-- A metatable from the stack makes no function. -/
theorem setMetatable (index : Int) : Keeps (Adds P w₀) (ScriptM.setMetatable index) := by
  refine (Keeps.reads _).bind fun target => popValue.bind fun v => ?_
  cases v with
  | nil => exact attach target none
  | table mt => exact attach target (some mt)
  | _ => exact .throw _

theorem allocTable : Keeps (Adds P w₀) ScriptM.allocTable := idle fun _ => rfl

theorem pushNewTable : Keeps (Adds P w₀) ScriptM.pushNewTable :=
  allocTable.bind fun _ => (push _).bind fun _ => .pure _

/-- A metatable is made for a name without a function. -/
theorem newMetatable (name : String) : Keeps (Adds P w₀) (ScriptM.newMetatable name) := by
  refine Keeps.get.bind fun w => ?_
  split
  · exact (push _).bind fun _ => .pure _
  · exact allocTable.bind fun _ => (modifyState _).bind fun _ => (push _).bind fun _ => .pure _

/-- The one way to a function of the binding layer. -/
theorem pushHandler (name : String) {h : Handler} {upvalues : List Value}
    (hp : P ⟨name, .handler h, upvalues⟩) :
    Keeps (Adds P w₀) (ScriptM.pushHandler name h upvalues) := by
  refine Keeps.bind (fun w adds i g known => ?_) fun _ => push _
  replace known : (w.functions.push ⟨name, .handler h, upvalues⟩)[i]? = some g := known
  rw [Array.getElem?_push] at known
  split at known
  · cases known
    exact .inr hp
  · exact adds i g known

end Stack

/-! ## Values on the stack -/

section Values

variable {α : Type} {P : Function → Prop} {w₀ : World}

/-- The context is looked up. -/
theorem context : Keeps (Adds P w₀) ScriptM.context := by
  refine (Keeps.reads _).bind fun s => ?_
  split
  · exact .pure _
  · exact .throw _

/-- The answer of a host becomes a result or an error. -/
theorem granted (answer : Except HostError α) : Keeps (Adds P w₀) (ScriptM.granted answer) := by
  cases answer with
  | ok a => exact .pure a
  | error e => exact .throw _

/-- A request makes no function. -/
theorem record (host : Nat) (r : Request) : Keeps (Adds P w₀) (ScriptM.record host r) :=
  idle fun _ => rfl

/-- A host is asked something without a function. -/
theorem ask (host : Nat) (r : Request) (answer : Host → α) :
    Keeps (Adds P w₀) (ScriptM.ask host r answer) :=
  (record host r).bind fun _ => .reads _

/-- The metatable of a type is found or made without a function. -/
theorem instanceMetatable (name : String) : Keeps (Adds P w₀) (ScriptM.instanceMetatable name) := by
  refine Keeps.get.bind fun w => ?_
  split
  · exact .pure _
  · exact (newMetatable name).discard.bind fun _ => (Keeps.check _).bind fun _ =>
      (pop 1).bind fun _ => .pure _

/-- A userdata is no function. -/
theorem pushUserdata (p : Payload) : Keeps (Adds P w₀) (ScriptM.pushUserdata p) :=
  idle fun _ => rfl

/-- A userdata is tagged without a function. -/
theorem pushTagged (p : Payload) (mt : TableId) : Keeps (Adds P w₀) (ScriptM.pushTagged p mt) :=
  (pushUserdata p).bind fun u => attach (.userdata u) (some mt)

/-- A math value is pushed without a function. -/
theorem pushBuiltin (v : Variant) : Keeps (Adds P w₀) (ScriptM.pushBuiltin v) :=
  (instanceMetatable _).bind fun mt => pushTagged (.variant v) mt

/-- The shared metatable of objects is found or made without a function. -/
theorem plainObjectMetatable : Keeps (Adds P w₀) ScriptM.plainObjectMetatable := by
  refine (instanceMetatable _).bind fun mt => Keeps.get.bind fun w => ?_
  dsimp only
  split
  · exact (setText _ _ _).bind fun _ => .pure mt
  · exact .pure mt

/-- An object is pushed without a function. -/
theorem pushObject (id : ObjectId) : Keeps (Adds P w₀) (ScriptM.pushObject id) := by
  refine context.bind fun c => (ask _ _ _).bind fun answer => (granted answer).bind fun cls =>
    (Keeps.reads _).bind fun r => Keeps.get.bind fun w => ?_
  split
  · exact pushTagged _ _
  · exact plainObjectMetatable.bind fun mt => pushTagged _ _

/-- An engine value is pushed without a function. -/
theorem pushVariant (v : Variant) : Keeps (Adds P w₀) (ScriptM.pushVariant v) := by
  unfold ScriptM.pushVariant
  split
  case h_7 => exact pushObject _
  case h_8 => exact pushBuiltin v
  all_goals exact push _

theorem pushNative (v : NativeValue) : Keeps (Adds P w₀) (ScriptM.pushNative v) := by
  cases v with
  | math v => exact pushBuiltin v
  | object id => exact pushObject id
  | variant v => exact pushVariant v
  | _ => exact push _

/-- A constant is pushed without a function. -/
theorem pushConstantAs (type : NativeType) (k : Constant) :
    Keeps (Adds P w₀) (ScriptM.pushConstantAs type k) := by
  have pushed : ∀ o, Keeps (Adds P w₀) (pushOutcome type k o) := by
    refine fun o => (granted o).bind fun v => ?_
    split
    · exact (pushNative _).bind fun _ => .pure 1
    · exact .throw _
  intro w adds
  rw [run_pushConstantAs]
  cases w.knownOutcome? k.ref with
  | some o => exact pushed o w adds
  | none =>
    cases w.state.context with
    | some c => exact pushed _ (w.withFetched c.host k) adds
    | none => exact adds

end Values

/-! ## Libraries -/

section Libraries

variable {r : Registry} {w₀ : World}

/-- One function is made, with these upvalues. -/
theorem installHandler (index : Int) (field name : String) (h : Handler) (upvalues : List Value)
    (bound : h.Bound r upvalues) :
    Keeps (Adds (Function.Bound r) w₀) (ScriptM.installHandler index field name h upvalues) :=
  (pushHandler name (Function.bound_handler bound)).bind fun _ => setField index field

/-- An integer is no function. -/
theorem installInteger (index : Int) (c : String × Int64) :
    Keeps (Adds (Function.Bound r) w₀) (ScriptM.installInteger index c) :=
  (push _).bind fun _ => setField index c.1

/-- The function that looks names up carries nothing. -/
theorem newLibrary (name metatable : String) :
    Keeps (Adds (Function.Bound r) w₀) (ScriptM.newLibrary name metatable) := by
  have global : Function.Bound r ⟨"builtin_global_index", .handler .builtinGlobalIndex, []⟩ :=
    Function.bound_handler (h := .builtinGlobalIndex) trivial
  refine (newMetatable metatable).discard.bind fun _ => Keeps.get.bind fun w => ?_
  have entered : ∀ _ : Unit, Keeps (Adds (Function.Bound r) w₀) _ := fun _ =>
    (push (.string metatable)).bind fun _ => (setField (-2) World.typeField).bind fun _ =>
      pushNewTable.discard.bind fun _ => pushNewTable.discard.bind fun _ =>
        (push (.string name)).bind fun _ => (setField (-2) World.typeField).bind fun _ =>
          (pushHandler "builtin_global_index" global).bind fun _ =>
            (setField (-2) "__index").bind fun _ => (setMetatable (-2)).bind fun _ =>
              (onState fun s => s.pushValue (-1)).bind fun _ => setGlobal name
  exact .ite ((pop 1).bind fun _ => (Keeps.throw _).bind entered) (entered ())

/-- To finish a library makes no function. -/
theorem finishLibrary (isObject : Bool) :
    Keeps (Adds (Function.Bound r) w₀) (ScriptM.finishLibrary isObject) := by
  refine (Keeps.check _).bind fun lib => (Keeps.check _).bind fun mt =>
    Keeps.optional (setText mt objectMark _) fun _ =>
      (setText mt "__metatable" _).bind fun _ => Keeps.get.bind fun w => ?_
  have locks : ∀ _ : Unit, Keeps (Adds (Function.Bound r) w₀) _ := fun _ =>
    (setReadonly mt true).bind fun _ => (setReadonly lib true).bind fun _ => pop 2
  dsimp only
  split
  next libMt _ =>
    exact (setText libMt "__metatable" _).bind fun _ => (setReadonly libMt true).bind locks
  next => exact locks ()

/-- The functions of a class carry its name, and `new` is bound to a class that has instances. -/
theorem openClass {k : Registry.Class} (mem : k ∈ r.classes) :
    Keeps (Adds (Function.Bound r) w₀) (ScriptM.openClass k) := by
  have finish : ∀ _ : Unit, Keeps (Adds (Function.Bound r) w₀) _ := fun _ =>
    (Keeps.forM k.constants fun c _ => installInteger (-2) c).bind fun _ => finishLibrary true
  refine (newLibrary k.name k.name).bind fun _ =>
    (installHandler (-3) "__namecall" "class_namecall" .classNamecall [] trivial).bind fun _ =>
      (installHandler (-3) "__tostring" "object_tostring" .objectText [] trivial).bind fun _ =>
        (installHandler (-3) "__eq" "object_eq" .objectEqual [] trivial).bind fun _ => ?_
  -- only a class that has instances gets a constructor that asks for one
  split
  next instantiable =>
    have bound : Handler.classCtor.Bound r [.string k.name] := ⟨k, mem, instantiable, rfl⟩
    exact (installHandler (-2) "new" "class_ctor" .classCtor [.string k.name] bound).bind finish
  next =>
    exact (installHandler (-2) "new" "class_no_ctor" .classNoCtor [.string k.name] trivial).bind
      finish

/-- The function of a static method carries its type and its name. -/
theorem pushLibraryEntry (c : Context) {b : Builtin} (mem : b ∈ r.builtins) (type key : String) :
    Keeps (Adds (Function.Bound r) w₀) (ScriptM.pushLibraryEntry c b type key) := by
  unfold ScriptM.pushLibraryEntry
  split
  · exact pushConstantAs .variant _
  · split
    · exact (push _).bind fun _ => .pure 1
    · split
      next m static =>
        have bound : Handler.builtinStaticCall.Bound r [.string b.name, .string m.name] :=
          ⟨b, mem, key, m, static, rfl⟩
        exact (pushHandler m.name (Function.bound_handler bound)).bind fun _ => .pure 1
      · exact .throw _

end Libraries

end Adds

/-! ## Opening and looking up -/

section Operations

variable {r : Registry} {w : World} {c : Context} (known : w.registry c.registry = r)
  (context : w.state.context = some c)
include known context

/-- The functions of all classes carry what the registry declares. -/
theorem adds_openClasses : Adds (Function.Bound r) w (openClasses w).2 := by
  unfold openClasses
  rw [run_bind, run_context, context]
  show Adds _ w ((do
    (w.registry c.registry).classes.forM openClass
    return (w.registry c.registry).classes.length : ScriptM Nat) w).2
  rw [known]
  -- a class whose library fails to open ends the loop, with the functions made so far
  exact (Keeps.forM r.classes fun k mem => Adds.openClass mem).bind (fun _ => .pure _) w (.refl w)

/-- A name that is looked up may make the function of a static method. -/
theorem adds_builtinGlobalIndex : Adds (Function.Bound r) w (builtinGlobalIndex w).2 := by
  rw [run_builtinGlobalIndex, context]
  cases w.state.checkText 2 with
  | error e => exact .refl w
  | ok key =>
    dsimp only
    cases w.libraryType 1 with
    | none => exact .refl w
    | some type =>
      dsimp only
      rw [known]
      cases listed : r.builtin? type with
      | none => exact .refl w
      | some b =>
        exact Adds.pushLibraryEntry c (List.mem_of_find?_eq_some listed) type key w (.refl w)

end Operations

end ScriptM

/-! ## Supplied functions -/

/-- The handlers that rely on what their function carries. -/
def Handler.relying : List Handler := [builtinStaticCall, classCtor]

/-- The other handlers are bound to anything. -/
theorem Handler.bound_of_relying {r : Registry} {h : Handler} {upvalues : List Value}
    (bound : h ∈ relying → h.Bound r upvalues) : h.Bound r upvalues := by
  cases h
  case builtinStaticCall | classCtor => exact bound (by decide)
  all_goals trivial

/-- `Supplied w₀ c h upvalues`: at some time after `w₀` and in the context `c`, the opening of the
classes or the look-up of a name in a library has made a function that runs the handler `h` and
carries these upvalues. -/
def Supplied (w₀ : World) (c : Context) (h : Handler) (upvalues : List Value) : Prop :=
  ∃ (u : World) (op : ScriptM Nat) (i : Nat) (g : Function),
    Proceeds w₀ u ∧ u.state.context = some c ∧
      op ∈ [ScriptM.openClasses, ScriptM.builtinGlobalIndex] ∧ u.functions.size ≤ i ∧
      (op u).2.functions[i]? = some g ∧ g.code = .handler h ∧ g.upvalues = upvalues

/-- What has been supplied is bound as the registry of its context says. -/
theorem Supplied.bound {w₀ : World} {c : Context} {h : Handler} {upvalues : List Value}
    {r : Registry} (supplied : Supplied w₀ c h upvalues)
    (registered : w₀.registries[c.registry]? = some r) : h.Bound r upvalues := by
  obtain ⟨u, op, i, g, later, context, supplier, new, made, code, rfl⟩ := supplied
  have known : u.registry c.registry = r := World.registry_eq (later.registry_known registered)
  have adds : ScriptM.Adds (Function.Bound r) u (op u).2 := by
    simp only [List.mem_cons, List.not_mem_nil, or_false] at supplier
    rcases supplier with rfl | rfl
    · exact ScriptM.adds_openClasses known context
    · exact ScriptM.adds_builtinGlobalIndex known context
  rcases adds i g made with before | bound
  -- there were not so many functions before
  · rw [Array.getElem?_eq_none new] at before
    cases before
  · exact bound h code

end ScriptBind
