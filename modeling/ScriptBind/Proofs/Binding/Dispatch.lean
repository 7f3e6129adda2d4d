import ScriptBind.Proofs.Binding.Handlers
import ScriptBind.Proofs.Binding.Marshalling

/-!
# What a call asks of a host

A method of a value, a static method, a constructor and a method of an object are resolved and
their arguments checked in different places of the code, with different offsets. `Operation` says for
all of them when a call is due to perform an operation of the host, and with which arguments; it
mentions no order in which things are looked up.

Main results:

* `collectArgs_eq_ok`, `checkArgs_eq_ok`, `fittingConstructor_eq_ok` — the arguments that are
  accepted, and the constructor that is chosen.
* `handler_dispatch` — a handler performs the operation that is due, once, and has no other dealings
  with the host.
-/

namespace ScriptBind

open Registry (Builtin Constructor Method)

namespace ScriptM

/-! ## Accepted arguments -/

/-- The values from an index on are the engine values `args` of the declared types. -/
def Checked (w : World) (c : Context) (first : Int) (types : List ArgType) (args : List Variant) :
    Prop :=
  args.length = types.length ∧
    ∀ (i : Nat) (type : ArgType) (v : Variant), types[i]? = some type → args[i]? = some v →
      (checkArg c (first + i) type w).1 = .ok v

/-- A list of values is checked one by one, from left to right. -/
theorem checked_cons {w : World} {c : Context} {first : Int} {type : ArgType}
    {types : List ArgType} {v : Variant} {args : List Variant} :
    Checked w c first (type :: types) (v :: args) ↔
      (checkArg c first type w).1 = .ok v ∧ Checked w c (first + 1) types args := by
  constructor
  · rintro ⟨length, each⟩
    refine ⟨?_, Nat.succ.inj length, fun i t x ht hx => ?_⟩
    · have head := each 0 type v rfl rfl
      rwa [Int.natCast_zero, Int.add_zero] at head
    · have tail := each (i + 1) t x ht hx
      rwa [Int.natCast_succ, Int.add_comm (i : Int) 1, ← Int.add_assoc] at tail
  · rintro ⟨head, length, each⟩
    refine ⟨congrArg Nat.succ length, fun i t x ht hx => ?_⟩
    cases i with
    | zero =>
      cases ht
      cases hx
      rwa [Int.natCast_zero, Int.add_zero]
    | succ i =>
      rw [Int.natCast_succ, Int.add_comm (i : Int) 1, ← Int.add_assoc]
      exact each i t x ht hx

/-- A later operation sees what an inquiry saw. -/
theorem Inquires.run_bind {α β : Type} {a : ScriptM α} (ha : Inquires a) (f : α → ScriptM β)
    (w : World) :
    ∃ qs : List (Nat × Request), (∀ q ∈ qs, q.2.isClassName) ∧
      (a >>= f) w =
        match (a w).1 with
        | .ok x => f x (w.asking qs)
        | .error e => (.error e, w.asking qs) := by
  obtain ⟨qs, classes, run⟩ := ha w
  have ran := run []
  rw [World.asking_nil, List.nil_append] at ran
  refine ⟨qs, classes, ?_⟩
  rw [ScriptM.run_bind, ran]
  cases (a w).1 <;> rfl

/-- What was asked before does not matter. -/
theorem Inquires.answer_asking {α : Type} {a : ScriptM α} (ha : Inquires a) (w : World)
    (rs : List (Nat × Request)) : (a (w.asking rs)).1 = (a w).1 := by
  obtain ⟨qs, -, run⟩ := ha w
  rw [run]

/-- What an inquiry answers does not depend on what has been asked before. -/
theorem Inquires.answer_bind {α β : Type} {a : ScriptM α} (ha : Inquires a) {f : α → ScriptM β}
    (hf : ∀ x, Inquires (f x)) (w : World) :
    ((a >>= f) w).1 =
      match (a w).1 with
      | .ok x => (f x w).1
      | .error e => .error e := by
  obtain ⟨qs, -, ran⟩ := ha.run_bind f w
  rw [ran]
  cases (a w).1 with
  | ok x => exact (hf x).answer_asking w qs
  | error e => rfl

/-- The first argument is checked, and then the others in the same world. -/
theorem answer_checkArgs_cons (w : World) (c : Context) (first : Int) (type : ArgType)
    (rest : List ArgType) :
    (checkArgs c first (type :: rest) w).1 =
      match (checkArg c first type w).1 with
      | .ok v =>
        match (checkArgs c (first + 1) rest w).1 with
        | .ok vs => .ok (v :: vs)
        | .error e => .error e
      | .error e => .error e := by
  rw [checkArgs, Inquires.answer_bind (.checkArg c first type) fun v =>
    (Inquires.checkArgs c rest (first + 1)).bind fun vs => .pure (v :: vs)]
  cases (checkArg c first type w).1 with
  | error e => rfl
  | ok v =>
    dsimp only
    rw [Inquires.answer_bind (.checkArgs c rest (first + 1)) fun vs => .pure (v :: vs)]
    cases (checkArgs c (first + 1) rest w).1 <;> rfl

/-- Arguments are converted exactly if each of them can be. -/
theorem checkArgs_eq_ok {w : World} {c : Context} {first : Int} {types : List ArgType}
    {args : List Variant} :
    (checkArgs c first types w).1 = .ok args ↔ Checked w c first types args := by
  -- on the types, at whatever index they start
  induction types generalizing first args with
  | nil =>
    constructor
    · intro h
      cases h
      exact ⟨rfl, fun i t v ht => (by cases ht)⟩
    · rintro ⟨length, -⟩
      rw [List.length_eq_zero_iff.mp length]
      rfl
  | cons type rest ih =>
    rw [answer_checkArgs_cons]
    cases args with
    | nil =>
      constructor
      · intro h
        split at h
        · split at h <;> cases h
        · cases h
      · rintro ⟨length, -⟩
        cases length
    | cons v vs =>
      rw [checked_cons, ← ih]
      cases (checkArg c first type w).1 with
      | error e => exact ⟨fun h => (by cases h), fun h => (by cases h.1)⟩
      | ok x =>
        cases (checkArgs c (first + 1) rest w).1 with
        | error e => exact ⟨fun h => (by cases h), fun h => (by cases h.2)⟩
        | ok xs =>
          constructor
          · intro h
            cases h
            exact ⟨rfl, rfl⟩
          · rintro ⟨h, h'⟩
            cases h
            cases h'
            rfl

/-- A method accepts the values from an index on: their number, and each as an engine value of its
declared type. What comes after the declared ones may be anything. -/
structure Accepts (w : World) (c : Context) (first : Nat) (m : Method) (args : List Variant) :
    Prop where
  length : args.length = w.state.top + 1 - first
  count : m.acceptsCount args.length
  each : ∀ (i : Nat) (v : Variant), args[i]? = some v →
    (checkArg c (first + i : Nat) (m.argumentType i) w).1 = .ok v

/-- The arguments of a call are collected exactly if the method accepts them. -/
theorem collectArgs_eq_ok {w : World} {c : Context} {first : Nat} {m : Method}
    {args : List Variant} :
    (collectArgs c first m w).1 = .ok args ↔ Accepts w c first m args := by
  have count : ((w.state.top : Int) - first + 1).toNat = w.state.top + 1 - first := by omega
  let types := (List.range (w.state.top + 1 - first)).map m.argumentType
  have collected : (collectArgs c first m w).1 =
      if m.acceptsCount (w.state.top + 1 - first) then (checkArgs c first types w).1
      else .error (.argumentCount
        (if w.state.top + 1 - first < m.required then m.required else m.arguments.length)
        (w.state.top + 1 - first)) := by
    unfold collectArgs
    rw [run_bind, run_state]
    dsimp only
    rw [count]
    cases m.acceptsCount (w.state.top + 1 - first) <;> rfl
  have lengths : types.length = w.state.top + 1 - first := by
    rw [List.length_map, List.length_range]
  -- the declared types are those of the positions
  have typed : ∀ i, i < types.length → types[i]? = some (m.argumentType i) := by
    intro i hi
    rw [lengths] at hi
    rw [List.getElem?_map, List.getElem?_range hi]
    rfl
  rw [collected]
  constructor
  · intro h
    split at h
    next accepted =>
      obtain ⟨length, each⟩ := checkArgs_eq_ok.mp h
      refine ⟨length.trans lengths, by rwa [length, lengths], fun i v hv => ?_⟩
      have hi : i < types.length := length ▸ (List.getElem?_eq_some_iff.mp hv).1
      have checked := each i _ v (typed i hi) hv
      rwa [← Int.natCast_add] at checked
    next => cases h
  · rintro ⟨length, accepted, each⟩
    rw [length] at accepted
    rw [if_pos accepted]
    refine checkArgs_eq_ok.mpr ⟨length.trans lengths.symm, fun i type v ht hv => ?_⟩
    have hi : i < types.length := (List.getElem?_eq_some_iff.mp ht).1
    rw [typed i hi] at ht
    cases ht
    rw [← Int.natCast_add]
    exact each i v hv

/-! ## The chosen constructor -/

/-- A constructor takes the arguments of the running frame. -/
def Fits (w : World) (c : Context) (k : Constructor) (args : List Variant) : Prop :=
  args.length = w.state.top ∧ Checked w c 1 k.arguments args

/-- A constructor is the first that takes the arguments of the running frame. -/
def FirstFit (w : World) (c : Context) (ks : List Constructor) (k : Constructor) : Prop :=
  ∃ before after, ks = before ++ k :: after ∧ (∀ j ∈ before, ∀ args, ¬ Fits w c j args) ∧
    ∃ args, Fits w c k args

/-- The constructor that is chosen takes the arguments. -/
theorem FirstFit.fits {w : World} {c : Context} {ks : List Constructor} {k : Constructor}
    (h : FirstFit w c ks k) : ∃ args, Fits w c k args := by
  obtain ⟨_, _, _, _, fits⟩ := h
  exact fits

/-- The first constructor that fits is at the head, or the head does not fit. -/
theorem firstFit_cons {w : World} {c : Context} {k x : Constructor} {ks : List Constructor} :
    FirstFit w c (k :: ks) x ↔
      (k = x ∧ ∃ args, Fits w c k args) ∨ (∀ args, ¬ Fits w c k args) ∧ FirstFit w c ks x := by
  constructor
  · rintro ⟨before, after, split, earlier, fits⟩
    cases before with
    | nil =>
      cases split
      exact .inl ⟨rfl, fits⟩
    | cons j before =>
      cases split
      obtain ⟨unfit, earlier⟩ := List.forall_mem_cons.mp earlier
      exact .inr ⟨unfit, before, after, rfl, earlier, fits⟩
  · rintro (⟨rfl, fits⟩ | ⟨unfit, before, after, rfl, earlier, fits⟩)
    · exact ⟨[], ks, rfl, fun j hj => absurd hj List.not_mem_nil, fits⟩
    · exact ⟨k :: before, after, rfl, List.forall_mem_cons.mpr ⟨unfit, earlier⟩, fits⟩

/-- The first argument is tried, and then the others in the same world. -/
theorem answer_matchArgs_cons (w : World) (c : Context) (first : Int) (type : ArgType)
    (rest : List ArgType) :
    (matchArgs c first (type :: rest) w).1 =
      match (checkArg c first type w).1 with
      | .ok _ => (matchArgs c (first + 1) rest w).1
      | .error _ => .ok false := by
  have matched : (matchesArg c first type w).1 = .ok (checkArg c first type w).1.isOk := by
    unfold matchesArg
    rw [run_bind, run_outcome]
    dsimp only
    cases (checkArg c first type w).1 <;> rfl
  rw [matchArgs, Inquires.answer_bind (.matchesArg c first type) fun _ =>
    Inquires.ite (.matchArgs c rest (first + 1)) (.pure false), matched]
  cases (checkArg c first type w).1 <;> rfl

/-- To try arguments never fails, and tells whether all of them can be converted. -/
theorem matchArgs_answer {w : World} {c : Context} {first : Int} {types : List ArgType} :
    ∃ b : Bool, (matchArgs c first types w).1 = .ok b ∧
      (b = true ↔ ∃ args, Checked w c first types args) := by
  -- on the types: the arguments that the rest would take are put behind the value of the first
  induction types generalizing first with
  | nil => exact ⟨true, rfl, fun _ => ⟨[], rfl, fun i t v ht => (by cases ht)⟩, fun _ => rfl⟩
  | cons type rest ih =>
    obtain ⟨b, hb, matches_rest⟩ := @ih (first + 1)
    rw [answer_matchArgs_cons, hb]
    cases hv : (checkArg c first type w).1 with
    | error e =>
      refine ⟨false, rfl, fun h => (by cases h), ?_⟩
      rintro ⟨args, checked⟩
      cases args with
      | nil => cases checked.1
      | cons v vs =>
        rw [checked_cons, hv] at checked
        cases checked.1
    | ok v =>
      refine ⟨b, rfl, matches_rest.trans ⟨?_, ?_⟩⟩
      · rintro ⟨vs, checked⟩
        exact ⟨v :: vs, checked_cons.mpr ⟨hv, checked⟩⟩
      · rintro ⟨args, checked⟩
        cases args with
        | nil => cases checked.1
        | cons x vs => exact ⟨vs, (checked_cons.mp checked).2⟩

/-- To choose a constructor, at most the classes of objects are asked for. -/
theorem inquires_fittingConstructor (c : Context) (count : Nat) (ks : List Constructor) :
    Inquires (fittingConstructor c count ks) := by
  induction ks with
  | nil => exact .pure none
  | cons k rest ih =>
    exact .ite ((Inquires.matchArgs c _ 1).bind fun _ => .ite (.pure _) ih) ih

/-- The first constructor that takes the arguments is chosen, if one does. -/
theorem fittingConstructor_answer {w : World} {c : Context} (ks : List Constructor) :
    ∃ found, (fittingConstructor c w.state.top ks w).1 = .ok found ∧
      ∀ k, found = some k ↔ FirstFit w c ks k := by
  -- on the constructors: the first one is chosen if it takes the arguments, and is passed over for
  -- their number or their types if it does not
  induction ks with
  | nil =>
    refine ⟨none, rfl, fun k => ⟨fun h => (by cases h), ?_⟩⟩
    rintro ⟨before, after, split, -⟩
    cases before <;> cases split
  | cons k rest ih =>
    obtain ⟨found, answer, chosen⟩ := ih
    obtain ⟨b, matching, matched⟩ := @matchArgs_answer w c 1 k.arguments
    by_cases fits : ∃ args, Fits w c k args
    · refine ⟨some k, ?_, fun x => ?_⟩
      · obtain ⟨args, top, checked⟩ := fits
        have hb : b = true := matched.mpr ⟨args, checked⟩
        rw [fittingConstructor, if_pos (checked.1.symm.trans top),
          Inquires.answer_bind (.matchArgs c k.arguments 1) fun _ =>
            Inquires.ite (.pure _) (inquires_fittingConstructor c _ rest), matching, hb]
        rfl
      · rw [firstFit_cons, Option.some.injEq]
        exact ⟨fun h => .inl ⟨h, fits⟩, fun h => h.elim (fun h => h.1) fun h =>
          absurd fits (not_exists.mpr h.1)⟩
    · refine ⟨found, ?_, fun x => ?_⟩
      · rw [fittingConstructor]
        split
        next arity =>
          have hb : b = false := by
            cases b with
            | false => rfl
            | true =>
              obtain ⟨args, checked⟩ := matched.mp rfl
              exact absurd ⟨args, checked.1.trans arity, checked⟩ fits
          rw [Inquires.answer_bind (.matchArgs c k.arguments 1) fun _ =>
            Inquires.ite (.pure _) (inquires_fittingConstructor c _ rest), matching, hb]
          exact answer
        next => exact answer
      · rw [chosen, firstFit_cons]
        exact ⟨fun h => .inr ⟨not_exists.mp fits, h⟩, fun h => h.elim (fun h => absurd h.2 fits)
          fun h => h.2⟩

/-! ## Operations that are due -/

/-- How many results a method has. -/
def resultCount (m : Method) : Nat := if m.result.isNone then 0 else 1

/-- The nearest class of a chain that declares a method, with that method. -/
def Nearest (chain : List Registry.Class) (name : String) (owner : Registry.Class) (m : Method) : Prop :=
  ∃ before after, chain = before ++ owner :: after ∧ (∀ k ∈ before, k.method? name = none) ∧
    owner.method? name = some m

/-- The method that is found is that of the nearest class. -/
theorem findMethod?_eq_some {r : Registry} {cls name : String} {owner : Registry.Class} {m : Method} :
    r.findMethod? cls name = some (owner, m) ↔ Nearest (r.ancestors cls) name owner m := by
  unfold Registry.findMethod? Nearest
  rw [List.findSome?_eq_some_iff]
  constructor
  · rintro ⟨before, k, after, split, found, nearer⟩
    obtain ⟨m', declared, same⟩ := Option.map_eq_some_iff.mp found
    cases same
    exact ⟨before, after, split, fun j hj => Option.map_eq_none_iff.mp (nearer j hj), declared⟩
  · rintro ⟨before, after, split, nearer, declared⟩
    refine ⟨before, owner, after, split, ?_, fun j hj => ?_⟩
    · rw [declared]
      rfl
    · rw [nearer j hj]
      rfl

/-- `Operation w c h r args k`: a handler that starts in the frame of `w` is due to ask the host for
`r`, with the arguments `args`, and then to answer with `k` results. -/
inductive Operation (w : World) (c : Context) :
    Handler → Request → List Variant → Nat → Prop
  /-- A method of the receiver's type that is not static. -/
  | method {name : String} {receiver : Variant} {b : Builtin} {m : Method} {args : List Variant}
      (called : w.state.namecall = some name) (valid : w.anyBuiltinAt? 1 = some receiver)
      (type : (w.registry c.registry).builtin? receiver.tag.name = some b)
      (declared : b.method? name = some m) (nonstatic : m.flags.isStatic = false)
      (accepts : Accepts w c 2 m args) :
      Operation w c .builtinNamecall (.call receiver m.name args) args (resultCount m)
  /-- A method of the type that the function carries. -/
  | static {owner name : String} {b : Builtin} {m : Method} {args : List Variant}
      (carries : upvalueText? w.state 1 = some owner ∧ upvalueText? w.state 2 = some name)
      (type : (w.registry c.registry).builtin? owner = some b)
      (declared : b.method? name = some m) (accepts : Accepts w c 1 m args) :
      Operation w c .builtinStaticCall (.callStatic b.tag m.name args) args (resultCount m)
  /-- The first declared constructor that takes the arguments. -/
  | construct {owner : String} {b : Builtin} {k : Constructor} {args : List Variant}
      (carries : upvalueText? w.state 1 = some owner)
      (type : (w.registry c.registry).builtin? owner = some b)
      (chosen : FirstFit w c b.constructors k) (fits : Fits w c k args) :
      Operation w c .builtinCtor (.construct b.tag k.index args) args 1
  /-- A method of the nearest class that declares it, from the object's class upwards. -/
  | object {name cls : String} {id : ObjectId} {owner : Registry.Class} {m : Method} {args : List Variant}
      (called : w.state.namecall = some name) (valid : w.objectAt? 1 = some id)
      (known : (w.host c.host).classes.classOf id = .ok cls)
      (nearest : Nearest ((w.registry c.registry).ancestors cls) name owner m)
      (accepts : Accepts w c 2 m args) :
      Operation w c .classNamecall (.callObject id owner.name m.name args) args (resultCount m)

/-! ## What is performed -/

section Performs

variable {α β : Type}

/-- The one dealing of the operation is a request. -/
def Performs (act : ScriptM α) (r : Nat × Request) : Prop :=
  ∀ w, (act w).2.dealings = w.dealings ++ [r]

/-- The operation answers with one number of results, if it succeeds. -/
def Yields (act : ScriptM Nat) (k : Nat) : Prop := ∀ w n, (act w).1 = .ok n → n = k

/-- A request may be followed by what deals with no host. -/
theorem Performs.bind {a : ScriptM α} {f : α → ScriptM β} {r : Nat × Request} (ha : Performs a r)
    (hf : ∀ x, Discreet (f x)) : Performs (a >>= f) r := by
  intro w
  have before := ha w
  rw [run_bind]
  split
  next x v h =>
    rw [h] at before
    rw [(hf x v).dealings]
    exact before
  next e v h =>
    rw [h] at before
    exact before

/-- A number of results that is returned is answered. -/
theorem Yields.pure (k : Nat) : Yields (Pure.pure k) k := by
  intro w n h
  cases h
  rfl

/-- Only the last operation counts results. -/
theorem Yields.bind {a : ScriptM α} {f : α → ScriptM Nat} {k : Nat} (hf : ∀ x, Yields (f x) k) :
    Yields (a >>= f) k := by
  intro w n h
  rw [run_bind] at h
  split at h
  next x v _ => exact hf x v n h
  next => cases h

/-- What is left out on a condition does not count results. -/
theorem Yields.optional {p : Prop} [Decidable p] {a : ScriptM Unit} {rest : Unit → ScriptM Nat}
    {k : Nat} (h : ∀ u, Yields (rest u) k) : Yields (if p then a >>= rest else rest ()) k := by
  split
  · exact .bind h
  · exact h ()

/-- A request is dealt with, unless it is for a class. -/
theorem dealings_push {w : World} {r : Nat × Request} (h : r.2.isClassName = false) :
    { w with requests := w.requests.push r }.dealings = w.dealings ++ [r] := by
  have dealt := w.dealings_asking [r]
  rw [World.asking_one] at dealt
  rw [dealt, List.filter_cons_of_pos (by rw [h]; rfl), List.filter_nil]

/-- To ask a host is to deal with it. -/
theorem performs_ask (host : Nat) {r : Request} (h : r.isClassName = false) (answer : Host → α) :
    Performs (ask host r answer) (host, r) :=
  fun w => dealings_push (w := w) (r := (host, r)) h

/-- To ask the classes of a host is to deal with it. -/
theorem performs_askClasses (host : Nat) {r : Request} (h : r.isClassName = false)
    (answer : ClassDb → α × ClassDb) : Performs (askClasses host r answer) (host, r) :=
  fun w => dealings_push (w := w) (r := (host, r)) h

end Performs

/-- A method answers with one result if it declares one, and else with none. -/
theorem yields_pushResult (m : Method) (v : Variant) : Yields (pushResult m v) (resultCount m) := by
  unfold pushResult resultCount
  cases m.result.isNone with
  | true => exact .pure 0
  | false => exact .bind fun _ => .pure 1

/-- The receiver is written back without a host. -/
theorem discreet_writeReceiver (v : Variant) : Discreet (writeReceiver v) := by
  refine (Inquires.state (f := fun s => pure s) fun s => .pure s).discreet.bind fun s => ?_
  split
  · exact .change fun _ => ⟨rfl, rfl⟩
  · exact .pure ()

variable {c : Context}

/-- A method of a value is asked for once. -/
theorem performs_callResolved (target : Variant) (m : Method) (args : List Variant) :
    Performs (callResolved c target m args) (c.host, .call target m.name args) :=
  (performs_ask c.host rfl _).bind fun r => (Inquires.granted r.1).discreet.bind fun result =>
    .optional (discreet_writeReceiver r.2) fun _ => .pushResult m result

/-- A method of a value answers with its declared number of results. -/
theorem yields_callResolved (target : Variant) (m : Method) (args : List Variant) :
    Yields (callResolved c target m args) (resultCount m) :=
  .bind fun _ => .bind fun result => .optional fun _ => yields_pushResult m result

/-- A static method is asked for once. -/
theorem performs_callStaticResolved (b : Builtin) (m : Method) (args : List Variant) :
    Performs (callStaticResolved c b m args) (c.host, .callStatic b.tag m.name args) :=
  (performs_ask c.host rfl _).bind fun answer =>
    (Inquires.granted answer).discreet.bind fun result => .pushResult m result

/-- A static method answers with its declared number of results. -/
theorem yields_callStaticResolved (b : Builtin) (m : Method) (args : List Variant) :
    Yields (callStaticResolved c b m args) (resultCount m) :=
  .bind fun _ => .bind fun result => yields_pushResult m result

/-- A constructor is asked for once. -/
theorem performs_constructResolved (b : Builtin) (k : Constructor) (args : List Variant) :
    Performs (constructResolved c b k args) (c.host, .construct b.tag k.index args) :=
  (performs_ask c.host rfl _).bind fun answer =>
    (Inquires.granted answer).discreet.bind fun v => (Discreet.pushVariant v).bind fun _ => .pure 1

/-- A constructor answers with one value. -/
theorem yields_constructResolved (b : Builtin) (k : Constructor) (args : List Variant) :
    Yields (constructResolved c b k args) 1 :=
  .bind fun _ => .bind fun _ => .bind fun _ => .pure 1

/-- A method of an object is asked for once, under the class that declares it. -/
theorem performs_callObjectResolved (id : ObjectId) (owner : Registry.Class) (m : Method)
    (args : List Variant) :
    Performs (callObjectResolved c id owner m args)
      (c.host, .callObject id owner.name m.name args) :=
  (performs_askClasses c.host rfl _).bind fun answer =>
    (Inquires.granted answer).discreet.bind fun result => .pushResult m result

/-- A method of an object answers with its declared number of results. -/
theorem yields_callObjectResolved (id : ObjectId) (owner : Registry.Class) (m : Method)
    (args : List Variant) : Yields (callObjectResolved c id owner m args) (resultCount m) :=
  .bind fun _ => .bind fun result => yields_pushResult m result

/-! ## Handlers -/

/-- What an operation ends in shows that it has performed the one request that is due, and answers
with as many results as that has; or that none was due, and it failed without dealings. -/
def Dispatches (due : Request → List Variant → Nat → Prop) (host : Nat) (w : World)
    (ended : Except ScriptError Nat × World) : Prop :=
  (∃ r args k, due r args k ∧ ended.2.dealings = w.dealings ++ [(host, r)] ∧
      ∀ n, ended.1 = .ok n → n = k) ∨
    (∀ r args k, ¬ due r args k) ∧ ended.2.dealings = w.dealings ∧ ∃ e, ended.1 = .error e

section Dispatches

variable {due : Request → List Variant → Nat → Prop} {host : Nat} {w : World}

/-- Where nothing is due, a call that fails at once is right. -/
theorem dispatches_refused {e : ScriptError} (h : ∀ r args k, ¬ due r args k) :
    Dispatches due host w (.error e, w) :=
  .inr ⟨h, rfl, e, rfl⟩

/-- Arguments are looked at first; accepted ones go into the request that is due. -/
theorem dispatches_bind {inquiry : ScriptM (List Variant)} {tail : List Variant → ScriptM Nat}
    {request : List Variant → Request} {k : Nat} (inquires : Inquires inquiry)
    (performs : ∀ args, Performs (tail args) (host, request args))
    (yields : ∀ args, Yields (tail args) k)
    (accepted : ∀ args, (inquiry w).1 = .ok args → due (request args) args k)
    (only : ∀ r args k, due r args k → (inquiry w).1 = .ok args) :
    Dispatches due host w ((inquiry >>= tail) w) := by
  obtain ⟨qs, classes, run⟩ := inquires.run_bind tail w
  rw [run]
  cases answer : (inquiry w).1 with
  | ok args =>
    refine .inl ⟨request args, args, k, accepted args answer, ?_, yields args _⟩
    rw [performs args, World.dealings_asking_classes classes]
  | error e =>
    refine .inr ⟨fun r args k h => ?_, World.dealings_asking_classes classes, e, rfl⟩
    cases answer.symm.trans (only r args k h)

/-- It matters only which operations are due. -/
theorem Dispatches.congr {other : Request → List Variant → Nat → Prop}
    {ended : Except ScriptError Nat × World} (h : Dispatches due host w ended)
    (same : ∀ r args k, due r args k ↔ other r args k) : Dispatches other host w ended := by
  rcases h with ⟨r, args, k, is_due, dealt, results⟩ | ⟨none_due, dealt, failed⟩
  · exact .inl ⟨r, args, k, (same r args k).mp is_due, dealt, results⟩
  · exact .inr ⟨fun r args k h => none_due r args k ((same r args k).mpr h), dealt, failed⟩

/-- Questions for classes may come before. -/
theorem dispatches_of_asking {qs : List (Nat × Request)} {ended : Except ScriptError Nat × World}
    (classes : ∀ q ∈ qs, q.2.isClassName) (h : Dispatches due host (w.asking qs) ended) :
    Dispatches due host w ended := by
  unfold Dispatches at h
  rwa [World.dealings_asking_classes classes] at h

end Dispatches

/-- An instance method is one that is not static. -/
theorem instanceMethod?_eq_some {b : Builtin} {name : String} {m : Method} :
    instanceMethod? b name = some m ↔ b.method? name = some m ∧ m.flags.isStatic = false := by
  rw [instanceMethod?, Option.filter_eq_some_iff]
  cases m.flags.isStatic <;> simp

variable {w : World}

/-- What a call of a method of a value is due to ask, whichever way the name came about. -/
inductive Called (w : World) (c : Context) (name : String) : Request → List Variant → Nat → Prop
  | intro {receiver : Variant} {b : Builtin} {m : Method} {args : List Variant}
      (valid : w.anyBuiltinAt? 1 = some receiver)
      (type : (w.registry c.registry).builtin? receiver.tag.name = some b)
      (declared : b.method? name = some m) (nonstatic : m.flags.isStatic = false)
      (accepts : Accepts w c 2 m args) :
      Called w c name (.call receiver m.name args) args (resultCount m)

/-- A method of a value is asked for exactly if it is declared and its arguments are accepted. -/
theorem callBuiltinMethod_dispatch (context : w.state.context = some c) (name : String) :
    Dispatches (Called w c name) c.host w (callBuiltinMethod name w) := by
  rw [run_callBuiltinMethod, context]
  -- what a call needs is read one after the other, and where something is missing nothing is due
  cases valid : w.anyBuiltinAt? 1 with
  | none =>
    refine dispatches_refused fun r args k due => ?_
    cases due with
    | intro valid' => cases valid.symm.trans valid'
  | some receiver =>
    dsimp only
    cases type : (w.registry c.registry).builtin? receiver.tag.name with
    | none =>
      refine dispatches_refused fun r args k due => ?_
      cases due with
      | intro valid' type' =>
        cases valid.symm.trans valid'
        cases type.symm.trans type'
    | some b =>
      dsimp only
      cases method : instanceMethod? b name with
      | none =>
        refine dispatches_refused fun r args k due => ?_
        cases due with
        | intro valid' type' declared nonstatic =>
          cases valid.symm.trans valid'
          cases type.symm.trans type'
          cases method.symm.trans (instanceMethod?_eq_some.mpr ⟨declared, nonstatic⟩)
      | some m =>
        obtain ⟨declared, nonstatic⟩ := instanceMethod?_eq_some.mp method
        refine dispatches_bind (.collectArgs c 2 m) (performs_callResolved receiver m)
          (yields_callResolved receiver m) (fun args ok => ?_) fun r args k due => ?_
        · exact .intro valid type declared nonstatic (collectArgs_eq_ok.mp ok)
        · cases due with
          | intro valid' type' declared' _ accepts =>
            cases valid.symm.trans valid'
            cases type.symm.trans type'
            cases declared.symm.trans declared'
            exact collectArgs_eq_ok.mpr accepts

/-- The name comes from the state. -/
theorem builtinNamecall_dispatch (context : w.state.context = some c) :
    Dispatches (Operation w c .builtinNamecall) c.host w (builtinNamecall w) := by
  rw [run_builtinNamecall]
  cases called : w.state.namecall with
  | none =>
    refine dispatches_refused fun r args k due => ?_
    cases due with
    | method called' => cases called.symm.trans called'
  | some name =>
    -- the operation is a call of the method that the slot names
    refine (callBuiltinMethod_dispatch context name).congr fun r args k => ?_
    constructor
    · rintro ⟨valid, type, declared, nonstatic, accepts⟩
      exact .method called valid type declared nonstatic accepts
    · intro due
      cases due with
      | method called' valid type declared nonstatic accepts =>
        cases called.symm.trans called'
        exact .intro valid type declared nonstatic accepts

/-- The type and the name come from the function. -/
theorem builtinStaticCall_dispatch (context : w.state.context = some c) :
    Dispatches (Operation w c .builtinStaticCall) c.host w (builtinStaticCall w) := by
  rw [run_builtinStaticCall, context]
  -- the type and the method are named by the function itself, the rest is read as for a method
  cases first : upvalueText? w.state 1 with
  | none =>
    refine dispatches_refused fun r args k due => ?_
    cases due with
    | static carries => cases first.symm.trans carries.1
  | some owner =>
    cases second : upvalueText? w.state 2 with
    | none =>
      refine dispatches_refused fun r args k due => ?_
      cases due with
      | static carries => cases second.symm.trans carries.2
    | some name =>
      dsimp only
      cases type : (w.registry c.registry).builtin? owner with
      | none =>
        refine dispatches_refused fun r args k due => ?_
        cases due with
        | static carries type' =>
          cases first.symm.trans carries.1
          cases type.symm.trans type'
      | some b =>
        dsimp only
        cases declared : b.method? name with
        | none =>
          refine dispatches_refused fun r args k due => ?_
          cases due with
          | static carries type' declared' =>
            cases first.symm.trans carries.1
            cases second.symm.trans carries.2
            cases type.symm.trans type'
            cases declared.symm.trans declared'
        | some m =>
          refine dispatches_bind (.collectArgs c 1 m) (performs_callStaticResolved b m)
            (yields_callStaticResolved b m) (fun args ok => ?_) fun r args k due => ?_
          · exact .static ⟨first, second⟩ type declared (collectArgs_eq_ok.mp ok)
          · cases due with
            | static carries type' declared' accepts =>
              cases first.symm.trans carries.1
              cases second.symm.trans carries.2
              cases type.symm.trans type'
              cases declared.symm.trans declared'
              exact collectArgs_eq_ok.mpr accepts

/-- The type comes from the function, and the constructor from the arguments. -/
theorem builtinConstructor_dispatch (context : w.state.context = some c) :
    Dispatches (Operation w c .builtinCtor) c.host w (builtinConstructor w) := by
  rw [run_builtinConstructor, context]
  cases carries : upvalueText? w.state 1 with
  | none =>
    refine dispatches_refused fun r args k due => ?_
    cases due with
    | construct carries' => cases carries.symm.trans carries'
  | some owner =>
    dsimp only
    cases type : (w.registry c.registry).builtin? owner with
    | none =>
      refine dispatches_refused fun r args k due => ?_
      cases due with
      | construct carries' type' =>
        cases carries.symm.trans carries'
        cases type.symm.trans type'
    | some b =>
      dsimp only
      obtain ⟨qs, classes, run⟩ :=
        -- the choice asks for nothing but classes of objects, so it can be answered beforehand
        (inquires_fittingConstructor c w.state.top b.constructors).run_bind _ w
      obtain ⟨found, answer, chosen⟩ := @fittingConstructor_answer w c b.constructors
      rw [run, answer]
      refine dispatches_of_asking classes ?_
      cases found with
      | none =>
        refine dispatches_refused fun r args k due => ?_
        cases due with
        | construct carries' type' chosen' =>
          cases carries.symm.trans carries'
          cases type.symm.trans type'
          cases (chosen _).mpr chosen'
      | some k =>
        have first := (chosen k).mp rfl
        refine dispatches_bind (.checkArgs c k.arguments 1) (performs_constructResolved b k)
          (yields_constructResolved b k) (fun args ok => ?_) fun r args n due => ?_
        · rw [(Inquires.checkArgs c k.arguments 1).answer_asking, checkArgs_eq_ok] at ok
          -- the constructor was chosen because it takes as many arguments as there are
          obtain ⟨args', top, checked⟩ := first.fits
          exact .construct carries type first ⟨ok.1.trans (checked.1.symm.trans top), ok⟩
        · cases due with
          | construct carries' type' chosen' fits =>
            cases carries.symm.trans carries'
            cases type.symm.trans type'
            cases (chosen _).mpr chosen'
            rw [(Inquires.checkArgs c k.arguments 1).answer_asking, checkArgs_eq_ok]
            exact fits.2

/-- Requests that have been made do not decide which arguments are accepted. -/
theorem accepts_asking {qs : List (Nat × Request)} {first : Nat} {m : Method}
    {args : List Variant} : Accepts (w.asking qs) c first m args ↔ Accepts w c first m args := by
  rw [← collectArgs_eq_ok, ← collectArgs_eq_ok, (Inquires.collectArgs c first m).answer_asking]

/-- The object is the first argument, and its class is asked for before the method is looked up. -/
theorem classNamecall_dispatch (context : w.state.context = some c) :
    Dispatches (Operation w c .classNamecall) c.host w (classNamecall w) := by
  rw [run_classNamecall, context]
  cases called : w.state.namecall with
  | none =>
    refine dispatches_refused fun r args k due => ?_
    cases due with
    | object called' => cases called.symm.trans called'
  | some name =>
    dsimp only
    cases valid : w.objectAt? 1 with
    | none =>
      refine dispatches_refused fun r args k due => ?_
      cases due with
      | object _ valid' => cases valid.symm.trans valid'
    | some id =>
      -- the class of the object is asked for first
      have classes : ∀ q ∈ [(c.host, Request.className id)], q.2.isClassName := by
        intro q hq
        rw [List.mem_singleton.mp hq]
        rfl
      dsimp only
      rw [← World.asking_one]
      refine dispatches_of_asking classes ?_
      cases known : (w.host c.host).classes.classOf id with
      | error e =>
        refine dispatches_refused fun r args k due => ?_
        cases due with
        | object _ valid' known' =>
          cases valid.symm.trans valid'
          cases known.symm.trans known'
      | ok cls =>
        dsimp only
        cases found : (w.registry c.registry).findMethod? cls name with
        | none =>
          refine dispatches_refused fun r args k due => ?_
          cases due with
          | object called' valid' known' nearest =>
            cases called.symm.trans called'
            cases valid.symm.trans valid'
            cases known.symm.trans known'
            cases found.symm.trans (findMethod?_eq_some.mpr nearest)
        | some owned =>
          obtain ⟨owner, m⟩ := owned
          refine dispatches_bind (.collectArgs c 2 m) (performs_callObjectResolved id owner m)
            (yields_callObjectResolved id owner m) (fun args ok => ?_) fun r args k due => ?_
          · exact .object called valid known (findMethod?_eq_some.mp found)
              (accepts_asking.mp (collectArgs_eq_ok.mp ok))
          · cases due with
            | object called' valid' known' nearest accepts =>
              cases called.symm.trans called'
              cases valid.symm.trans valid'
              cases known.symm.trans known'
              cases found.symm.trans (findMethod?_eq_some.mpr nearest)
              exact collectArgs_eq_ok.mpr (accepts_asking.mpr accepts)

/-- The handlers that perform operations of a host. -/
def dispatchers : List Handler := [.builtinNamecall, .builtinStaticCall, .builtinCtor, .classNamecall]

/-- A handler performs the operation that is due, once, and has no other dealings with the host. -/
theorem handler_dispatch {h : Handler} (dispatcher : h ∈ dispatchers)
    (context : w.state.context = some c) :
    Dispatches (Operation w c h) c.host w (h.run w) := by
  unfold dispatchers at dispatcher
  simp only [List.mem_cons, List.not_mem_nil, or_false] at dispatcher
  rcases dispatcher with rfl | rfl | rfl | rfl
  · exact builtinNamecall_dispatch context
  · exact builtinStaticCall_dispatch context
  · exact builtinConstructor_dispatch context
  · exact classNamecall_dispatch context

end ScriptM

end ScriptBind
