import ScriptBind.Proofs.ClassDb.Meta
import ScriptBind.Proofs.Session.CallFrames
import ScriptBind.Proofs.Session.Comparers
import ScriptBind.Proofs.Session.Pushes
import ScriptBind.Proofs.Session.ReferenceStates
import ScriptBind.Proofs.Session.RoundTrips
import ScriptBind.Proofs.Variant.Components

/-!
# Equality of bound values

Two userdata are compared by a function only if both metatables have this very function, so what
scripts take for equal depends on which metatable a userdata was given when it was pushed. There is
one for each builtin type and one for each class, and each has a function of its own. Math values
with equal components are of one type, and an object is of one class unless a method turns it into
another one, so userdata that should be equal have one metatable; and its function looks at what they
carry. Where a method does that, or another description takes the class away, the two userdata of one
object are not equal.

A userdata keeps payload and metatable as long as the world is upheld (`World.Upholds`), which
whatever runs in a session does unless it tampers with it (`Session.lasts_upholds`).

Main results:

* `run_equal_self`, `run_equal_apart` — a comparison of userdata, up to the function they share.
* `equal_carried` — userdata that are what they were pushed as.
* `bound_values_equal` — from the setup of a state over two pushes to any later comparison.
* `bound_values_unequal` — one object under two classes.
-/

namespace ScriptBind

open ScriptM

namespace ScriptM

variable {w : World} {run : Runner} {i j : Int} {u k : UserdataId} {f g : FunctionId}

/-! ## Comparisons -/

/-- Two values are handed to a function, which says whether they are equal. -/
def askEqual (run : Runner) (f : FunctionId) (a b : Value) : ScriptM Bool := do
  [.function f, a, b].forM push
  call run 2 (some 1)
  let result ← query fun s => s.toBoolean (-1)
  pop 1
  return result

/-- A userdata is equal to itself, whatever its metatable is. -/
theorem run_equal_self (here : w.state.value? i = some (.userdata u))
    (there : w.state.value? j = some (.userdata u)) : equal run i j w = (.ok true, w) := by
  have a : w.state.valueOrNil i = .userdata u := by rw [State.valueOrNil, here]; rfl
  have b : w.state.valueOrNil j = .userdata u := by rw [State.valueOrNil, there]; rfl
  unfold equal
  rw [run_query_bind, run_query_bind, a, b, if_pos (by simp [Value.rawEqual])]
  rfl

/-- Different userdata are as equal as the function says that they share. -/
theorem run_equal_apart (here : w.state.value? i = some (.userdata u))
    (there : w.state.value? j = some (.userdata k)) (different : u ≠ k)
    (left : w.metafield (.userdata u) "__eq" = some (.function f))
    (right : w.metafield (.userdata k) "__eq" = some (.function g)) :
    equal run i j w =
      if f = g then askEqual run f (.userdata u) (.userdata k) w else (.ok false, w) := by
  have a : w.state.valueOrNil i = .userdata u := by rw [State.valueOrNil, here]; rfl
  have b : w.state.valueOrNil j = .userdata k := by rw [State.valueOrNil, there]; rfl
  unfold equal
  rw [run_query_bind, run_query_bind, a, b, if_neg (by simpa [Value.rawEqual] using different),
    if_neg (by simp [sameReferenceKind]), run_bind, run_get]
  dsimp only
  rw [left, right]
  dsimp only
  split <;> rfl

/-- A function that pushes a boolean answers with it, and leaves no trace. -/
theorem run_askEqual {a b : Value} {answer : Bool} (framed : w.state.Framed)
    (room : w.state.frames.length < maxCallDepth)
    (ran : run f (w.callFrame f [a, b]) =
      (push (.boolean answer) >>= fun _ => return 1 : ScriptM Nat) (w.callFrame f [a, b])) :
    askEqual run f a b w = (.ok answer, w) := by
  -- the function and its arguments are gone after the call, and its answer after it has been read
  have called : call run [a, b].length (some 1) (w.withCall f [a, b]) =
      (.ok (), w.withStack (w.state.stack ++ [.boolean answer])) :=
    (run_call_withCall run (some 1) framed f [a, b]).trans (run_invoke_pushes room ran)
  have read : (w.state.push (.boolean answer)).toBoolean (-1) = answer := by
    rw [State.toBoolean, State.valueOrNil, State.value?_push framed]
    rfl
  have popped : pop 1 (w.withStack (w.state.stack ++ [.boolean answer])) = (.ok (), w) := by
    have state : (w.withStack (w.state.stack ++ [.boolean answer])).state =
      w.state.push (.boolean answer) := rfl
    rw [pop, run_onState, state, State.pop_push framed]
    rfl
  unfold askEqual
  rw [run_forM_push]
  show (call run [a, b].length (some 1) >>= _) (w.withCall f [a, b]) = _
  rw [run_bind, called]
  dsimp only
  rw [run_query_bind, run_bind, popped]
  exact congrArg (fun r => (Except.ok r, w)) read

end ScriptM

/-! ## Comparands -/

/-- What the handlers of the payloads find equal. -/
def Payload.same : Payload → Payload → Bool
  | .variant a, .variant b => a.same b
  | .object a, .object b => a == b
  | _, _ => false

namespace World

/-- A userdata carries a bound value, and is compared by a function for such values. -/
inductive Comparand (w : World) (u : UserdataId) (f : FunctionId) : Payload → Prop
  | value {v : Variant} (carried : w.CarriesValue u v)
      (field : w.metafield (.userdata u) "__eq" = some (.function f))
      (runs : w.handler? f = some .builtinEqual) : Comparand w u f (.variant v)
  | object {id : ObjectId} (carried : w.CarriesObject u id)
      (field : w.metafield (.userdata u) "__eq" = some (.function f))
      (runs : w.handler? f = some .objectEqual) : Comparand w u f (.object id)

variable {w : World} {u k : UserdataId} {f g : FunctionId} {p q : Payload}

theorem Comparand.field (comparand : w.Comparand u f p) :
    w.metafield (.userdata u) "__eq" = some (.function f) := by
  cases comparand <;> assumption

/-- In the frame of a function, a builtin value is found among its arguments. -/
theorem CarriesValue.anyBuiltinAt? {v : Variant} (carried : w.CarriesValue u v)
    {args : List Value} {m : Nat} (arg : args[m]? = some (.userdata u)) :
    (w.callFrame f args).anyBuiltinAt? (m + 1 : Nat) = some v :=
  anyBuiltinAt?_eq_some.mpr ⟨u, testUserdata?_eq_some.mpr
    ⟨(ScriptM.value?_callFrame m).trans arg, carried.registered⟩, carried.payload⟩

/-- So is an object. -/
theorem CarriesObject.objectAt? {id : ObjectId} (carried : w.CarriesObject u id)
    {args : List Value} {m : Nat} (arg : args[m]? = some (.userdata u)) :
    (w.callFrame f args).objectAt? (m + 1 : Nat) = some id :=
  objectAt?_eq_some.mpr ⟨u, (ScriptM.value?_callFrame m).trans arg, carried.payload, carried.marked⟩

end World

namespace ScriptM

variable {w : World} {i j : Int} {u k : UserdataId} {f g : FunctionId} {p q : Payload}

/-- A function that two comparands share finds them equal if they carry the same. -/
theorem askEqual_comparands (n : Nat) (left : w.Comparand u f p) (right : w.Comparand k f q)
    (framed : w.state.Framed) (room : w.state.frames.length < maxCallDepth) :
    askEqual (runAt (n + 1)) f (.userdata u) (.userdata k) w = (.ok (p.same q), w) := by
  let e := w.callFrame f [.userdata u, .userdata k]
  have known (h : Handler) (runs : w.handler? f = some h) : runAt (n + 1) f e = h.run e :=
    runAt_handler runs
  refine run_askEqual framed room ?_
  show runAt (n + 1) f e = _
  -- the function has one handler, so both userdata carry the same kind of payload
  cases left with
  | @value a carried _ runs =>
    cases right with
    | @value b carried' _ _ =>
      have first : e.anyBuiltinAt? 1 = some a := carried.anyBuiltinAt? (m := 0) rfl
      have second : e.anyBuiltinAt? 2 = some b := carried'.anyBuiltinAt? (m := 1) rfl
      rw [known _ runs]
      show builtinEqual e = _
      unfold builtinEqual
      rw [run_bind, run_get]
      dsimp only
      rw [first, second]
      rfl
    | object _ _ other => cases runs.symm.trans other
  | @object a carried _ runs =>
    cases right with
    | value _ _ other => cases runs.symm.trans other
    | @object b carried' _ _ =>
      have first : e.objectAt? 1 = some a := carried.objectAt? (m := 0) rfl
      have second : e.objectAt? 2 = some b := carried'.objectAt? (m := 1) rfl
      rw [known _ runs]
      show objectEqual e = _
      unfold objectEqual
      rw [run_bind, run_get]
      dsimp only
      rw [first, second]
      rfl

/-- Different userdata are equal if they share the function and carry the same. -/
theorem equal_comparands (n : Nat) (left : w.Comparand u f p) (right : w.Comparand k g q)
    (different : u ≠ k) (framed : w.state.Framed) (room : w.state.frames.length < maxCallDepth)
    (here : w.state.value? i = some (.userdata u)) (there : w.state.value? j = some (.userdata k)) :
    equal (runAt (n + 1)) i j w = (.ok (decide (f = g) && p.same q), w) := by
  rw [run_equal_apart here there different left.field right.field]
  by_cases shared : f = g
  · subst shared
    rw [if_pos rfl, askEqual_comparands n left right framed room, decide_eq_true rfl, Bool.true_and]
  · rw [if_neg shared, decide_eq_false shared, Bool.false_and]

end ScriptM

/-! ## Bound userdata -/

/-- Payloads that scripts take for the same: math values with equal components, or one object. -/
def Payload.Alike : Payload → Payload → Prop
  | .variant a, .variant b => a.EqualComponents b
  | .object a, .object b => a = b
  | _, _ => False

/-- A math value of a declared type or an object, and the name that its metatable has. -/
inductive Payload.Belongs (r : Registry) : Payload → String → Prop
  | value {v : Variant} {T : MathType} {b : Registry.Builtin} (math : v.tag = T.tag)
      (declared : b ∈ r.builtins) (type : b.tag = v.tag) : Belongs r (.variant v) v.tag.name
  | object {id : ObjectId} {k : Registry.Class} (declared : k ∈ r.classes) :
      Belongs r (.object id) k.name

namespace Payload

variable {r : Registry} {p q : Payload} {name name' : String}

theorem Alike.symm (alike : p.Alike q) : q.Alike p := by
  cases p <;> cases q
  case variant.variant => exact Variant.EqualComponents.symm alike
  case object.object => exact Eq.symm alike
  all_goals exact alike

theorem Belongs.bound (belongs : p.Belongs r name) : p.Bound := by
  cases belongs <;> exact fun _ => nofun

/-- What the handlers find equal is alike. -/
theorem same_iff (left : p.Belongs r name) (right : q.Belongs r name') :
    p.same q = true ↔ p.Alike q := by
  cases left with
  | value math _ _ =>
    cases right with
    | value => exact Variant.same_iff math
    | object => exact ⟨nofun, nofun⟩
  | object =>
    cases right with
    | value => exact ⟨nofun, nofun⟩
    | object => exact beq_iff_eq

end Payload

namespace World

/-- All metatables of a registry compare: those of its builtin types, which are the ones that have
libraries, and those of its classes. -/
structure Comparing (w : World) (r : Registry) : Prop where
  builtins : ∀ b ∈ libraryTypes r, w.Compares b.name .builtinEqual false
  classes : ∀ k ∈ r.classes, w.Compares k.name .objectEqual true

/-- A function stands for comparisons in the metatable of a name. -/
def Comparer (w : World) (name : String) (f : FunctionId) : Prop :=
  ∃ mt, w.metatableNamed name = some mt ∧ (w.table mt).field "__eq" = .function f

/-- A userdata carries a payload, and has the metatable of a name. -/
structure Carries (w : World) (r : Registry) (u : UserdataId) (p : Payload) (name : String) :
    Prop where
  belongs : p.Belongs r name
  tagged : ∃ mt, w.metatableNamed name = some mt ∧ w.userdata[u.index]? = some ⟨p, some mt⟩

variable {w v : World} {r : Registry} {d : Api.Document} {u : UserdataId} {p : Payload}
  {name : String}

theorem Comparing.later (comparing : w.Comparing r) (upholds : w.Upholds v) : v.Comparing r :=
  ⟨fun b mem => (comparing.builtins b mem).later upholds,
    fun k mem => (comparing.classes k mem).later upholds⟩

theorem Comparer.eq {f g : FunctionId} (first : w.Comparer name f) (second : w.Comparer name g) :
    f = g := by
  obtain ⟨mt, named, entry⟩ := first
  obtain ⟨mt', named', entry'⟩ := second
  cases named.symm.trans named'
  exact Value.function.inj (entry.symm.trans entry')

theorem Carries.later (carries : w.Carries r u p name) (upholds : w.Upholds v)
    (referential : w.Referential) : v.Carries r u p name := by
  obtain ⟨belongs, mt, named, entry⟩ := carries
  exact ⟨belongs, mt, upholds.named named,
    (upholds.retained referential).kept belongs.bound entry⟩

/-- A bound userdata can be compared, by the function in the metatable of its name. -/
theorem Carries.comparand (carries : w.Carries r u p name) (built : Registry.ofApi d = .ok r)
    (comparing : w.Comparing r) : ∃ f, w.Comparand u f p ∧ w.Comparer name f := by
  obtain ⟨belongs, mt, named, entry⟩ := carries
  have held : w.userdatum u = ⟨p, some mt⟩ := by
    rw [userdatum, Array.getD_eq_getD_getElem?, entry]
    rfl
  have field {f : FunctionId} (entered : (w.table mt).field "__eq" = .function f) :
      w.metafield (.userdata u) "__eq" = some (.function f) := by
    rw [metafield, metatable, held]
    dsimp only
    rw [entered]
  cases belongs with
  | @value x T b math declared type =>
    have same : b.name = x.tag.name :=
      ((Registry.named_builtins built).1 b declared).tag.symm.trans (congrArg Tag.name type)
    -- the metatable of a type is there for comparisons if the type has a library
    have library : b ∈ libraryTypes r := by
      refine List.mem_filter.mpr ⟨declared, ?_⟩
      rw [type, math]
      cases T <;> rfl
    obtain ⟨mt', named', -, -, f, entered, runs⟩ := comparing.builtins b library
    rw [same] at named'
    cases named.symm.trans named'
    exact ⟨f, .value (.of_entry entry named) (field entered) runs, mt, named, entered⟩
  | @object id k declared =>
    obtain ⟨mt', named', -, marked, f, entered, runs⟩ := comparing.classes k declared
    cases named.symm.trans named'
    exact ⟨f, .object ⟨by rw [held], mt, by rw [held], marked⟩ (field entered) runs, mt, named,
      entered⟩

end World

namespace ScriptM

variable {w : World} {r : Registry} {d : Api.Document} {i j : Int} {u k : UserdataId}
  {p q : Payload} {name name' : String}

/-- Different userdata are equal in either order only if what they carry is alike. If it is, they are
equal provided that they have one metatable. -/
theorem equal_carried (n : Nat) (built : Registry.ofApi d = .ok r) (comparing : w.Comparing r)
    (left : w.Carries r u p name) (right : w.Carries r k q name') (different : u ≠ k)
    (framed : w.state.Framed) (room : w.state.frames.length < maxCallDepth)
    (here : w.state.value? i = some (.userdata u)) (there : w.state.value? j = some (.userdata k)) :
    ∃ b, equal (runAt (n + 1)) i j w = (.ok b, w) ∧ equal (runAt (n + 1)) j i w = (.ok b, w) ∧
      (b = true → p.Alike q) ∧ (p.Alike q → name = name' → b = true) := by
  obtain ⟨f, first, f_named⟩ := left.comparand built comparing
  obtain ⟨g, second, g_named⟩ := right.comparand built comparing
  have forth := Payload.same_iff left.belongs right.belongs
  have back := Payload.same_iff right.belongs left.belongs
  -- neither the functions nor what is carried care for the order
  have swapped : (decide (g = f) && q.same p) = (decide (f = g) && p.same q) := by
    rw [Bool.eq_iff_iff, Bool.and_eq_true, Bool.and_eq_true, forth, back, decide_eq_true_iff,
      decide_eq_true_iff]
    exact ⟨fun h => ⟨h.1.symm, h.2.symm⟩, fun h => ⟨h.1.symm, h.2.symm⟩⟩
  refine ⟨decide (f = g) && p.same q,
    equal_comparands n first second different framed room here there, ?_, ?_, ?_⟩
  · rw [equal_comparands n second first different.symm framed room there here, swapped]
  · rw [Bool.and_eq_true, forth]
    exact fun both => both.2
  · rintro alike rfl
    rw [Bool.and_eq_true, decide_eq_true_iff, forth]
    exact ⟨f_named.eq g_named, alike⟩

end ScriptM

/-! ## Pushes -/

/-- A math value of a declared type, or an object of a declared class, is pushed, with the name of the
type or of the class. An object belongs to the host `i`, and the description of the state at the time
of the push declares its class as well. -/
inductive World.Pushes (r : Registry) (i : Nat) (w : World) : Payload → String → World → Prop
  | value {v : Variant} {T : MathType} {b : Registry.Builtin} {x : World} (math : v.tag = T.tag)
      (declared : b ∈ r.builtins) (type : b.tag = v.tag) (framed : w.state.Framed)
      (pushed : pushBuiltin v w = (.ok (), x)) : Pushes r i w (.variant v) v.tag.name x
  | object {id : ObjectId} {c : Context} {d : Api.Document} {k k' : Registry.Class} {x : World}
      (context : w.state.context = some c) (host : c.host = i) (declared : k ∈ r.classes)
      (built : Registry.ofApi d = .ok (w.registry c.registry))
      (current : k' ∈ (w.registry c.registry).classes) (same : k'.name = k.name)
      (alive : (w.host i).classes.classOf id = .ok k.name)
      (pushed : pushObject id w = (.ok (), x)) : Pushes r i w (.object id) k.name x

namespace World

variable {w x : World} {r : Registry} {i : Nat} {p : Payload} {s : String}

theorem Pushes.upholds (pushes : w.Pushes r i p s x) : w.Upholds x := by
  cases pushes with
  | @value v T b _ math declared type framed pushed =>
    have upholds := Upholds.of_sparing (Evolving.pushBuiltin v w) fun P _ => Sparing.pushBuiltin v
    rwa [pushed] at upholds
  | @object id c d k k' _ context host declared built current same alive pushed =>
    have upholds := Upholds.of_sparing (Evolving.pushObject id w) fun P _ => Sparing.pushObject id
    rwa [pushed] at upholds

/-- What is pushed is carried by a new userdata, which has the metatable of the type or class. -/
theorem Pushes.carries (comparing : w.Comparing r) (pushes : w.Pushes r i p s x) :
    x.Carries r ⟨w.userdata.size⟩ p s := by
  cases pushes with
  | @value v T b _ math declared type framed pushed =>
    obtain ⟨mt, y, ran, -, entry, named, -⟩ := pushBuiltin_ok framed v
    cases ran.symm.trans pushed
    exact ⟨.value math declared type, mt, named, entry⟩
  | @object id c d k k' _ context host declared built current same alive pushed =>
    subst host
    obtain ⟨mt, named, -⟩ := comparing.classes k declared
    -- the search for a metatable starts at the class itself, which has one
    have found : ((w.registry c.registry).ancestors k.name).findSome?
        (fun k => w.metatableNamed k.name) = some mt :=
      findSome?_ancestors built ⟨k', current, same⟩ named
    cases (run_pushObject context alive found).symm.trans pushed
    exact ⟨.object declared, mt, named, Array.getElem?_push_size⟩

/-- An object is pushed under the name of the class that its host reports for it. -/
theorem Pushes.classOf {id : ObjectId} (pushes : w.Pushes r i (.object id) s x) :
    (w.host i).classes.classOf id = .ok s := by
  cases pushes
  assumption

/-- Alike values are pushed under one name. -/
theorem Pushes.name_eq {v : Variant} {q : Payload} {t : String} {y z : World}
    (first : w.Pushes r i (.variant v) s x) (second : y.Pushes r i q t z)
    (alike : Payload.Alike (.variant v) q) : s = t := by
  cases first with
  | value =>
    cases second with
    | value => exact congrArg Tag.name alike.tag
    | object => exact alike.elim

/-- Alike payloads are pushed under one name if the host of the objects has begun lawfully and has been
asked for `deeds` until the first push and for `more` until the second. -/
theorem Pushes.name_eq_served {q : Payload} {t : String} {y z : World} {start db : ClassDb}
    {past deeds more : List ClassDb.Deed} (first : w.Pushes r i p s x) (second : y.Pushes r i q t z)
    (lawful : start.Lawful) (begun : ClassDb.Served start past db)
    (served : ClassDb.Served db deeds (w.host i).classes)
    (served' : ClassDb.Served (w.host i).classes more (y.host i).classes)
    (bound : (ClassDb.issued (past ++ deeds ++ more)).length < UInt64.size) (alike : p.Alike q) :
    s = t := by
  cases p with
  | variant a => exact first.name_eq second alike
  | raw n => cases first
  | object id =>
    cases q with
    | object id' =>
      obtain rfl : id = id' := alike
      exact (lawful.same_class (begun.append served) served' bound first.classOf
        second.classOf).symm
    | variant b => exact alike.elim
    | raw n => cases second

/-- A host has come to be what it is by what it has been asked for. -/
theorem exists_served {h k : Host} (lives : h.Lives k) (hosted : x.hosts[i]? = some k) :
    ∃ deeds, ClassDb.Served h.classes deeds (x.host i).classes := by
  rw [host_eq hosted]
  exact ClassDb.exists_served lives.classes

end World

/-! ## Bound values -/

section Pushed

variable {w v y₁ z₁ y₂ z₂ x : World} {setup : Setup} {c : Context} {d : Api.Document}
  {r : Registry} {p q : Payload} {s t : String} {k : Nat}

/-- A state is set up with the builtin types and the classes of a description, where all hosts are
the reference engine. Two times a math value of a declared type or an object of a declared class is
pushed, whatever happens before, in between and since, as long as it upholds the world. Then a
userdata is equal to itself, and a comparison of the two gives one answer in either order, fails in
neither and leaves no trace, as long as there is room for one more call.

The two are equal only if they carry math values of one type with equal components, or the same
object, be it alive or freed. If they do, they are equal, unless it is an object for which the host
has reported different classes at the two pushes. A host that has begun with classes without circles,
whose methods leave identities alone, always reports one class for an id, as long as it does not run
out of ids: in whatever way it has come to the pushes (and there always is one), its deeds have given
out fewer ids than there are. -/
theorem bound_values_equal (built : Registry.ofApi d = .ok r)
    (known : w.registries[c.registry]? = some r) (builtins : setup.builtins = true)
    (classes : setup.classes = true) (ready : w.withRuntime setup c.host c.registry = .ok v)
    (referential : w.Referential) (before : v.Upholds y₁) (first : y₁.Pushes r k p s z₁)
    (between : z₁.Upholds y₂) (second : y₂.Pushes r k q t z₂) (since : z₂.Upholds x)
    (framed : x.state.Framed) (room : x.state.frames.length < maxCallDepth) (n : Nat) {i j : Int}
    (here : x.state.value? i = some (.userdata ⟨y₁.userdata.size⟩))
    (there : x.state.value? j = some (.userdata ⟨y₂.userdata.size⟩)) :
    (∀ m, x.state.value? m = x.state.value? i → equal (runAt (n + 1)) i m x = (.ok true, x)) ∧
    ∃ b, equal (runAt (n + 1)) i j x = (.ok b, x) ∧ equal (runAt (n + 1)) j i x = (.ok b, x) ∧
      (b = true → p.Alike q) ∧ (p.Alike q → s = t → b = true) ∧
      ((∃ a, p = .variant a) → p.Alike q → s = t) ∧
      ∀ start past h, start.Lawful → w.hosts[k]? = some h → ClassDb.Served start past h.classes →
        (∃ deeds more, ClassDb.Served h.classes deeds (y₁.host k).classes ∧
          ClassDb.Served (y₁.host k).classes more (y₂.host k).classes) ∧
        ∀ deeds more, ClassDb.Served h.classes deeds (y₁.host k).classes →
          ClassDb.Served (y₁.host k).classes more (y₂.host k).classes →
          (ClassDb.issued (past ++ deeds ++ more)).length < UInt64.size → p.Alike q → s = t := by
  obtain ⟨-, preserves⟩ := World.withRuntime_preserves ready
  have registered : v.registries[c.registry]? = some r := preserves.evolves.registry_known known
  have comparing : v.Comparing r := by
    obtain ⟨values, objects⟩ := World.withRuntime_compares ready
    rw [← World.registry_eq known]
    exact ⟨values builtins, objects classes⟩
  have until_second := (before.trans first.upholds).trans between
  have until_now := (until_second.trans second.upholds).trans since
  -- each push has left a userdata with the metatable of a type or class, and what it is stays
  have carries := first.carries (comparing.later before)
  have carries' := second.carries (comparing.later until_second)
  have referential₀ := World.withRuntime_referential ready referential
  have referential₁ := (before.trans first.upholds).referential referential₀
  have referential₂ := (until_second.trans second.upholds).referential referential₀
  have left := carries.later (between.trans (second.upholds.trans since)) referential₁
  have right := carries'.later since referential₂
  have different : (⟨y₁.userdata.size⟩ : UserdataId) ≠ ⟨y₂.userdata.size⟩ := by
    obtain ⟨-, mt, -, entry⟩ := carries.later between referential₁
    have older := (Array.getElem?_eq_some_iff.mp entry).1
    exact fun same => Nat.ne_of_lt older (congrArg UserdataId.index same)
  obtain ⟨b, forth, back, only, enough⟩ := equal_carried n built (comparing.later until_now) left
    right different framed room here there
  refine ⟨fun m same => run_equal_self here (same.trans here), b, forth, back, only, enough, ?_, ?_⟩
  · rintro ⟨a, rfl⟩ alike
    exact first.name_eq second alike
  · intro start past h lawful hosted begun
    -- the host has come to the pushes by what it has been asked for
    obtain ⟨h₁, hosted₁, lives⟩ := (Session.proceeds_withRuntime ready).1.host_known hosted
    obtain ⟨h₂, hosted₂, lives'⟩ := before.host hosted₁
    obtain ⟨h₃, hosted₃, lives''⟩ := (first.upholds.trans between).host hosted₂
    obtain ⟨deeds, served⟩ := World.exists_served (lives.trans lives') hosted₂
    obtain ⟨more, served'⟩ := World.exists_served lives'' hosted₃
    rw [← World.host_eq hosted₂] at served'
    exact ⟨⟨deeds, more, served, served'⟩, fun deeds more served served' bound alike =>
      first.name_eq_served second lawful begun served served' bound alike⟩

end Pushed

namespace World

/-- A state with the builtin types and the classes of the bundled description. -/
def bindingsOpened : World :=
  (ofReference.withRuntime ⟨none, false, none, true, true, false⟩ 0 0).toOption.getD ofReference

theorem withRuntime_bindingsOpened :
    ofReference.withRuntime ⟨none, false, none, true, true, false⟩ 0 0 = .ok bindingsOpened :=
  Registry.eq_ok_getD_of_isOk (by decide +kernel) _

/-- A node has been made. -/
def nodeHosted : World := (Activity.instr (.hostNew 0 "Node")).after 0 bindingsOpened

/-- The node is on the stack. -/
def handlePushed : World := (pushObject ⟨1⟩ nodeHosted).2

/-- It is there twice. -/
def handlesPushed : World := (pushObject ⟨1⟩ handlePushed).2

/-- It has been freed. -/
def handlesLeft : World := (Activity.instr (.hostFree 0 ⟨1⟩)).after 0 handlesPushed

/-- Until the node is on the stack, the host has been asked to make it, and for nothing else until it
is there twice. -/
theorem served_handlePushed :
    ClassDb.Served ClassDb.core
        [.instantiate "Node" (ClassDb.core.instantiate "Node").1] (nodeHosted.host 0).classes ∧
      ClassDb.Served (nodeHosted.host 0).classes [] (handlePushed.host 0).classes := by
  have registry : ofReference.registries[0]? = some Registry.bundled := by simp [ofReference]
  obtain ⟨on, starts⟩ := withRuntime_onReference (w := ofReference) (c := ⟨0, 0⟩) rfl
    (Host.Lives.refl Host.reference) registry rfl withRuntime_bindingsOpened
  have facts : nodeHosted.state.context = some ⟨0, 0⟩ ∧
      ((nodeHosted.host 0).classes.object? ⟨1⟩).isSome ∧
      (nodeHosted.host 0).classes.objects = (ClassDb.core.instantiate "Node").2.objects ∧
      (nodeHosted.host 0).classes.created = (ClassDb.core.instantiate "Node").2.created := by
    decide +kernel
  obtain ⟨context, alive, objects, created⟩ := facts
  -- making the node is the only deed, and to push it is none
  have made : bindingsOpened.Continues nodeHosted ⟨0, 0⟩ :=
    .of_instr (i := .hostNew 0 "Node") starts.framed starts.room (by rw [nodeHosted]) context rfl
      (by rintro _ _ ⟨⟩) (by rintro _ ⟨⟩) (by rintro _ ⟨⟩)
  have on' := on.later made
  have served := on'.served (h := nodeHosted.host 0) rfl
    (ClassDb.Served.new.does (.instantiate "Node")) objects created
  obtain ⟨u, x, pushed, gains, -, -⟩ := pushObject_handle on' alive
  have same : handlePushed.host 0 = nodeHosted.host 0 := by
    rw [handlePushed, pushed, host, host, gains.hosts]
  rw [same]
  exact ⟨served, .new⟩

end World

open World in
/-- A node that is pushed twice is one and the same for scripts, even after it has been freed. -/
theorem bound_values_equal_node :
    handlesLeft.state.stack = [.userdata ⟨0⟩, .userdata ⟨1⟩] ∧
      ((handlesLeft.host 0).classes.object? ⟨1⟩).isNone ∧
      equal (runAt 1) 1 2 handlesLeft = (Except.ok true, handlesLeft) ∧
      equal (runAt 1) 2 1 handlesLeft = (Except.ok true, handlesLeft) := by
  have registry : ofReference.registries[0]? = some Registry.bundled := by simp [ofReference]
  have facts :
      (pushObject ⟨1⟩ nodeHosted).1 = .ok () ∧ (pushObject ⟨1⟩ handlePushed).1 = .ok () ∧
      nodeHosted.state.context = some ⟨0, 0⟩ ∧ handlePushed.state.context = some ⟨0, 0⟩ ∧
      (nodeHosted.host 0).classes.classOf ⟨1⟩ = .ok "Node" ∧
      (handlePushed.host 0).classes.classOf ⟨1⟩ = .ok "Node" ∧
      nodeHosted.userdata.size = 0 ∧ handlePushed.userdata.size = 1 ∧
      handlesLeft.state.stack = [.userdata ⟨0⟩, .userdata ⟨1⟩] ∧
      handlesLeft.state.value? 1 = some (.userdata ⟨0⟩) ∧
      handlesLeft.state.value? 2 = some (.userdata ⟨1⟩) ∧
      handlesLeft.state.base ≤ handlesLeft.state.stack.length ∧
      handlesLeft.state.frames.length < maxCallDepth ∧
      ((handlesLeft.host 0).classes.object? ⟨1⟩).isNone := by
    decide +kernel
  obtain ⟨pushed, pushed', context, context', alive, alive', none_, one, stack, here, there, framed,
    room, freed⟩ := facts
  have declared : ∃ k ∈ Registry.bundled.classes, k.name = "Node" := by decide +kernel
  obtain ⟨k, mem, named⟩ := declared
  have referential : ofReference.Referential := by
    intro h mem
    cases Array.mem_singleton.mp mem
    rfl
  have made : bindingsOpened.Upholds nodeHosted :=
    .of_instr 0 bindingsOpened rfl (by rintro _ _ ⟨⟩) (by rintro _ ⟨⟩)
      (by rintro (⟨_, ⟨⟩⟩ | ⟨_, ⟨⟩⟩ | ⟨_, _, ⟨⟩⟩))
  have left : handlesPushed.Upholds handlesLeft :=
    .of_instr 0 handlesPushed rfl (by rintro _ _ ⟨⟩) (by rintro _ ⟨⟩)
      (by rintro (⟨_, ⟨⟩⟩ | ⟨_, ⟨⟩⟩ | ⟨_, _, ⟨⟩⟩))
  have opened : bindingsOpened.registries[0]? = some Registry.bundled :=
    (Session.proceeds_withRuntime withRuntime_bindingsOpened).1.registry_known registry
  -- each push is one of an object of a declared class, of which the bundled description knows
  have pushes {w x : World} (known : w.registries[0]? = some Registry.bundled)
      (context : w.state.context = some ⟨0, 0⟩)
      (alive : (w.host 0).classes.classOf ⟨1⟩ = .ok "Node")
      (pushed : (pushObject ⟨1⟩ w).1 = .ok ()) (after : x = (pushObject ⟨1⟩ w).2) :
      w.Pushes Registry.bundled 0 (.object ⟨1⟩) k.name x := by
    have current : w.registry 0 = Registry.bundled := registry_eq known
    exact .object context rfl mem (current.symm ▸ Registry.ofApi_bundled) (current.symm ▸ mem) rfl
      (named ▸ alive) (Prod.ext pushed after.symm)
  have first := pushes (made.registry opened) context alive pushed handlePushed.eq_1
  have second := pushes (first.upholds.registry (made.registry opened)) context' alive' pushed'
    handlesPushed.eq_1
  rw [← none_] at here
  rw [← one] at there
  obtain ⟨-, b, forth, back, -, enough, -, host⟩ := bound_values_equal (c := ⟨0, 0⟩)
    Registry.ofApi_bundled registry rfl rfl withRuntime_bindingsOpened referential made first
    (.refl handlePushed) second left framed room 0 here there
  -- the only id that has been given out is that of the node
  obtain ⟨-, one_class⟩ := host ClassDb.core [] Host.reference ClassDb.core_lawful rfl .new
  obtain ⟨deed, none_more⟩ := served_handlePushed
  obtain rfl : b = true := enough rfl (one_class _ _ deed none_more (by decide) rfl)
  exact ⟨stack, freed, forth, back⟩

/-! ## Two classes for one object -/

/-- A state with the library of a class. What the class declares beside its name is left open. -/
def World.nodeOpened (declarations : String) : World :=
  (Session.after [.command (.newRuntime
    { api := some (.document (nodeText declarations))
      shared := false
      host := some (.fresh .plain)
      builtins := true
      classes := true
      enums := false })]).world

/-- The two values on the stack are userdata that carry the first object, and they are not equal. -/
def World.TellsApart (w : World) : Prop :=
  w.state.stack = [.userdata ⟨0⟩, .userdata ⟨1⟩] ∧
    (w.userdatum ⟨0⟩).payload = .object ⟨1⟩ ∧ (w.userdatum ⟨1⟩).payload = .object ⟨1⟩ ∧
    (equal runFunction 1 2 w).1 = .ok false ∧ (equal runFunction 2 1 w).1 = .ok false

instance (w : World) : Decidable w.TellsApart := inferInstanceAs (Decidable (_ ∧ _))

/-- Classes with a method that turns an object into one of another class. -/
def turning : ClassDb :=
  (ClassDb.empty.register ((ClassDef.new "Node").method "turn" fun _ o _ =>
    (.ok .nil, { o with cls := "Sprite" }))).register (ClassDef.new "Sprite")

/-- An object that is pushed again is another one for scripts if its class is not declared in the
description that the state has been given meanwhile, or if a method has changed the class. -/
theorem bound_values_unequal :
    (execAll runFunction
        [.hostNew 0 "Node", .pushObject ⟨1⟩,
          .install (.document "\x7b\"header\":\x7b\x7d\x7d") (.existing 0), .pushObject ⟨1⟩]
        (World.nodeOpened "")).2.TellsApart ∧
      (execAll runFunction
        [.hostNew 0 "Node", .pushObject ⟨1⟩, .pushValue 1, .callMethod "turn" 0 (some 0),
          .pushObject ⟨1⟩]
        { World.nodeOpened
            ",\"methods\":[\x7b\"name\":\"turn\"\x7d]\x7d,\x7b\"name\":\"Sprite\"" with
          hosts := #[⟨Engine.reference, turning⟩] }).2.TellsApart := by
  decide +kernel

end ScriptBind
