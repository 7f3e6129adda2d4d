import ScriptBind.Proofs.Session.DispatchContract
import ScriptBind.Proofs.Session.Represented
import ScriptBind.Proofs.Session.StandIns

/-!
# Receivers of method calls

A method of a builtin value is called on a copy of the value. When the host has granted the call and
the method is not constant, the userdata that is the receiver gets what the host has left of the
copy; in any other case it keeps what it carries. All other userdata keep what they carry.

The receiver is written before the result is pushed, and a push can fail, for an object that the host
does not list. Such a call fails although the receiver has been written. Every other failed call has
changed nothing, and that is all of them if the host leaves the receiver alone whenever its answer is
such an object. Every host of a session does.

Main results:

* `callBuiltinMethod_finishes` — the three ways a method call finishes, against any host.
* `receiver_written_back` — the three ways for every call that a script can make, with what becomes of
  the payloads.
* `receiver_written_back_lost` — a call that fails with its receiver written.
-/

namespace ScriptBind

open ScriptM
open Registry (Builtin Method)

namespace World

/-! ## Payloads -/

/-- The userdata that there were in `w` have the same payloads in `v`, but for perhaps one. -/
def KeepsPayloads (but : Option UserdataId) (w v : World) : Prop :=
  ∀ u : UserdataId, u.index < w.userdata.size → but ≠ some u →
    (v.userdatum u).payload = (w.userdatum u).payload

variable {but : Option UserdataId} {w v x : World}

theorem KeepsPayloads.of_eq (same : v.userdata = w.userdata) : w.KeepsPayloads but v := by
  intro u _ _
  rw [userdatum, userdatum, same]

/-- Userdata that are still there have kept their payloads. -/
theorem KeepsPayloads.of_kept
    (kept : ∀ (i : Nat) (d : Userdata), w.userdata[i]? = some d → v.userdata[i]? = some d) :
    w.KeepsPayloads but v := by
  intro u inside _
  have known := Array.getElem?_eq_getElem inside
  rw [userdatum, userdatum, Array.getD_eq_getD_getElem?, Array.getD_eq_getD_getElem?, known,
    kept _ _ known]

/-- The payloads are all that counts of a world. -/
theorem KeepsPayloads.congr (kept : w.KeepsPayloads but v) (same : x.userdata = v.userdata) :
    w.KeepsPayloads but x := by
  intro u inside other
  rw [userdatum, same]
  exact kept u inside other

/-- So many values have been pushed, and all userdata are as they were. -/
structure Adds (w v : World) (count : Nat) : Prop where
  length : v.state.stack.length = w.state.stack.length + count
  kept (i : Nat) (d : Userdata) (known : w.userdata[i]? = some d) : v.userdata[i]? = some d

/-- A userdata with a metatable is there. -/
theorem inside_of_metatable {u : UserdataId} {mt : TableId}
    (tagged : (w.userdatum u).metatable = some mt) : u.index < w.userdata.size := by
  refine Nat.lt_of_not_le fun outside => ?_
  rw [userdatum, Array.getD_eq_getD_getElem?, Array.getElem?_eq_none outside] at tagged
  cases tagged

end World

namespace ScriptM

variable {w : World} {c : Context} {u : UserdataId}

/-! ## Writing -/

/-- The payload of every userdata after the first argument got a new value. -/
theorem payload_writeReceiver {v : Variant} (held : w.state.value? 1 = some (.userdata u))
    (inside : u.index < w.userdata.size) (k : UserdataId) :
    ((writeReceiver v w).2.userdatum k).payload =
      if k = u then .variant v else (w.userdatum k).payload := by
  -- the first argument is a userdata, so it is the one that is written
  have written : writeReceiver v w =
      ScriptM.modifyUserdata u (fun old => { old with payload := .variant v }) w := by
    unfold writeReceiver
    rw [run_bind, run_state]
    dsimp only
    rw [State.toUserdata?_eq_some.mpr held]
  have modified : ∀ f, (ScriptM.modifyUserdata u f w).2.userdata = w.userdata.modify u.index f :=
    fun _ => rfl
  rw [written, World.userdatum, modified, Array.getD_eq_getD_getElem?, Array.getElem?_modify]
  by_cases here : k = u
  · subst here
    rw [if_pos rfl, if_pos rfl, Array.getElem?_eq_getElem inside]
    rfl
  · rw [if_neg here, if_neg fun same => here (congrArg UserdataId.mk same).symm, World.userdatum,
      Array.getD_eq_getD_getElem?]

theorem state_writeReceiver (v : Variant) (w : World) :
    (writeReceiver v w).2.state = w.state ∧ (writeReceiver v w).2.hosts = w.hosts ∧
      (writeReceiver v w).2.tables = w.tables ∧
      (writeReceiver v w).2.userdata.size = w.userdata.size := by
  unfold writeReceiver
  rw [run_bind, run_state]
  dsimp only
  cases w.state.toUserdata? 1 with
  | none => exact ⟨rfl, rfl, rfl, rfl⟩
  | some u => exact ⟨rfl, rfl, rfl, Array.size_modify ..⟩

/-! ## Pushing the result -/

theorem userdata_plainObjectMetatable (framed : w.state.Framed) :
    (plainObjectMetatable w).2.userdata = w.userdata := by
  -- the mark is an entry of a table
  have marked : ∀ (mt : TableId) (v : World),
      ((do
        if !((← get).table mt).readonly then
          setText mt objectMark (.boolean true)
        return mt : ScriptM TableId) v).2.userdata = v.userdata := by
    intro mt v
    rw [run_bind, run_get]
    dsimp only
    cases locked : (v.table mt).readonly with
    | true => rfl
    | false =>
      show ((setText mt objectMark (.boolean true) >>= fun _ => pure mt : ScriptM TableId)
        v).2.userdata = v.userdata
      rw [run_bind, run_setText, if_neg (Bool.eq_false_iff.mp locked)]
      rfl
  unfold plainObjectMetatable
  rw [run_bind, run_instanceMetatable _ framed]
  cases w.metatableNamed Tag.object.name with
  | some mt => exact marked mt w
  | none => exact marked _ (w.registering Tag.object.name)

/-- A listed object is pushed. -/
theorem pushObject_adds {id : ObjectId} (framed : w.state.Framed) (housed : w.Houses w.state)
    (context : w.state.context = some c) {o : EngineObject}
    (listed : (w.host c.host).classes.object? id = some o) :
    ∃ v, pushObject id w = (.ok (), v) ∧ w.Adds v 1 := by
  have framed' : (w.asking [(c.host, .className id)]).state.Framed := framed
  rw [run_pushObject_asked id context, ClassDb.classOf_of_object? listed]
  dsimp only
  -- it gets the metatable of the nearest class that has one, or else that of plain objects
  cases ((w.registry c.registry).ancestors o.cls).findSome? fun k => w.metatableNamed k.name with
  | some mt =>
    refine ⟨_, run_pushTagged _ mt _, List.length_append, fun i d known => ?_⟩
    exact getElem?_push_kept known _
  | none =>
    obtain ⟨mt, v, ran, restored, -⟩ := run_plainObjectMetatable framed' housed
    have same := userdata_plainObjectMetatable framed'
    rw [ran] at same
    dsimp only
    rw [run_bind, ran]
    refine ⟨_, run_pushTagged _ mt v, ?_, fun i d known => ?_⟩
    · show (v.state.stack ++ [_]).length = _
      rw [List.length_append, restored.stack]
      rfl
    · have known : v.userdata[i]? = some d := same ▸ known
      exact getElem?_push_kept known _

/-- A value is pushed, unless it is an object that is not listed. -/
theorem pushVariant_adds (framed : w.state.Framed) (housed : w.Houses w.state)
    (context : w.state.context = some c) {v : Variant} (there : ¬ w.Dangling c v) :
    ∃ x, pushVariant v w = (.ok (), x) ∧ w.Adds x 1 := by
  by_cases object : ∃ id, v = .object id
  · obtain ⟨id, rfl⟩ := object
    obtain ⟨o, listed⟩ : ∃ o, (w.host c.host).classes.object? id = some o :=
      Option.ne_none_iff_exists'.mp fun lost => there ⟨id, rfl, lost⟩
    exact pushObject_adds framed housed context listed
  · have plain : ∀ id, v ≠ .object id := fun id same => object ⟨id, same⟩
    obtain ⟨_, x, pushed, gains, -⟩ := pushVariant_represents framed plain
    exact ⟨x, pushed, by rw [gains.stack, List.length_append]; rfl, gains.userdata⟩

/-- The result of a method is pushed if there is one. It is refused if it is an object that is not
listed. -/
theorem pushResult_adds (framed : w.state.Framed) (housed : w.Houses w.state)
    (context : w.state.context = some c) (m : Method) (result : Variant) :
    (∃ x, pushResult m result w = (.ok (resultCount m), x) ∧ w.Adds x (resultCount m)) ∨
      m.result.isSome = true ∧ w.Dangling c result ∧
        ∃ e x, pushResult m result w = (.error e, x) ∧ x.userdata = w.userdata := by
  unfold pushResult resultCount
  by_cases mute : m.result.isNone = true
  · rw [if_pos mute, if_pos mute]
    exact .inl ⟨w, rfl, rfl, fun _ _ known => known⟩
  · rw [if_neg mute, if_neg mute]
    -- of all results only an object that is not listed can be refused
    by_cases dangling : w.Dangling c result
    · obtain ⟨id, rfl, lost⟩ := dangling
      have declared : m.result.isSome = true := by simpa [Option.isSome_iff_ne_none] using mute
      refine .inr ⟨declared, ⟨id, rfl, lost⟩, .host (.invalidObject id.number),
        w.asking [(c.host, .className id)], ?_, rfl⟩
      rw [run_bind, show pushVariant (.object id) w = _ from run_pushObject_lost context lost]
    · obtain ⟨x, pushed, adds⟩ := pushVariant_adds framed housed context dangling
      refine .inl ⟨x, ?_, adds⟩
      rw [run_bind, pushed]
      rfl

end ScriptM

/-! ## Calls -/

/-- A call of a method in the frame of `w` has got to the host, which has granted it: with which
receiver and arguments, with what result, and what it has left of the receiver. -/
structure Granted (w : World) (name : String) (c : Context) (u : UserdataId) (receiver : Variant)
    (m : Method) (args : List Variant) (result changed : Variant) : Prop where
  context : w.state.context = some c
  held : w.state.value? 1 = some (.userdata u)
  carried : (w.userdatum u).payload = .variant receiver
  declared : ∃ b, (w.registry c.registry).builtin? receiver.tag.name = some b ∧
    b.method? name = some m
  nonstatic : m.flags.isStatic = false
  accepts : Accepts w c 2 m args
  answer : (w.host c.host).engine.call receiver m.name args = (.ok result, changed)

/-- What becomes of the payloads in a call that the host has granted. -/
structure Granted.Leaves (w v : World) (u : UserdataId) (receiver : Variant) (m : Method)
    (changed : Variant) : Prop where
  written : (v.userdatum u).payload = .variant (if m.flags.isConst then receiver else changed)
  others : w.KeepsPayloads (some u) v

/-- Pushing adds userdata and changes none, so what became of the payloads is still so afterwards. -/
theorem Granted.Leaves.later {w x v : World} {u : UserdataId} {receiver changed : Variant}
    {m : Method} (leaves : Granted.Leaves w x u receiver m changed)
    (inside : u.index < w.userdata.size) (size : x.userdata.size = w.userdata.size)
    (kept : ∀ (i : Nat) (d : Userdata), x.userdata[i]? = some d → v.userdata[i]? = some d) :
    Granted.Leaves w v u receiver m changed := by
  have same : x.KeepsPayloads none v := World.KeepsPayloads.of_kept kept
  refine ⟨(same u (size ▸ inside) nofun).trans leaves.written, fun k known other => ?_⟩
  exact (same k (size ▸ known) nofun).trans (leaves.others k known other)

/-- How the call of a method of the first argument finishes. -/
inductive Finishes (w : World) (name : String) : Except ScriptError Nat → World → Prop
  /-- It is refused, by the host at last. -/
  | refused {e : ScriptError} {v : World} (kept : w.KeepsPayloads none v) :
      Finishes w name (.error e) v
  | granted {c : Context} {u : UserdataId} {receiver : Variant} {m : Method} {args : List Variant}
      {result changed : Variant} {v : World}
      (granted : Granted w name c u receiver m args result changed)
      (leaves : Granted.Leaves w v u receiver m changed)
      (length : v.state.stack.length = w.state.stack.length + resultCount m) :
      Finishes w name (.ok (resultCount m)) v
  /-- The host has granted it, but the result is an object that the host does not list. -/
  | lost {c : Context} {u : UserdataId} {receiver : Variant} {m : Method} {args : List Variant}
      {result changed : Variant} {e : ScriptError} {v : World}
      (granted : Granted w name c u receiver m args result changed)
      (leaves : Granted.Leaves w v u receiver m changed) (declared : m.result.isSome = true)
      (dangling : w.Dangling c result) : Finishes w name (.error e) v

namespace ScriptM

variable {w : World} {c : Context} {u : UserdataId} {receiver : Variant} {m : Method}
  {args : List Variant} {name : String}

/-- A resolved method asks the host; what is granted is written back and pushed. -/
theorem run_callResolved (c : Context) (target : Variant) (m : Method) (args : List Variant)
    (w : World) :
    callResolved c target m args w =
      match (w.host c.host).engine.call target m.name args with
      | (.error e, _) => (.error (.host e), w.asking [(c.host, .call target m.name args)])
      | (.ok result, changed) =>
        pushResult m result (if m.flags.isConst then w.asking [(c.host, .call target m.name args)]
          else (writeReceiver changed (w.asking [(c.host, .call target m.name args)])).2) := by
  have asked : askCall c.host target m.name args w =
      (.ok ((w.host c.host).engine.call target m.name args),
        w.asking [(c.host, .call target m.name args)]) := by
    rw [World.asking_one]
    rfl
  unfold callResolved
  rw [run_bind, asked]
  dsimp only
  -- what follows depends on the answer alone
  generalize (w.host c.host).engine.call target m.name args = answered
  obtain ⟨answer, changed⟩ := answered
  cases answer with
  | error e => rfl
  | ok result =>
    cases m.flags.isConst with
    | true => rfl
    | false =>
      have wrote : ∀ x : World, (writeReceiver changed x).1 = .ok () := by
        intro x
        unfold writeReceiver
        rw [run_bind, run_state]
        dsimp only
        cases x.state.toUserdata? 1 <;> rfl
      show (writeReceiver changed >>= fun _ => pushResult m result : ScriptM Nat) _ =
        pushResult m result (writeReceiver changed _).2
      rw [run_bind]
      have wrote := wrote (w.asking [(c.host, .call target m.name args)])
      generalize writeReceiver changed (w.asking [(c.host, .call target m.name args)]) = written
        at wrote ⊢
      obtain ⟨r, v⟩ := written
      cases wrote
      rfl

/-- What the host has left of the receiver is written back, unless the method is constant. -/
def writtenBack (m : Method) (changed : Variant) (w : World) : World :=
  if m.flags.isConst then w else (writeReceiver changed w).2

theorem state_writtenBack (m : Method) (changed : Variant) (w : World) :
    (writtenBack m changed w).state = w.state ∧ (writtenBack m changed w).hosts = w.hosts ∧
      (writtenBack m changed w).tables = w.tables ∧
      (writtenBack m changed w).userdata.size = w.userdata.size := by
  unfold writtenBack
  split
  · exact ⟨rfl, rfl, rfl, rfl⟩
  · exact state_writeReceiver changed w

theorem leaves_writtenBack (held : w.state.value? 1 = some (.userdata u))
    (inside : u.index < w.userdata.size) (carried : (w.userdatum u).payload = .variant receiver)
    (m : Method) (changed : Variant) :
    Granted.Leaves w (writtenBack m changed w) u receiver m changed := by
  unfold writtenBack
  cases constant : m.flags.isConst with
  | true =>
    rw [if_pos rfl]
    exact ⟨by rw [constant]; exact carried, .of_eq rfl⟩
  | false =>
    have payload := payload_writeReceiver (v := changed) held inside
    rw [if_neg Bool.false_ne_true]
    refine ⟨?_, fun k _ other => ?_⟩
    · rw [payload, if_pos rfl, constant]
      rfl
    · rw [payload, if_neg fun here => other (congrArg some here.symm)]

/-- A method whose arguments have been accepted. Before that, the host may have been asked for the
classes of objects. -/
theorem callResolved_finishes (framed : w.state.Framed) (housed : w.Houses w.state)
    (context : w.state.context = some c) (held : w.state.value? 1 = some (.userdata u))
    (inside : u.index < w.userdata.size) (carried : (w.userdatum u).payload = .variant receiver)
    (declared : ∃ b, (w.registry c.registry).builtin? receiver.tag.name = some b ∧
      b.method? name = some m)
    (nonstatic : m.flags.isStatic = false) (accepts : Accepts w c 2 m args)
    (qs : List (Nat × Request)) :
    Finishes w name (callResolved c receiver m args (w.asking qs)).1
      (callResolved c receiver m args (w.asking qs)).2 := by
  rw [run_callResolved]
  cases answer : (w.host c.host).engine.call receiver m.name args with
  | mk r changed =>
    rw [show ((w.asking qs).host c.host).engine.call receiver m.name args = _ from answer]
    cases r with
    | error e => exact .refused (.of_eq rfl)
    | ok result =>
      have granted : Granted w name c u receiver m args result changed :=
        ⟨context, held, carried, declared, nonstatic, accepts, answer⟩
      let asked := (w.asking qs).asking [(c.host, .call receiver m.name args)]
      show Finishes w name (pushResult m result (writtenBack m changed asked)).1
        (pushResult m result (writtenBack m changed asked)).2
      have written : Granted.Leaves asked (writtenBack m changed asked) u receiver m changed :=
        leaves_writtenBack (w := asked) held inside carried m changed
      have leaves : Granted.Leaves w (writtenBack m changed asked) u receiver m changed :=
        ⟨written.written, written.others⟩
      obtain ⟨state, hosts, tables, size⟩ := state_writtenBack m changed asked
      generalize writtenBack m changed asked = x at leaves state hosts tables size ⊢
      have housed : x.Houses x.state := by
        intro p mem
        rw [tables]
        exact housed p (state ▸ mem)
      rcases pushResult_adds (state ▸ framed) housed (state ▸ context) m result with
        ⟨v, pushed, adds⟩ | ⟨declared, ⟨id, object, lost⟩, e, v, refused, same⟩
      · rw [pushed]
        exact .granted granted (leaves.later inside size adds.kept) (state ▸ adds.length)
      -- the receiver has been written by the time that the result is refused
      · rw [refused]
        rw [World.host, hosts] at lost
        exact .lost granted (leaves.later inside size fun i d known => same ▸ known) declared
          ⟨id, object, lost⟩

/-- How a method call finishes, whatever the host is and does. -/
theorem callBuiltinMethod_finishes (framed : w.state.Framed) (housed : w.Houses w.state)
    (name : String) :
    Finishes w name (callBuiltinMethod name w).1 (callBuiltinMethod name w).2 := by
  have still : ∀ e, Finishes w name (.error e) w := fun _ => .refused (.of_eq rfl)
  rw [run_callBuiltinMethod]
  cases valid : w.anyBuiltinAt? 1 with
  | none => exact still _
  | some receiver =>
    dsimp only
    cases context : w.state.context with
    | none => exact still _
    | some c =>
      dsimp only
      cases type : (w.registry c.registry).builtin? receiver.tag.name with
      | none => exact still _
      | some b =>
        dsimp only
        cases method : instanceMethod? b name with
        | none => exact still _
        | some m =>
          obtain ⟨declared, nonstatic⟩ := instanceMethod?_eq_some.mp method
          obtain ⟨u, tested, carried⟩ := World.anyBuiltinAt?_eq_some.mp valid
          obtain ⟨held, mt, -, tagged⟩ := World.testUserdata?_eq_some.mp tested
          -- the arguments are checked before the host is asked, which leaves the world as it was
          obtain ⟨qs, -, run⟩ := (Inquires.collectArgs c 2 m).run_bind (callResolved c receiver m) w
          dsimp only
          rw [run]
          cases answer : (collectArgs c 2 m w).1 with
          | error e => exact .refused (.of_eq rfl)
          | ok args =>
            exact callResolved_finishes framed housed context held
              (World.inside_of_metatable tagged) carried ⟨b, type, declared⟩ nonstatic
              (collectArgs_eq_ok.mp answer) qs

end ScriptM

/-! ## Calls by scripts -/

/-- The name of the method that a handler has been called for: the one in the namecall slot, or the
one that a fetched method carries. -/
def Handler.methodName? (h : Handler) (s : State) : Option String :=
  match h with
  | .builtinNamecall => s.namecall
  | .builtinMethod => ScriptM.upvalueText? s 1
  | _ => none

/-- The handlers of calls of builtin methods. -/
def Handler.CallsMethod (h : Handler) : Prop := h = .builtinNamecall ∨ h = .builtinMethod

/-- What a call has made of the payloads, whose handler started in the frame of `e`. -/
inductive WritesBack (e : World) (h : Handler) {α : Type} : Except ScriptError α → World → Prop
  /-- It has failed and changed nothing. -/
  | refused {x : ScriptError} {v : World} (kept : e.KeepsPayloads none v) :
      WritesBack e h (.error x) v
  /-- It has succeeded, since the host has granted it, and the receiver has been written. -/
  | granted {name : String} {c : Context} {u : UserdataId} {receiver : Variant} {m : Method}
      {args : List Variant} {result changed : Variant} {a : α} {v : World}
      (called : h.methodName? e.state = some name)
      (granted : Granted e name c u receiver m args result changed)
      (leaves : Granted.Leaves e v u receiver m changed) : WritesBack e h (.ok a) v
  /-- The host has granted it and the receiver has been written, but it has failed: it has a result,
  which is an object that the host does not list. -/
  | lost {name : String} {c : Context} {u : UserdataId} {receiver : Variant} {m : Method}
      {args : List Variant} {result changed : Variant} {x : ScriptError} {v : World}
      (called : h.methodName? e.state = some name)
      (granted : Granted e name c u receiver m args result changed)
      (leaves : Granted.Leaves e v u receiver m changed) (declared : m.result.isSome = true)
      (dangling : e.Dangling c result) : WritesBack e h (.error x) v

variable {w e v x : World} {name : String} {h : Handler} {f : FunctionId}

theorem Granted.Leaves.congr {u : UserdataId} {receiver changed : Variant} {m : Method}
    (leaves : Granted.Leaves w v u receiver m changed) (same : x.userdata = v.userdata) :
    Granted.Leaves w x u receiver m changed := by
  refine ⟨?_, leaves.others.congr same⟩
  rw [World.userdatum, same]
  exact leaves.written

/-- A call has written nothing if the host has left the receiver as it was. -/
theorem Granted.Leaves.unwritten {u : UserdataId} {receiver : Variant} {m : Method}
    (carried : (w.userdatum u).payload = .variant receiver)
    (leaves : Granted.Leaves w v u receiver m receiver) : w.KeepsPayloads none v := by
  intro k inside _
  by_cases here : k = u
  · subst here
    rw [leaves.written, carried, ite_self]
  · exact leaves.others k inside fun same => here (Option.some.inj same).symm

/-- What a method call makes of the payloads is how it finishes. -/
theorem Finishes.writesBack {r : Except ScriptError Nat}
    (called : h.methodName? w.state = some name) (finishes : Finishes w name r v) :
    WritesBack w h r v := by
  cases finishes with
  | refused kept => exact .refused kept
  | granted granted leaves _ => exact .granted called granted leaves
  | lost granted leaves declared dangling => exact .lost called granted leaves declared dangling

namespace WritesBack

/-- Of what a call ends in, only the payloads count and whether it has failed. -/
theorem congr {α β : Type} {r : Except ScriptError α} {r' : Except ScriptError β}
    (writes : WritesBack e h r v) (ends : r'.isOk = r.isOk) (same : x.userdata = v.userdata) :
    WritesBack e h r' x := by
  cases r' with
  | error y =>
    cases writes with
    | refused kept => exact .refused (kept.congr same)
    | granted => cases ends
    | lost called granted leaves declared dangling =>
      exact .lost called granted (leaves.congr same) declared dangling
  | ok b =>
    cases writes with
    | granted called granted leaves => exact .granted called granted (leaves.congr same)
    | refused => cases ends
    | lost => cases ends

/-- Where the host vouches for its receivers, a failed call has changed no payload. -/
theorem kept {α : Type} {y : ScriptError}
    (vouches : ∀ c, e.state.context = some c → (e.host c.host).Vouches)
    (writes : WritesBack (α := α) e h (.error y) v) : e.KeepsPayloads none v := by
  cases writes with
  | refused kept => exact kept
  | lost _ granted leaves _ dangling =>
    obtain ⟨id, rfl, lost⟩ := dangling
    -- the receiver has been written by now, but with what it carried
    obtain rfl := vouches _ granted.context _ _ _ _ _ granted.answer lost
    exact leaves.unwritten granted.carried

end WritesBack

namespace ScriptM

variable {n slot : Nat}

/-- A handler of method calls calls the method that it has been called for. -/
theorem run_methodHandler (calls : h.CallsMethod) (w : World) :
    (∃ name, h.methodName? w.state = some name ∧ h.run w = callBuiltinMethod name w) ∨
      ∃ x, h.run w = (.error x, w) := by
  rcases calls with rfl | rfl
  · show (∃ name, w.state.namecall = some name ∧ builtinNamecall w = _) ∨
      ∃ x, builtinNamecall w = (.error x, w)
    rw [run_builtinNamecall]
    cases w.state.namecall with
    | none => exact .inr ⟨_, rfl⟩
    | some name => exact .inl ⟨name, rfl, rfl⟩
  · show (∃ name, upvalueText? w.state 1 = some name ∧ builtinMethod w = _) ∨
      ∃ x, builtinMethod w = (.error x, w)
    rw [run_builtinMethod]
    cases upvalueText? w.state 1 with
    | none => exact .inr ⟨_, rfl⟩
    | some name => exact .inl ⟨name, rfl, rfl⟩

/-- A function whose handler calls methods, in a frame of its own. The results that it reports are
on the stack, so nothing goes wrong after the handler has succeeded. -/
theorem invoke_writesBack (n : Nat) (wanted : Option Nat) (inside : slot < w.state.stack.length)
    (housed : w.Houses w.state) (known : w.handler? f = some h) (calls : h.CallsMethod) :
    WritesBack (w.entered slot f) h (invoke (runAt n) slot f wanted w).1
      (invoke (runAt n) slot f wanted w).2 := by
  have unchanged : ∀ (x : ScriptError) (v : World), v.userdata = w.userdata →
      WritesBack (α := Unit) (w.entered slot f) h (.error x) v :=
    fun x v same => .refused (.of_eq same)
  rw [run_invoke]
  split
  · exact unchanged _ _ rfl
  cases n with
  | zero => exact unchanged _ _ rfl
  | succ n =>
    rw [runAt_handler (w := w.entered slot f) known]
    have framed : (w.entered slot f).state.Framed := inside
    rcases run_methodHandler calls (w.entered slot f) with ⟨name, called, ran⟩ | ⟨x, ran⟩
    · have finishes := callBuiltinMethod_finishes framed housed name
      rw [← ran] at finishes
      generalize h.run (w.entered slot f) = ended at finishes
      obtain ⟨r, v⟩ := ended
      dsimp only at finishes
      have writes := finishes.writesBack called
      cases r with
      | error x => exact writes.congr rfl rfl
      | ok pushed =>
        -- as many results are reported as have been pushed, so the frame is not found too short
        have room : ¬ v.state.stack.length < slot + 1 + pushed := by
          cases finishes with
          | granted _ _ length =>
            have same : (w.entered slot f).state.stack.length = w.state.stack.length := rfl
            omega
        dsimp only
        rw [if_neg room]
        exact writes.congr rfl rfl
    · rw [ran]
      exact unchanged _ _ rfl

end ScriptM

open ScriptM

/-- What holds of every call of a builtin method that a script can make in the frame of `w`, through
the receiver's `__namecall` handler or of a function that has been fetched: of the frame in which the
handler starts, and of what the call ends in. -/
def World.EachMethodCall (w : World)
    (P : World → Handler → Except ScriptError Unit → World → Prop) : Prop :=
  ∀ {args : Nat} {f : FunctionId} {h : Handler} (wanted : Option Nat) (how : ScriptCall) (n : Nat),
    args < w.state.top → how.target? w (slotBelow w args) = some f → w.handler? f = some h →
    h.CallsMethod →
    P ((how.called w (slotBelow w args) f).entered (slotBelow w args) f) h
      (how.run n args wanted w).1 (how.run n args wanted w).2

theorem World.writesBack {w : World} (housed : w.Houses w.state) :
    w.EachMethodCall fun e h r v => WritesBack e h r v := by
  intro args f h wanted how n held target known calls
  obtain ⟨held', slot, -, here⟩ := ScriptCall.calledIn held target
  -- either way the handler is called in a slot of the frame, with the receiver above it
  have inside : slotBelow w args < (how.called w (slotBelow w args) f).state.stack.length := by
    have high := (State.slot_bounds held').2
    rwa [← slotBelow, slot] at high
  have callee : (how.called w (slotBelow w args) f).callee?
      (slotBelow (how.called w (slotBelow w args) f) (how.passed args)) =
        some (f, how.called w (slotBelow w args) f) := by
    rw [slot]
    exact callee?_function here
  have ran : call (runAt n) (how.passed args) wanted (how.called w (slotBelow w args) f) =
      invoke (runAt n) (slotBelow w args) f wanted (how.called w (slotBelow w args) f) := by
    rw [run_call_callee _ wanted held' callee, slot]
  cases how with
  | function =>
    have writes := invoke_writesBack n wanted inside housed known calls
    rwa [← ran] at writes
  | method name =>
    have writes := invoke_writesBack n wanted inside housed known calls
    rw [← ran] at writes
    show WritesBack _ h (callMethod (runAt n) name args wanted w).1
      (callMethod (runAt n) name args wanted w).2
    rw [ScriptCall.run_handled _ wanted held (ScriptCall.handler_of_target target)]
    exact writes.congr rfl rfl

/-- Whatever the hosts are and do, a method call of a script changes no payload, or the host has
granted it. In that case the receiver has what the host has left of it, unless the method is constant,
and no other payload has changed. The call has then succeeded, unless it is to return an object that
the host does not list. Where the host vouches for its receivers, a call that fails has changed no
payload, and so it is at every moment of a run of a session. -/
theorem receiver_written_back (w : World) :
    (w.Houses w.state → w.EachMethodCall fun e h r v =>
      WritesBack e h r v ∧
        ((∀ c, e.state.context = some c → (e.host c.host).Vouches) →
          ∀ x, r = .error x → e.KeepsPayloads none v)) ∧
      ∀ es : List Session.Event, Session.Moment es w → w.EachMethodCall fun e h r v =>
        WritesBack e h r v ∧ ∀ x, r = .error x → e.KeepsPayloads none v := by
  constructor
  · intro housed args f h wanted how n held target known calls
    have writes := w.writesBack housed wanted how n held target known calls
    refine ⟨writes, fun vouches x failed => ?_⟩
    rw [failed] at writes
    exact writes.kept vouches
  · intro es moment args f h wanted how n held target known calls
    have writes := w.writesBack moment.houses wanted how n held target known calls
    refine ⟨writes, fun x failed => ?_⟩
    rw [failed] at writes
    -- the frame of the handler has the hosts of the world
    exact writes.kept fun c _ => by cases how <;> exact moment.vouches c.host

/-- A description of a type with a method that is not constant, called so, with one argument of the
type or with an object for a result. -/
def changerText (name declaration : String) : String :=
  "\x7b\"header\":\x7b\x7d,\"builtin_classes\":[\x7b\"name\":\"Vector2i\",\"methods\":[" ++
    "\x7b\"name\":\"" ++ name ++ "\"," ++ declaration ++ "\x7d]\x7d]\x7d"

/-- A run that opens a library with a method that changes its receiver, and pushes two values. -/
def changing (name declaration : String) : List Session.Event :=
  [.command (.newRuntime
      { api := some (.document (changerText name declaration))
        shared := false
        host := some (.fresh .plain)
        builtins := true
        classes := false
        enums := false }),
    .command (.run (.pushBuiltin (.vector2i ⟨1, 2⟩))),
    .command (.run (.pushBuiltin (.vector2i ⟨3, 4⟩)))]

/-- The first value becomes equal to the second. -/
theorem receiver_written_back_become :
    let es := changing "become" "\"arguments\":[\x7b\"name\":\"other\",\"type\":\"Vector2i\"\x7d]"
    let w := (Session.after es).world
    let ended := (ScriptCall.method "become").run 1 1 none w
    Session.Moment es w ∧ 1 < w.state.top ∧
      (ScriptCall.method "become").target? w (slotBelow w 1) = some ⟨1⟩ ∧
      w.handler? ⟨1⟩ = some .builtinNamecall ∧ Handler.builtinNamecall.CallsMethod ∧
      WritesBack (((ScriptCall.method "become").called w (slotBelow w 1) ⟨1⟩).entered
        (slotBelow w 1) ⟨1⟩) .builtinNamecall ended.1 ended.2 ∧
      ended.1 = .ok () ∧ (ended.2.userdatum ⟨0⟩).payload = .variant (.vector2i ⟨3, 4⟩) ∧
      (ended.2.userdatum ⟨1⟩).payload = .variant (.vector2i ⟨3, 4⟩) := by
  intro es w ended
  have moment : Session.Moment es w := .last es
  have facts : 1 < w.state.top ∧
      (ScriptCall.method "become").target? w (slotBelow w 1) = some ⟨1⟩ ∧
      w.handler? ⟨1⟩ = some .builtinNamecall ∧ ended.1 = .ok () ∧
      (ended.2.userdatum ⟨0⟩).payload = .variant (.vector2i ⟨3, 4⟩) ∧
      (ended.2.userdatum ⟨1⟩).payload = .variant (.vector2i ⟨3, 4⟩) := by
    decide +kernel
  obtain ⟨held, target, known, succeeds, written, kept⟩ := facts
  have calls : Handler.builtinNamecall.CallsMethod := .inl rfl
  obtain ⟨writes, -⟩ :=
    (receiver_written_back w).2 es moment none (.method "become") 1 held target known calls
  exact ⟨moment, held, target, known, calls, writes, succeeds, written, kept⟩

/-- A host that turns every receiver into a vector and answers an object, which it does not list. -/
def careless : Host :=
  { engine := { Engine.reference with
      call := fun _ _ _ => (.ok (.object ⟨7⟩), .vector2i ⟨9, 9⟩) }
    classes := ClassDb.core }

/-- With such a host, the call of a method that is to return an object fails, and has changed its
receiver. -/
theorem receiver_written_back_lost :
    let es := changing "detach" "\"return_type\":\"Object\""
    let w := { (Session.after es).world with hosts := #[careless] }
    let ended := (ScriptCall.method "detach").run 1 0 none w
    (careless.classes.object? ⟨7⟩).isNone ∧
      (w.userdatum ⟨1⟩).payload = .variant (.vector2i ⟨3, 4⟩) ∧
      w.handler? ⟨1⟩ = some .builtinNamecall ∧
      (ScriptCall.method "detach").target? w (slotBelow w 0) = some ⟨1⟩ ∧
      ended.1 = .error (.host (.invalidObject 7)) ∧
      (ended.2.userdatum ⟨1⟩).payload = .variant (.vector2i ⟨9, 9⟩) := by
  decide +kernel

end ScriptBind
