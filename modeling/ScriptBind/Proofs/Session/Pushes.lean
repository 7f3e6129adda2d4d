import ScriptBind.Proofs.Session.Handles

/-!
# Engine values on the stack

Every engine value has a script representation, and none of them needs room or a type of its own
that might not be there: a metatable that is not registered yet is made on the way. What can go
wrong is only the class of an object, which the host is asked for. It knows the classes of the
objects that it lists, so an object that has been freed, or never was, is refused, before the stack
has been touched.

Main results:

* `ends_pushVariant` — how the push of an engine value ends.
* `variant_pushed` — a value comes on the stack unless it is an object that is not listed.
-/

namespace ScriptBind

open ScriptM

/-- The value is an object that the host does not list: it has been freed, or it never was. -/
def World.Dangling (w : World) (c : Context) (v : Variant) : Prop :=
  ∃ id, v = .object id ∧ (w.host c.host).classes.object? id = none

theorem ClassDb.classOf_of_not_listed {db : ClassDb} {id : ObjectId} (lost : db.object? id = none) :
    db.classOf id = .error (.invalidObject id.number) := by
  unfold object? at lost
  rw [classOf, lost]

namespace ScriptM

variable {w : World} {c : Context} {id : ObjectId} {v : Variant}

/-! ## How a push ends -/

/-- A metatable for the type of a value is found or made, and a new userdata has it and carries the
value. -/
theorem pushBuiltin_ok (framed : w.state.Framed) (v : Variant) :
    ∃ mt y, pushBuiltin v w = (.ok (), y) ∧
      y.state.value? (-1) = some (.userdata ⟨w.userdata.size⟩) ∧
      y.userdata[w.userdata.size]? = some ⟨.variant v, some mt⟩ ∧
      y.metatableNamed v.tag.name = some mt ∧ y.hosts = w.hosts := by
  unfold pushBuiltin
  rw [run_bind, run_instanceMetatable _ framed]
  cases known : w.metatableNamed v.tag.name with
  | some mt =>
    dsimp only
    rw [run_pushTagged]
    exact ⟨mt, _, rfl, State.value?_push framed _, Array.getElem?_push_size, known, rfl⟩
  | none =>
    have framed : (w.registering v.tag.name).state.Framed := framed
    dsimp only
    rw [run_pushTagged]
    exact ⟨_, _, rfl, State.value?_push framed _, Array.getElem?_push_size,
      Keyed.get?_put_self .., rfl⟩

theorem ends_pushBuiltin (framed : w.state.Framed) (v : Variant) :
    (pushBuiltin v w).1 = .ok () := by
  obtain ⟨_, _, ran, -⟩ := pushBuiltin_ok framed v
  rw [ran]

/-- An object is pushed if the host knows its class. -/
theorem ends_pushObject (framed : w.state.Framed) (housed : w.Houses w.state)
    (context : w.state.context = some c) {o : EngineObject}
    (listed : (w.host c.host).classes.object? id = some o) : (pushObject id w).1 = .ok () := by
  have framed : (w.asking [(c.host, .className id)]).state.Framed := framed
  rw [run_pushObject_asked id context, ClassDb.classOf_of_object? listed]
  dsimp only
  cases List.findSome? (fun k => w.metatableNamed k.name)
      ((w.registry c.registry).ancestors o.cls) with
  | some mt =>
    dsimp only
    rw [run_pushTagged]
  | none =>
    -- no class has a metatable, so it is the shared one
    obtain ⟨mt, u, ran, -⟩ := run_plainObjectMetatable framed housed
    dsimp only
    rw [run_bind, ran]
    dsimp only
    rw [run_pushTagged]

/-- An object that is not listed is refused once the host has been asked. -/
theorem run_pushObject_lost (context : w.state.context = some c)
    (lost : (w.host c.host).classes.object? id = none) :
    pushObject id w =
      (.error (.host (.invalidObject id.number)), w.asking [(c.host, .className id)]) := by
  rw [run_pushObject_asked id context, ClassDb.classOf_of_not_listed lost]
  rfl

/-- The push of a value succeeds unless the value is an object that is not listed. -/
theorem ends_pushVariant (framed : w.state.Framed) (housed : w.Houses w.state)
    (context : w.state.context = some c) (there : ¬ w.Dangling c v) :
    (pushVariant v w).1 = .ok () := by
  cases v with
  | object id =>
    cases listed : (w.host c.host).classes.object? id with
    | some o => exact ends_pushObject framed housed context listed
    | none => exact absurd ⟨id, rfl, listed⟩ there
  | vector2 _ | vector2i _ | vector3 _ | vector3i _ | color _ => exact ends_pushBuiltin framed _
  | _ => rfl

/-! ## At any moment of a run -/

/-- Wherever a run has got to, and in the midst of an operation too: the push of an engine value
succeeds and puts exactly one value on the stack, unless the value is an object that the host does
not list. Such an object is refused with its number, and nothing has changed but that the host has
been asked for its class. -/
theorem variant_pushed {es : List Session.Event} {u w : World} {c : Context}
    (moment : Session.Moment es u) (during : Evolves u w) (context : w.state.context = some c)
    (v : Variant) :
    (¬ w.Dangling c v → ∃ x w', pushVariant v w = (.ok (), w') ∧
      w'.state.frames = w.state.frames ∧ w'.state.stack = w.state.stack ++ [x]) ∧
    ∀ id, v = .object id → (w.host c.host).classes.object? id = none →
      pushVariant v w =
        (.error (.host (.invalidObject id.number)), w.asking [(c.host, .className id)]) := by
  have framed := during.framed moment.framed
  refine ⟨fun there => ?_, fun id is_object lost => ?_⟩
  · have ended := ends_pushVariant framed (during.houses moment.houses) context there
    obtain ⟨frames, stack⟩ := Pushes.pushVariant v w framed
    rw [ended] at stack
    obtain ⟨x, stack⟩ := stack
    exact ⟨x, _, Prod.ext ended rfl, frames, stack⟩
  · subst is_object
    exact run_pushObject_lost context lost

/-- A run that makes an object and frees it. -/
def nodeFreed : List Session.Event :=
  nodeMade ++ [.command (.run (.hostFree 0 ⟨1⟩))]

theorem variant_pushed_node :
    let w := (Session.after nodeFreed).world
    (∃ x w', pushVariant (.stringName "left") w = (.ok (), w') ∧
      w'.state.stack = w.state.stack ++ [x]) ∧
    (pushVariant (.object ⟨1⟩) w).1 = .error (.host (.invalidObject 1)) := by
  have facts :
      let w := (Session.after nodeFreed).world
      w.state.context = some ⟨0, 0⟩ ∧ (w.host 0).classes.object? ⟨1⟩ = none := by
    decide +kernel
  have moment := Session.Moment.last nodeFreed
  -- from here on it does not matter what led to the world
  generalize (Session.after nodeFreed).world = freed at facts moment ⊢
  obtain ⟨context, lost⟩ := facts
  intro w
  have pushes := variant_pushed moment (.refl w) context
  constructor
  · obtain ⟨x, w', ended, -, stack⟩ := (pushes (.stringName "left")).1 nofun
    exact ⟨x, w', ended, stack⟩
  · rw [(pushes (.object ⟨1⟩)).2 ⟨1⟩ rfl lost]

/-- An object is refused that has been freed by the time it is pushed. -/
theorem pushVariant_freed :
    let w := (Session.after nodeFreed).world
    w.state.context = some ⟨0, 0⟩ ∧
      (pushVariant (.object ⟨1⟩) w).1 = .error (.host (.invalidObject 1)) ∧
      (pushVariant (.object ⟨1⟩) w).2.state.stack = w.state.stack := by
  decide +kernel

end ScriptM

end ScriptBind
