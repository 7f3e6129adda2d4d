import ScriptBind.Proofs.Session.Construction
import ScriptBind.Proofs.Session.Conversions

/-!
# Objects on the stack

An object comes on the stack as a new userdata that carries its number and a metatable: the first one
that is registered for its class or an ancestor of it, or else the one that all other objects share.
It is read back as an object only if this metatable is marked.

The shared metatable gets its mark when an object is pushed, unless it is read-only, while a
metatable that stands under the name of a class is taken as it is. The opening of the class has
marked it, but it may as well have been registered by hand. So a pushed object is read back exactly
if the metatable that it is going to get is `Legible`, which the world before tells.

Main results:

* `run_plainObjectMetatable` — the shared metatable, and when it is marked.
* `pushObject_ok` — what is on the stack after an object has been pushed.
* `pushed_reads_back` — a pushed object is read back exactly if its metatable is marked.
-/

namespace ScriptBind

open ScriptM

namespace World

/-- The metatable that objects of a class get from their class or its nearest ancestor. -/
def classMetatable? (w : World) (c : Context) (cls : String) : Option TableId :=
  ((w.registry c.registry).ancestors cls).findSome? fun k => w.metatableNamed k.name

/-- The metatable that an object of a class is going to get is marked as an object metatable. The
shared one is marked on the way, unless it is read-only. -/
def Legible (w : World) (c : Context) (cls : String) : Prop :=
  match w.classMetatable? c cls with
  | some mt => w.isObjectMetatable mt = true
  | none => ∀ mt, w.metatableNamed Tag.object.name = some mt →
      (w.table mt).readonly = true → w.isObjectMetatable mt = true

end World

namespace ScriptM

variable {w : World} {c : Context} {id : ObjectId}

/-! ## The shared metatable -/

/-- A table takes the mark unless it is read-only. -/
theorem run_mark {mt : TableId} (inside : mt.index < w.tables.size) :
    ∃ v, (do
        if !((← get).table mt).readonly then
          setText mt objectMark (.boolean true)
        return mt : ScriptM TableId) w = (.ok mt, v) ∧ v.state = w.state ∧
      (v.isObjectMetatable mt = true ↔
        ((w.table mt).readonly = true → w.isObjectMetatable mt = true)) := by
  rw [run_bind, run_get]
  dsimp only
  -- a locked metatable stays as it is, with the mark or without it
  cases locked : (w.table mt).readonly with
  | true => exact ⟨w, rfl, rfl, fun marked _ => marked, fun all => all rfl⟩
  | false =>
    let marked := w.putTable mt ((w.table mt).entered objectMark (.boolean true))
    have mark : marked.isObjectMetatable mt = true := by
      rw [World.isObjectMetatable, World.table_putTable inside, Table.field_entered rfl]
      rfl
    refine ⟨marked, ?_, rfl, iff_of_true mark nofun⟩
    show (setText mt objectMark (.boolean true) >>= fun _ => pure mt : ScriptM TableId) w = _
    rw [run_bind, run_setText, if_neg (Bool.eq_false_iff.mp locked)]
    rfl

/-- The shared metatable is made when there is none, and marked unless it is read-only. -/
theorem run_plainObjectMetatable (framed : w.state.Framed) (housed : w.Houses w.state) :
    ∃ mt v, plainObjectMetatable w = (.ok mt, v) ∧ Restored w v ∧
      (v.isObjectMetatable mt = true ↔
        ∀ mt, w.metatableNamed Tag.object.name = some mt → (w.table mt).readonly = true →
          w.isObjectMetatable mt = true) := by
  unfold plainObjectMetatable
  rw [run_bind, run_instanceMetatable _ framed]
  cases registered : w.metatableNamed Tag.object.name with
  | some mt =>
    obtain ⟨v, ran, state, marked⟩ := run_mark (housed.of_named registered)
    refine ⟨mt, v, ran, ⟨congrArg State.stack state, congrArg State.frames state⟩, ?_⟩
    rw [marked]
    exact ⟨fun h t same => by cases same; exact h, fun h => h mt rfl⟩
  | none =>
    have inside : (⟨w.tables.size⟩ : TableId).index <
        (w.registering Tag.object.name).tables.size := by
      show _ < (w.tables.push Table.empty).size
      rw [Array.size_push]
      exact Nat.lt_succ_self _
    have new : (w.registering Tag.object.name).table ⟨w.tables.size⟩ = Table.empty := by
      have same : (w.registering Tag.object.name).table = w.table := w.table_push_empty
      rw [same]
      exact World.table_empty (Nat.le_refl _)
    obtain ⟨v, ran, state, marked⟩ := run_mark inside
    have state : v.state = (w.registering Tag.object.name).state := state
    refine ⟨⟨w.tables.size⟩, v, ran, ⟨by rw [state]; rfl, by rw [state]; rfl⟩, ?_⟩
    -- a new table is not read-only
    rw [marked, new]
    exact iff_of_true nofun fun _ => nofun

/-! ## What is pushed -/

/-- An object on the top of the stack is read back exactly if its metatable is marked. -/
theorem reads_withObject (framed : w.state.Framed) (id : ObjectId) (mt : TableId) :
    ((withObject w id mt).objectAt? (-1) = some id ↔ w.isObjectMetatable mt = true) ∧
      ((withObject w id mt).variantAt? (-1) = some (.object id) ↔
        w.isObjectMetatable mt = true) := by
  let u : UserdataId := ⟨w.userdata.size⟩
  have slot : (withObject w id mt).state.value? (-1) = some (.userdata u) :=
    State.value?_push framed _
  have held : (withObject w id mt).userdatum u = ⟨.object id, some mt⟩ := by
    rw [World.userdatum, Array.getD_eq_getD_getElem?]
    exact congrArg (Option.getD · _) Array.getElem?_push_size
  -- the new userdata holds the object, so it only remains to ask whether its metatable is marked
  have carried : (withObject w id mt).CarriesObject u id ↔ w.isObjectMetatable mt = true := by
    refine ⟨fun carried => ?_, fun marked => ⟨?_, mt, ?_, marked⟩⟩
    · obtain ⟨mt', tagged, marked⟩ := carried.marked
      rw [held] at tagged
      cases tagged
      exact marked
    · rw [held]
    · rw [held]
  constructor
  · rw [World.objectAt?_eq_some, ← carried]
    refine ⟨fun read => ?_, fun h => ⟨u, slot, h⟩⟩
    obtain ⟨_, same, h⟩ := read
    cases slot.symm.trans same
    exact h
  · rw [variantAt?_eq_some slot, ← carried]
    refine ⟨fun means => ?_, .object⟩
    cases means with
    | object h => exact h
    | value h =>
      have payload := h.payload
      rw [held] at payload
      cases payload

/-- When an object has been pushed, a userdata is on top of what was there, and the object is read
back from it exactly if its metatable is marked. -/
theorem pushObject_ok {v : World} (framed : w.state.Framed) (housed : w.Houses w.state)
    (context : w.state.context = some c) (pushed : pushObject id w = (.ok (), v)) :
    ∃ cls u, (w.host c.host).classes.classOf id = .ok cls ∧
      v.state.frames = w.state.frames ∧ v.state.stack = w.state.stack ++ [.userdata u] ∧
      (v.objectAt? (-1) = some id ↔ w.Legible c cls) ∧
      (v.variantAt? (-1) = some (.object id) ↔ w.Legible c cls) := by
  rw [run_pushObject_asked id context] at pushed
  cases reported : (w.host c.host).classes.classOf id with
  | error e =>
    rw [reported] at pushed
    cases pushed
  | ok cls =>
    rw [reported] at pushed
    dsimp only at pushed
    have framed : (w.asking [(c.host, .className id)]).state.Framed := framed
    -- the object gets the metatable of its nearest class that has one, or the one for all objects
    cases found : w.classMetatable? c cls with
    | some mt =>
      have legible : w.Legible c cls ↔ w.isObjectMetatable mt = true := by
        rw [World.Legible, found]
      unfold World.classMetatable? at found
      rw [found] at pushed
      dsimp only at pushed
      rw [run_pushTagged] at pushed
      cases pushed
      obtain ⟨object, variant⟩ := reads_withObject framed id mt
      exact ⟨cls, _, rfl, rfl, rfl, object.trans legible.symm, variant.trans legible.symm⟩
    | none =>
      have legible : w.Legible c cls ↔ ∀ mt, w.metatableNamed Tag.object.name = some mt →
          (w.table mt).readonly = true → w.isObjectMetatable mt = true := by
        rw [World.Legible, found]
      unfold World.classMetatable? at found
      rw [found] at pushed
      obtain ⟨mt, u, ran, restored, marked⟩ := run_plainObjectMetatable framed housed
      dsimp only at pushed
      rw [run_bind, ran] at pushed
      dsimp only at pushed
      rw [run_pushTagged] at pushed
      cases pushed
      obtain ⟨object, variant⟩ := reads_withObject (restored.framed framed) id mt
      refine ⟨cls, ⟨u.userdata.size⟩, rfl, restored.frames, ?_, ?_, ?_⟩
      · show u.state.stack ++ _ = _
        rw [restored.stack]
        rfl
      · exact (object.trans marked).trans legible.symm
      · exact (variant.trans marked).trans legible.symm

/-- The ways to push an object, which all come to the same. -/
def objectPushes (id : ObjectId) : List (ScriptM Unit) :=
  [pushObject id, pushNative (.object id), pushVariant (.object id)]

theorem eq_pushObject {push : ScriptM Unit} (h : push ∈ objectPushes id) : push = pushObject id := by
  simp only [objectPushes, List.mem_cons, List.not_mem_nil, or_false] at h
  rcases h with rfl | rfl | rfl <;> rfl

/-- Wherever a run has got to, and in the midst of an operation too: an object that is pushed is one
that the host lists, exactly one value comes on the stack, and the object is read back from it
exactly if the metatable of its class, or else the shared one, is marked or can still be. -/
theorem pushed_reads_back {es : List Session.Event} {u v : World} {push : ScriptM Unit}
    (moment : Session.Moment es u) (during : Evolves u w) (context : w.state.context = some c)
    (way : push ∈ objectPushes id) (pushed : push w = (.ok (), v)) :
    ∃ cls x, (w.host c.host).classes.classOf id = .ok cls ∧
      v.state.frames = w.state.frames ∧ v.state.stack = w.state.stack ++ [x] ∧
      (v.objectAt? (-1) = some id ↔ w.Legible c cls) ∧
      (v.variantAt? (-1) = some (.object id) ↔ w.Legible c cls) := by
  rw [eq_pushObject way] at pushed
  obtain ⟨cls, x, ended⟩ := pushObject_ok (during.framed moment.framed)
    (during.houses moment.houses) context pushed
  exact ⟨cls, .userdata x, ended⟩

/-- A run that makes an object of a class which the registry knows. -/
def nodeMade : List Session.Event :=
  nodeKnown "" ++ [.command (.run (.hostNew 0 "Node"))]

theorem pushed_reads_back_node :
    let w := (Session.after nodeMade).world
    let v := (pushVariant (.object ⟨1⟩) w).2
    pushVariant (.object ⟨1⟩) w = (.ok (), v) ∧ w.Legible ⟨0, 0⟩ "Node" ∧
      v.objectAt? (-1) = some ⟨1⟩ ∧ v.variantAt? (-1) = some (.object ⟨1⟩) := by
  have facts :
      let w := (Session.after nodeMade).world
      w.state.context = some ⟨0, 0⟩ ∧ (pushVariant (.object ⟨1⟩) w).1 = .ok () ∧
        (w.host 0).classes.classOf ⟨1⟩ = .ok "Node" ∧
        w.classMetatable? ⟨0, 0⟩ "Node" = none ∧ w.metatableNamed Tag.object.name = none := by
    decide +kernel
  have moment := Session.Moment.last nodeMade
  -- from here on it does not matter what led to the world
  generalize (Session.after nodeMade).world = made at facts moment ⊢
  obtain ⟨context, ended, reported, unregistered, shared⟩ := facts
  intro w v
  have pushed : pushVariant (.object ⟨1⟩) w = (.ok (), v) := Prod.ext ended rfl
  have legible : w.Legible ⟨0, 0⟩ "Node" := by
    rw [World.Legible, unregistered]
    intro mt registered
    cases shared.symm.trans registered
  obtain ⟨cls, x, known, -, -, object, variant⟩ := pushed_reads_back moment (.refl w) context
    (List.mem_cons_of_mem _ (List.mem_cons_of_mem _ List.mem_cons_self)) pushed
  cases reported.symm.trans known
  exact ⟨pushed, legible, object.mpr legible, variant.mpr legible⟩

/-- Where a metatable has been registered by hand under the name of the class, an object that exists
is pushed without an error, and cannot be read back. -/
theorem pushed_unread :
    let w := (Session.after (nodeMade ++ [.command (.run (.newMetatable "Node"))])).world
    let v := (pushObject ⟨1⟩ w).2
    w.state.context = some ⟨0, 0⟩ ∧ (w.host 0).classes.classOf ⟨1⟩ = .ok "Node" ∧
      (pushObject ⟨1⟩ w).1 = .ok () ∧ v.objectAt? (-1) = none ∧ v.variantAt? (-1) = none := by
  decide +kernel

end ScriptM

end ScriptBind
