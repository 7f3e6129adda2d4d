import ScriptBind.Proofs.Session.Pushes
import ScriptBind.Proofs.Session.Reference
import ScriptBind.Proofs.Session.Retention

/-!
# Values that come back

An engine value that has been pushed is read back, up to what scripts do not tell apart: they have
one kind of number and one kind of text. A math value is read back as a value of its type and of no
other, for a userdata is read as a value of a type only if it carries one and has the metatable that
is registered under the name of the type.

Neither of the two is lost later, unless an instruction exchanges the metatable. What the userdata
carries and its metatable are retained along everything that goes onward, and a name that is
registered stands for the same metatable for good, be it that the push or that a library registered
it.

Main results:

* `pushBuiltin_reads` — what is read where a math value has been pushed.
* `values_round_trip` — values come back, and math values keep coming back.
-/

namespace ScriptBind

open ScriptM

/-- The value that is read where an engine value has been pushed. -/
def Variant.readBack : Variant → Variant
  | .int n => .float (Number.ofInt64 n)
  | .stringName s => .string s
  | v => v

theorem MathType.tag_injective : Function.Injective MathType.tag := by
  intro T U same
  cases T <;> cases U <;> first | rfl | cases same

/-- The value at an index is read as an engine value of a math type, and as nothing else where a
math value is asked for. -/
structure World.ReadsAs (w : World) (index : Int) (T : MathType) (v : Variant) : Prop where
  native : ∀ U, w.nativeAt? index (.math U) = if U = T then some (.math v) else none
  variant : w.variantAt? index = some v

/-! ## Reading -/

variable {w : World} {u : UserdataId} {v : Variant} {mt : TableId} {index : Int} {T : MathType}

/-- A userdata that carries an engine value is read as a value of its type and of no other. -/
theorem World.CarriesValue.reads (carried : w.CarriesValue u v)
    (slot : w.state.value? index = some (.userdata u)) (tag : v.tag = T.tag) :
    w.ReadsAs index T v where
  variant := (variantAt?_eq_some slot).mpr (.value carried)
  native := by
    intro U
    have asked : w.nativeAt? index (.math U) = (w.builtinAt? index U.tag).map .math := rfl
    split
    next same =>
      have found : w.builtinAt? index T.tag = some v :=
        World.builtinAt?_eq_some.mpr ⟨u, slot, carried, tag⟩
      rw [asked, same, found]
      rfl
    next other =>
      suffices lost : w.builtinAt? index U.tag = none by rw [asked, lost]; rfl
      refine Option.eq_none_iff_forall_ne_some.mpr fun x found => other ?_
      -- whatever is read is what the userdata carries, and that has the other type
      obtain ⟨_, held, carries, typed⟩ := World.builtinAt?_eq_some.mp found
      cases slot.symm.trans held
      cases carried.payload.symm.trans carries.payload
      exact MathType.tag_injective (typed.symm.trans tag)

theorem World.CarriesValue.of_entry (entry : w.userdata[u.index]? = some ⟨.variant v, some mt⟩)
    (registered : w.metatableNamed v.tag.name = some mt) : w.CarriesValue u v := by
  have held : w.userdatum u = ⟨.variant v, some mt⟩ := by
    rw [World.userdatum, Array.getD_eq_getD_getElem?, entry]
    rfl
  refine ⟨?_, mt, registered, ?_⟩ <;> rw [held]

namespace ScriptM

/-! ## Pushing -/

/-- What is read where a math value has been pushed, at once and ever after. -/
theorem pushBuiltin_reads (framed : w.state.Framed) (tag : v.tag = T.tag) :
    ∃ y, pushBuiltin v w = (.ok (), y) ∧
      y.state.value? (-1) = some (.userdata ⟨w.userdata.size⟩) ∧ y.ReadsAs (-1) T v ∧
      ((∀ h ∈ w.hosts, h.engine = Engine.reference) → ∀ z, Onward ⟨w.userdata.size⟩ y z →
        ∀ index, z.state.value? index = some (.userdata ⟨w.userdata.size⟩) →
          z.ReadsAs index T v) := by
  obtain ⟨mt, y, pushed, top, entry, registered, hosts⟩ := pushBuiltin_ok framed v
  have carried : y.CarriesValue ⟨w.userdata.size⟩ v := .of_entry entry registered
  refine ⟨y, pushed, top, carried.reads top tag, fun engines z onward index slot => ?_⟩
  have holding := onward.retains v (some mt) ⟨entry, hosts ▸ engines⟩
  have carries : z.CarriesValue ⟨w.userdata.size⟩ v :=
    .of_entry holding.entry (onward.named registered)
  exact carries.reads slot tag

/-- A value that is no object is read back. -/
theorem pushVariant_reads (framed : w.state.Framed) (plain : ∀ id, v ≠ .object id) :
    ∃ y, pushVariant v w = (.ok (), y) ∧ y.variantAt? (-1) = some v.readBack := by
  have pushed : ∀ x, (w.state.push x).value? (-1) = some x := State.value?_push framed
  -- math values are pushed as userdata, and all others but objects as plain values of scripts
  have math : ∀ T : MathType, v.tag = T.tag → ∃ y, pushBuiltin v w = (.ok (), y) ∧
      y.variantAt? (-1) = some v := by
    intro T tag
    obtain ⟨y, ran, -, reads, -⟩ := pushBuiltin_reads framed tag
    exact ⟨y, ran, reads.variant⟩
  cases v with
  | nil => exact ⟨_, rfl, (variantAt?_eq_some (pushed _)).mpr .nil⟩
  | bool b => exact ⟨_, rfl, (variantAt?_eq_some (pushed _)).mpr (.bool b)⟩
  | int n => exact ⟨_, rfl, (variantAt?_eq_some (pushed _)).mpr (.float _)⟩
  | float x => exact ⟨_, rfl, (variantAt?_eq_some (pushed _)).mpr (.float x)⟩
  | string s => exact ⟨_, rfl, (variantAt?_eq_some (pushed _)).mpr (.string s)⟩
  | stringName s => exact ⟨_, rfl, (variantAt?_eq_some (pushed _)).mpr (.string s)⟩
  | vector2 _ => exact math .vector2 rfl
  | vector2i _ => exact math .vector2i rfl
  | vector3 _ => exact math .vector3 rfl
  | vector3i _ => exact math .vector3i rfl
  | color _ => exact math .color rfl
  | object id => exact absurd rfl (plain id)

/-- Wherever the running frame lies within the stack, as it does at every moment of a run
(`Session.Moment.framed`): a value that is no object is pushed and read back, an integer as the
nearest float and a string name as a string. A math value is pushed as a userdata that is read as
this value, and as a value of no other math type. Where all hosts are the reference engine, so it is
in every world that comes after, whatever libraries are opened, metatables registered and methods of
the userdata called, as long as no other metatable is given to it. A run of a session leads to no
other worlds (`Session.onward_visits`). -/
theorem values_round_trip (framed : w.state.Framed) :
    (∀ v, (∀ id, v ≠ .object id) →
      ∃ y, pushVariant v w = (.ok (), y) ∧ y.variantAt? (-1) = some v.readBack) ∧
    ∀ (T : MathType) v, v.tag = T.tag →
      ∃ u y, pushNative (.math v) w = (.ok (), y) ∧
        y.state.value? (-1) = some (.userdata u) ∧ y.ReadsAs (-1) T v ∧
        ((∀ h ∈ w.hosts, h.engine = Engine.reference) → ∀ z, Onward u y z →
          ∀ index, z.state.value? index = some (.userdata u) → z.ReadsAs index T v) := by
  refine ⟨fun v plain => pushVariant_reads framed plain, fun T v tag => ?_⟩
  obtain ⟨y, pushed, top, reads, ever⟩ := pushBuiltin_reads framed tag
  exact ⟨⟨w.userdata.size⟩, y, pushed, top, reads, ever⟩

/-- Libraries are opened, and a metatable of another name is registered. -/
def librariesOpened : List Session.Event := [
  .command (.run .openBuiltins),
  .command (.run .openClasses),
  .command (.run (.newMetatable "Thing"))]

/-- A vector that has been pushed before there are libraries, and is read when they are open. -/
theorem values_round_trip_vector :
    let v : Variant := .vector2 ⟨1, 2⟩
    let y := (pushNative (.math v) World.ofReference).2
    let z := (librariesOpened.foldl Session.happen ⟨y, #[y.state], 0, []⟩).world
    z.metatableNamed "Vector3" ≠ none ∧
      (∃ x, pushVariant (.int 7) World.ofReference = (.ok (), x) ∧
        x.variantAt? (-1) = some (.float (Number.ofInt64 7))) ∧
      y.ReadsAs (-1) .vector2 v ∧ z.ReadsAs 1 .vector2 v := by
  have framed : World.ofReference.state.Framed := Nat.zero_le _
  have engines : ∀ h ∈ World.ofReference.hosts, h.engine = Engine.reference := by
    intro h mem
    cases Array.mem_singleton.mp mem
    rfl
  have facts :
      let y := (pushNative (.math (.vector2 ⟨1, 2⟩)) World.ofReference).2
      let s := librariesOpened.foldl Session.happen ⟨y, #[y.state], 0, []⟩
      y.state.value? (-1) = some (.userdata ⟨0⟩) ∧ s.current = 0 ∧
        s.world.state.value? 1 = some (.userdata ⟨0⟩) ∧
        s.world.metatableNamed "Vector3" ≠ none := by
    decide +kernel
  have calm : ∀ s : Session, s.Calm librariesOpened ⟨0⟩ := by
    intro s mid e rest split
    -- every event is an instruction on its own
    have mem : e ∈ librariesOpened := by simp [split]
    simp only [librariesOpened, List.mem_cons, List.not_mem_nil, or_false] at mem
    rcases mem with rfl | rfl | rfl
    all_goals exact Session.Event.calm_alone rfl nofun nofun nofun nofun
  obtain ⟨plain, math⟩ := values_round_trip framed
  obtain ⟨u, y, pushed, top, reads, ever⟩ := math .vector2 (.vector2 ⟨1, 2⟩) rfl
  dsimp only at facts ⊢
  rw [pushed] at facts ⊢
  dsimp only at facts ⊢
  obtain ⟨first, back, last, opened⟩ := facts
  cases top.symm.trans first
  have visits : ∀ s : Session, s.Visits librariesOpened (librariesOpened.foldl Session.happen s)
      (librariesOpened.foldl Session.happen s).world := fun _ => .between _ [] rfl
  have onward := Session.onward_visits Nat.one_pos (calm _) (visits ⟨y, #[y.state], 0, []⟩) back
  exact ⟨opened, plain (.int 7) nofun, reads, ever engines _ onward 1 last⟩

end ScriptM

end ScriptBind
