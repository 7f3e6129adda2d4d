import ScriptBind.Proofs.Number.Value
import ScriptBind.Proofs.Session.Conversions

/-!
# Integers that are read

Integers are read off script numbers, and off texts that spell one. Whatever is read as a 64-bit
integer has no fraction, and only the size is not looked at: a number beyond the range counts as the
end of the range next to it. A 32-bit integer is a 64-bit one that fits, so these are exact.

Main results:

* `World.integerAt?_iff` — what is read as a 64-bit integer.
* `integers_read` — the checks that give integers, each with what it gives and how it refuses.
-/

namespace ScriptBind

open ScriptM
open Number (Is cut64 towardZero)

/-- The 64-bit integer that stands for an integer: the same one, or, if it is beyond the range, the
end of the range next to it. -/
inductive Saturated (n : ℤ) (i : Int64) : Prop
  | exact (same : i.toInt = n)
  | above (large : 2 ^ 63 ≤ n) (most : i = Int64.maxValue)
  | below (small : n < -2 ^ 63) (least : i = Int64.minValue)

/-- An integral number, and the 64-bit integer that stands for it. -/
def Whole (q : ℚ) (i : Int64) : Prop := ∃ n : ℤ, q = n ∧ Saturated n i

/-- The finite number at an index; a text counts as the number that it is converted to. -/
def State.NumberAt (s : State) (index : Int) (q : ℚ) : Prop :=
  ∃ x, s.toNumber? index = some x ∧ Is x q

/-- What a check at an index answers: exactly the values that stand for the finite number there, or
an error that says what is expected. -/
structure State.Checks {α : Type} (s : State) (index : Int) (expected : List String)
    (stands : ℚ → α → Prop) (answer : Except ScriptError α) : Prop where
  given : ∀ a, answer = .ok a ↔ ∃ q, s.NumberAt index q ∧ stands q a
  refused : ∀ e, answer = .error e → ∃ name ∈ expected, e = s.argError index name

theorem saturated_iff {n : ℤ} {i : Int64} : Saturated n i ↔ i.toInt = cut64 n := by
  have low : Int64.minValue.toInt = -2 ^ 63 := rfl
  have high : Int64.maxValue.toInt = 2 ^ 63 - 1 := rfl
  -- an integer within the bounds is cut to itself, and one beyond to the bound that it is beyond
  have bounds := Number.cut64_bounds n
  have self := @Number.cut64_eq_self_iff n
  constructor
  · rintro (same | ⟨large, rfl⟩ | ⟨small, rfl⟩)
    · have range : -2 ^ 63 ≤ i.toInt ∧ i.toInt < 2 ^ 63 := ⟨i.le_toInt, i.toInt_lt⟩
      rw [same] at range
      exact same.trans (self.mpr range).symm
    · unfold cut64 Number.clamp
      omega
    · unfold cut64 Number.clamp
      omega
  · intro is
    by_cases range : -2 ^ 63 ≤ n ∧ n < 2 ^ 63
    · exact .exact (is.trans (self.mpr range))
    · by_cases large : 2 ^ 63 ≤ n
      · refine .above large (Int64.toInt_inj.mp (is.trans ?_))
        unfold cut64 Number.clamp
        omega
      · have small : n < -2 ^ 63 := by omega
        refine .below small (Int64.toInt_inj.mp (is.trans ?_))
        unfold cut64 Number.clamp
        omega

section Reading

variable {w : World} {index : Int}

theorem World.integerAt?_iff {i : Int64} :
    w.integerAt? index = some i ↔ ∃ q, w.state.NumberAt index q ∧ Whole q i := by
  unfold World.integerAt? Whole
  constructor
  -- what counts as an integer is one already, so that to truncate it takes nothing away
  · intro found
    obtain ⟨x, number, found⟩ := Option.bind_eq_some_iff.mp found
    obtain ⟨whole, found⟩ := Option.ite_none_right_eq_some.mp found
    cases found
    obtain ⟨n, is⟩ := Number.isSome_integer64?_iff.mp whole
    refine ⟨n, ⟨x, number, is⟩, n, rfl, saturated_iff.mpr ?_⟩
    rw [Number.truncate64_eq is, Number.towardZero_intCast]
  · rintro ⟨_, ⟨x, number, is⟩, n, rfl, stands⟩
    rw [number]
    refine (if_pos (Number.isSome_integer64?_iff.mpr ⟨n, is⟩)).trans (congrArg some ?_)
    rw [← Int64.toInt_inj, Number.truncate64_eq is, Number.towardZero_intCast,
      saturated_iff.mp stands]

/-- An integer within 32 bits stands for no other number than itself. -/
theorem narrow?_eq_some {i : Int64} {k : Int32} : narrow? i = some k ↔ i.toInt = k.toInt := by
  have range := And.intro k.le_toInt k.toInt_lt
  have low : Int32.minValue.toInt = -2 ^ 31 := rfl
  have high : Int32.maxValue.toInt = 2 ^ 31 - 1 := rfl
  unfold narrow?
  rw [Option.ite_none_right_eq_some, Option.some.injEq]
  constructor
  · rintro ⟨fits, rfl⟩
    exact (Int32.toInt_ofInt_of_le (by omega) (by omega)).symm
  · intro same
    refine ⟨by omega, ?_⟩
    rw [same, Int32.ofInt_toInt]

theorem World.narrowAt?_iff {k : Int32} :
    (w.integerAt? index).bind narrow? = some k ↔ w.state.NumberAt index k.toInt := by
  have range := And.intro k.le_toInt k.toInt_lt
  simp only [Option.bind_eq_some_iff, integerAt?_iff, narrow?_eq_some]
  constructor
  · rintro ⟨i, ⟨_, number, n, rfl, stands⟩, same⟩
    -- the ends of the range do not fit, so the integer stands for itself
    rcases stands with self | ⟨-, rfl⟩ | ⟨-, rfl⟩
    · rwa [← same, self]
    · have high : Int64.maxValue.toInt = 2 ^ 63 - 1 := rfl
      omega
    · have low : Int64.minValue.toInt = -2 ^ 63 := rfl
      omega
  · intro number
    have fits : (Int64.ofInt k.toInt).toInt = k.toInt :=
      Int64.toInt_ofInt_of_le (by omega) (by omega)
    exact ⟨.ofInt k.toInt, ⟨_, number, _, rfl, .exact fits⟩, fits⟩

/-- A value that must be there, and where it stands for the number at the index. -/
theorem checks_demand {α β : Type} {found : Option α} {stands : ℚ → α → Prop} {f : α → β}
    (expected : String) (given : ∀ a, found = some a ↔ ∃ q, w.state.NumberAt index q ∧ stands q a) :
    w.state.Checks index [expected] (fun q b => ∃ a, b = f a ∧ stands q a)
      (demand index expected (found.map f) w).1 where
  given b := by
    rw [answer_demand, Option.map_eq_some_iff]
    constructor
    · rintro ⟨a, is, rfl⟩
      obtain ⟨q, number, holds⟩ := (given a).mp is
      exact ⟨q, number, a, rfl, holds⟩
    · rintro ⟨q, number, a, rfl, holds⟩
      exact ⟨a, (given a).mpr ⟨q, number, holds⟩, rfl⟩
  refused e failed := by
    rw [run_demand] at failed
    cases found with
    | some a => cases failed
    | none =>
      cases failed
      exact ⟨expected, .head _, rfl⟩

/-- What is not there as a value of a native type is refused by the name of the type. -/
theorem checkNative_eq (type : NativeType) :
    checkNative type index w = demand index type.name (w.nativeAt? index type) w := by
  rw [run_demand]
  unfold checkNative
  rw [run_bind, run_get]
  dsimp only
  cases w.nativeAt? index type <;> rfl

theorem checks_checkInteger :
    w.state.Checks index ["number", "integer"] (fun q i => Saturated (towardZero q) i)
      (w.state.checkInteger index) := by
  unfold State.checkInteger State.checkNumber
  cases number : w.state.toNumber? index with
  | none =>
    refine ⟨fun i => ⟨nofun, fun ⟨_, ⟨_, there, _⟩, _⟩ => ?_⟩, fun e failed => ?_⟩
    · cases number.symm.trans there
    · cases failed
      exact ⟨"number", .head _, rfl⟩
  | some x =>
    show State.Checks _ _ _ _ (if Number.isFinite64 x then .ok (Number.truncate64 x)
      else .error (w.state.argError index "integer"))
    split
    next finite =>
      obtain ⟨q, is⟩ := Number.isFinite64_iff.mp finite
      refine ⟨fun i => ?_, nofun⟩
      -- a finite number has one value, and any other has none
      have only : ∀ r, w.state.NumberAt index r ↔ r = q := by
        intro r
        constructor
        · rintro ⟨y, there, is'⟩
          cases number.symm.trans there
          exact is'.unique is
        · rintro rfl
          exact ⟨x, number, is⟩
      simp only [only, exists_eq_left, saturated_iff]
      rw [← Number.truncate64_eq is, Int64.toInt_inj, Except.ok.injEq]
      exact eq_comm
    next infinite =>
      refine ⟨fun i => ⟨nofun, ?_⟩, fun e failed => ?_⟩
      · rintro ⟨q, ⟨y, there, is⟩, -⟩
        cases number.symm.trans there
        exact absurd (Number.isFinite64_iff.mpr ⟨q, is⟩) infinite
      · cases failed
        exact ⟨"integer", .tail _ (.head _), rfl⟩

end Reading

/-- Wherever an integer is asked for, only a finite number is taken, or a text that spells one, and
everything else is an error of the argument. A native 64-bit integer, an argument declared as an
integer and one declared as an enum are read off integral numbers, and they are exact, unless the
number is beyond the range of 64 bits: then they are the end of the range next to it. A native
32-bit integer is always exact. An integer without declaration is the integer part of the number,
again cut to the range. -/
theorem integers_read (w : World) (c : Context) (index : Int) :
    (∀ type v, (checkNative type index w).1 = .ok v ↔ w.nativeAt? index type = some v) ∧
    w.state.Checks index ["integer"] (fun q v => ∃ i, v = .int64 i ∧ Whole q i)
      (checkNative .int64 index w).1 ∧
    w.state.Checks index ["integer"] (fun q v => ∃ i, v = .int32 i ∧ q = i.toInt)
      (checkNative .int32 index w).1 ∧
    w.state.Checks index ["int"] (fun q v => ∃ i, v = .int i ∧ Whole q i)
      (checkArg c index (.builtin .int) w).1 ∧
    (∀ name, w.state.Checks index [name] (fun q v => ∃ i, v = .int i ∧ Whole q i)
      (checkArg c index (.enumeration name) w).1) ∧
    w.state.Checks index ["number", "integer"] (fun q i => Saturated (towardZero q) i)
      (w.state.checkInteger index) := by
  have exact_ : ∀ k : Int32, (w.integerAt? index).bind narrow? = some k ↔
      ∃ q, w.state.NumberAt index q ∧ q = k.toInt := by
    simp only [World.narrowAt?_iff, exists_eq_right, implies_true]
  refine ⟨fun type v => ?_, ?_, ?_, ?_, fun name => ?_, checks_checkInteger⟩
  · rw [checkNative_eq, answer_demand]
  · rw [checkNative_eq]
    exact checks_demand _ fun _ => World.integerAt?_iff
  · rw [checkNative_eq]
    exact checks_demand _ exact_
  · exact checks_demand _ fun _ => World.integerAt?_iff
  · exact checks_demand _ fun _ => World.integerAt?_iff

/-- The least number above the range is read by every check, as the number below it. -/
theorem integers_read_beyond :
    let w := (Session.after [.command (.run (.push (.number 9223372036854775808)))]).world
    w.state.NumberAt 1 (2 ^ 63) ∧
      (checkNative .int64 1 w).1 = .ok (.int64 Int64.maxValue) ∧
      (checkArg ⟨0, 0⟩ 1 (.builtin .int) w).1 = .ok (.int Int64.maxValue) ∧
      (checkArg ⟨0, 0⟩ 1 (.enumeration "Error") w).1 = .ok (.int Int64.maxValue) ∧
      w.state.checkInteger 1 = .ok Int64.maxValue ∧
      (Int64.maxValue.toInt : ℚ) ≠ 2 ^ 63 := by
  intro w
  have read : Number.read64 9223372036854775808 = .finite ⟨false, 2 ^ 52, 11⟩ := rfl
  have value : Number.Binary.value ⟨false, 2 ^ 52, 11⟩ = 2 ^ 63 := by
    norm_num [Number.Binary.value, Number.Binary.magnitude]
  have most : Int64.maxValue.toInt = 2 ^ 63 - 1 := rfl
  exact ⟨⟨_, rfl, _, read, value⟩, rfl, rfl, rfl, rfl, by norm_num [most]⟩

end ScriptBind
