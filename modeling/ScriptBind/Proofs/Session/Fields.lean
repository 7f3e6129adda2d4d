import ScriptBind.Proofs.Session.CallFrames

/-!
# Fields found through metatables

To find a field of a value, a script walks from the value to the `__index` of its metatable, and
from there on, until it comes to a value at which the walk ends. Metatables can refer to each other
in any way, so the walk may go in circles; it is given up after a hundred values. Nothing changes
while it goes on: only where it ends a function may be called.

Main results:

* `run_firstResult` — what a handler is called with, and what is taken from it.
* `indexChain_walk` — the values at which a walk goes on are passed, one step each.
* `index_resolution` — a field is decided by the first value at which the walk ends, and it takes as
  many steps as there are values up to that one.
-/

namespace ScriptBind

/-! ## Where a walk ends -/

/-- How a walk for a field ends at a value. -/
inductive Stop where
  | entry (value : Value)
  | bare
  | handler (f : FunctionId)

namespace World

/-- The value that a number of links lead to: each goes to the `__index` of a metatable. -/
def link? (w : World) (target : Value) : Nat → Option Value
  | 0 => some target
  | i + 1 => (w.link? target i).bind fun c => w.metafield c "__index"

/-- The value has no entry of its own under a key. Only a table has entries. -/
def Lacks (w : World) (k : Key) (c : Value) : Prop := ∀ t, c = .table t → w.rawGet t k = .nil

/-- A walk ends at a table's own entry, else where there is no `__index`, else where the `__index`
is a function. -/
inductive StopsAt (w : World) (k : Key) : Value → Stop → Prop
  | entry {t : TableId} (own : w.rawGet t k ≠ .nil) : StopsAt w k (.table t) (.entry (w.rawGet t k))
  | bare {c : Value} (lacks : w.Lacks k c) (last : w.metafield c "__index" = none) :
      StopsAt w k c .bare
  | handler {c : Value} {f : FunctionId} (lacks : w.Lacks k c)
      (next : w.metafield c "__index" = some (.function f)) : StopsAt w k c (.handler f)

/-- The walk does not end at any of the first values. -/
def GoesOn (w : World) (k : Key) (target : Value) (links : Nat) : Prop :=
  ∀ j < links, ∀ c ∈ w.link? target j, ∀ s, ¬ w.StopsAt k c s

variable {w : World} {k : Key} {target c : Value} {i : Nat}

theorem GoesOn.mono {j : Nat} (h : w.GoesOn k target i) (le : j ≤ i) : w.GoesOn k target j :=
  fun m hm => h m (Nat.lt_of_lt_of_le hm le)

/-- Where a walk does not end there is no own entry, and an `__index` that is not a function. -/
theorem next_of_not_stopsAt (on : ∀ s, ¬ w.StopsAt k c s) :
    w.Lacks k c ∧ ∃ next, w.metafield c "__index" = some next ∧ ∀ f, next ≠ .function f := by
  have lacks : w.Lacks k c := by
    rintro t rfl
    by_contra own
    exact on _ (.entry own)
  refine ⟨lacks, ?_⟩
  cases next : w.metafield c "__index" with
  | none => exact absurd (.bare lacks next) (on _)
  | some v =>
    refine ⟨v, rfl, fun f isFunction => ?_⟩
    exact on _ (.handler lacks (isFunction ▸ next))

/-- A walk that goes on comes to a next value. -/
theorem GoesOn.exists_link (h : w.GoesOn k target i) : ∃ c, w.link? target i = some c := by
  induction i with
  | zero => exact ⟨target, rfl⟩
  | succ i ih =>
    obtain ⟨c, here⟩ := ih (h.mono (Nat.le_succ i))
    obtain ⟨-, next, found, -⟩ := next_of_not_stopsAt (h i (Nat.lt_succ_self i) c here)
    exact ⟨next, by rw [link?, here, Option.bind_some, found]⟩

end World

namespace ScriptM

variable {run : Runner} {w : World} {key target c : Value} {k : Key}

/-! ## Handlers -/

/-- What a function returns first, nil when it returns nothing, if it is called with these values
and no others. It may not be called too deep, fail, or return more than it has pushed. -/
def firstResult (run : Runner) (f : FunctionId) (args : List Value) (w : World) :
    Except ScriptError Value × World :=
  if maxCallDepth ≤ w.state.frames.length then (.error (.stackOverflow maxCallDepth), w)
  else
    match run f (w.callFrame f args) with
    | (.ok pushed, v) =>
      if v.state.top < pushed then
        (.error (.runtime (v.functionName f ++ " returned " ++ Number.natText pushed ++
          " results but left fewer on the stack")), v.left w.state.stack.length [])
      else
        (.ok ((v.state.stack.drop (v.state.stack.length - pushed)).headD .nil),
          v.left w.state.stack.length [])
    | (.error e, v) => (.error e, v.left w.state.stack.length [])

theorem adjust_one (results : List Value) : adjust results (some 1) = [results.headD .nil] := by
  cases results with
  | nil => rfl
  | cons v vs =>
    have none_missing : 1 - (v :: vs).length = 0 := by
      rw [List.length_cons]
      omega
    rw [adjust, none_missing]
    rfl

/-- What a function that was called in a frame of its own has left of its caller. -/
theorem left_callFrame {f : FunctionId} {args : List Value} {v : World}
    (evolves : Evolves (w.callFrame f args) v) :
    w.state.stack.length + 1 ≤ v.state.stack.length ∧
      v.state.top = v.state.stack.length - (w.state.stack.length + 1) ∧
      (v.left w.state.stack.length []).state.stack = w.state.stack ∧
      (v.left w.state.stack.length []).state.frames = w.state.frames := by
  have base : v.state.base = w.state.stack.length + 1 := evolves.base_eq
  have floor : (w.callFrame f args).state.floor = w.state.stack ++ [.function f] :=
    below_callFrame
  -- the function and all below it belong to frames that are not running
  obtain ⟨above, stack⟩ := evolves.floor_prefix
  rw [floor] at stack
  refine ⟨?_, by rw [State.top, base], ?_, ?_⟩
  · rw [← stack]
    simp only [List.length_append, List.length_cons, List.length_nil]
    omega
  · show v.state.stack.take w.state.stack.length ++ [] = w.state.stack
    rw [← stack, List.append_nil, List.append_assoc, List.take_left]
  · show v.state.frames.tail = w.state.frames
    rw [evolves.frames_eq]
    rfl

/-- A function that is called for one result is called with the values above it, and its first
result is taken. -/
theorem run_firstResult (n : Nat) (framed : w.state.Framed) (f : FunctionId) (args : List Value) :
    (call (runAt n) args.length (some 1) >>= fun _ => popValue) (w.withCall f args) =
      firstResult (runAt n) f args w := by
  have frames : (w.withCall f args).state.frames = w.state.frames := rfl
  rw [run_bind, run_call_withCall _ _ framed, run_invoke, frames, firstResult]
  by_cases full : maxCallDepth ≤ w.state.frames.length
  · rw [if_pos full, if_pos full, cutAt_withCall]
  rw [if_neg full, if_neg full, ← World.callFrame]
  have ran := Evolving.runAt n f (w.callFrame f args)
  generalize runAt n f (w.callFrame f args) = ended at ran
  obtain ⟨r, v⟩ := ended
  obtain ⟨above, top, stack, kept⟩ := left_callFrame ran
  cases r with
  | error e => rfl
  | ok pushed =>
    dsimp only at above top stack kept ⊢
    have claims : v.state.stack.length < w.state.stack.length + 1 + pushed ↔
        v.state.top < pushed := by
      rw [top]
      omega
    by_cases few : v.state.top < pushed
    · rw [if_pos (claims.mpr few), if_pos few]
    · rw [if_neg (fun h => few (claims.mp h)), if_neg few, adjust_one]
      dsimp only
      generalize (v.state.stack.drop (v.state.stack.length - pushed)).headD .nil = result
      -- the caller's stack is as it was, with the result on top
      have pushedOne : v.left w.state.stack.length [result] =
          (v.left w.state.stack.length []).withStack
            ((v.left w.state.stack.length []).state.stack ++ [result]) := by
        show _ = (v.left w.state.stack.length []).withStack
          (v.state.stack.take w.state.stack.length ++ [] ++ [result])
        rw [List.append_nil]
        rfl
      have framed' : (v.left w.state.stack.length []).state.Framed := by
        rw [State.Framed, State.base, kept, stack]
        exact framed
      rw [pushedOne, run_popValue_top framed']

/-- The field of a value at which the walk ends: the entry; nil for a table and an error for another
value without `__index`; or what the `__index` function returns for the value and the key. -/
def fieldAt (run : Runner) (key c : Value) (w : World) : Stop → Except ScriptError Value × World
  | .entry v => (.ok v, w)
  | .bare =>
    match c with
    | .table _ => (.ok .nil, w)
    | other => (.error (.notIndexable other.kind), w)
  | .handler f => firstResult run f [c, key] w

/-! ## The steps of the walk -/

section Steps

variable (valid : Key.ofValue key = .ok k)
include valid

theorem run_rawEntry_of_lacks (lacks : w.Lacks k c) : rawEntry c key w = (.ok none, w) := by
  cases c with
  | table t =>
    have absent : w.rawGet t k = .nil := lacks t rfl
    rw [rawEntry, valid]
    dsimp only
    rw [run_bind, run_get]
    dsimp only
    rw [absent]
    rfl
  | _ => rfl

theorem run_rawEntry_of_own {t : TableId} (own : w.rawGet t k ≠ .nil) :
    rawEntry (.table t) key w = (.ok (some (w.rawGet t k)), w) := by
  rw [rawEntry, valid]
  dsimp only
  rw [run_bind, run_get]
  dsimp only
  cases entry : w.rawGet t k with
  | nil => exact absurd entry own
  | _ => rfl

omit valid in
/-- What a step does where there is no own entry. -/
theorem run_indexChain_lacking (lacking : rawEntry c key w = (.ok none, w)) (fuel : Nat) :
    indexChain run key (fuel + 1) c w =
      match w.metafield c "__index" with
      | none => fieldAt run key c w .bare
      | some (.function f) =>
        (push (.function f) >>= fun _ => [c, key].forM push >>= fun _ =>
          call run [c, key].length (some 1) >>= fun _ => popValue) w
      | some next => indexChain run key fuel next w := by
  rw [indexChain.eq_def]
  dsimp only
  rw [run_bind, lacking]
  dsimp only
  rw [run_bind, run_get]
  dsimp only
  cases w.metafield c "__index" with
  | none => cases c <;> rfl
  | some next => cases next <;> rfl

/-- One link is one step. -/
theorem indexChain_link (on : ∀ s, ¬ w.StopsAt k c s) {next : Value}
    (link : w.metafield c "__index" = some next) (fuel : Nat) :
    indexChain run key (fuel + 1) c w = indexChain run key fuel next w := by
  obtain ⟨lacks, next', found, other⟩ := World.next_of_not_stopsAt on
  cases link.symm.trans found
  rw [run_indexChain_lacking (run_rawEntry_of_lacks valid lacks), link]
  cases next with
  | function f => exact absurd rfl (other f)
  | _ => rfl

/-- The values at which the walk goes on are passed, with one step for each. -/
theorem indexChain_walk {i : Nat} (on : w.GoesOn k target i) (here : w.link? target i = some c)
    (fuel : Nat) : indexChain run key (i + fuel) target w = indexChain run key fuel c w := by
  induction i generalizing c fuel with
  | zero =>
    cases here
    rw [Nat.zero_add]
  | succ i ih =>
    obtain ⟨b, before, link⟩ := Option.bind_eq_some_iff.mp here
    have passed : indexChain run key (i + (fuel + 1)) target w =
        indexChain run key (fuel + 1) b w :=
      ih (on.mono (Nat.le_succ i)) before (fuel + 1)
    have last : ∀ s, ¬ w.StopsAt k b s := on i (Nat.lt_succ_self i) b before
    rw [Nat.add_right_comm, Nat.add_assoc, passed, indexChain_link valid last link]

/-- A walk that goes on for as many values as it may take is given up. -/
theorem indexChain_gives_up {fuel : Nat} (on : w.GoesOn k target fuel) :
    indexChain run key fuel target w =
      (.error (.runtime "'__index' chain too long; possible loop"), w) := by
  obtain ⟨c, here⟩ := on.exists_link
  have passed : indexChain run key (fuel + 0) target w = indexChain run key 0 c w :=
    indexChain_walk valid on here 0
  rw [Nat.add_zero] at passed
  rw [passed]
  rfl

end Steps

/-! ## The field -/

/-- The last step decides. -/
theorem indexChain_stop (n : Nat) (framed : w.state.Framed) (valid : Key.ofValue key = .ok k)
    {s : Stop} (stops : w.StopsAt k c s) (fuel : Nat) :
    indexChain (runAt n) key (fuel + 1) c w = fieldAt (runAt n) key c w s := by
  cases stops with
  | entry own =>
    rw [indexChain.eq_def]
    dsimp only
    rw [run_bind, run_rawEntry_of_own valid own]
    rfl
  | bare lacks last =>
    rw [run_indexChain_lacking (run_rawEntry_of_lacks valid lacks), last]
  | @handler _ f lacks next =>
    rw [run_indexChain_lacking (run_rawEntry_of_lacks valid lacks), next]
    dsimp only
    rw [run_push_bind, run_forM_push, fieldAt, ← run_firstResult n framed]
    -- the value and the key lie above the function, as the arguments of a call do
    have stack : w.state.stack ++ [.function f] ++ [c, key] =
        w.state.stack ++ .function f :: [c, key] := List.append_assoc ..
    show (call (runAt n) [c, key].length (some 1) >>= fun _ => popValue)
      (w.withStack (w.state.stack ++ [.function f] ++ [c, key])) = _
    rw [stack, World.withCall]

/-- Any walk for a field, with as many steps as are allowed. If it ends at the value after `i` links
and at none before, it takes `i + 1` steps. -/
theorem indexChain_eq (n : Nat) (framed : w.state.Framed) (valid : Key.ofValue key = .ok k)
    {i : Nat} (here : w.link? target i = some c) (on : w.GoesOn k target i) {s : Stop}
    (stops : w.StopsAt k c s) (fuel : Nat) :
    indexChain (runAt n) key fuel target w =
      if i < fuel then fieldAt (runAt n) key c w s
      else (.error (.runtime "'__index' chain too long; possible loop"), w) := by
  split
  next enough =>
    obtain ⟨left, rfl⟩ : ∃ left, fuel = i + (left + 1) := ⟨fuel - i - 1, by omega⟩
    rw [indexChain_walk valid on here, indexChain_stop n framed valid stops]
  next short => exact indexChain_gives_up valid (on.mono (Nat.le_of_not_lt short))

/-- The field of a value under a string, a boolean or a number, however metatables refer to each
other. Let the walk end at the value after `i` links and at none before. If `i` is below a hundred,
the field is decided there, in exactly `i + 1` steps: a walk with fewer is given up, and one with
more finds the same. Nothing has changed by then, and only a function in whose frame that value and
the key are all there is decides further. If the walk does not end at any of the first hundred
values, it is given up, and nothing has changed. -/
theorem index_resolution (n : Nat) (framed : w.state.Framed) (valid : Key.ofValue key = .ok k)
    (target : Value) :
    (∀ i < maxIndexChain, ∀ c s, w.link? target i = some c → w.GoesOn k target i →
      w.StopsAt k c s →
        indexValue (runAt n) target key w = fieldAt (runAt n) key c w s ∧
        ∀ steps, indexChain (runAt n) key steps target w =
          if i < steps then fieldAt (runAt n) key c w s
          else (.error (.runtime "'__index' chain too long; possible loop"), w)) ∧
    (w.GoesOn k target maxIndexChain →
      indexValue (runAt n) target key w =
        (.error (.runtime "'__index' chain too long; possible loop"), w)) := by
  refine ⟨fun i below c s here on stops => ?_, fun on => indexChain_gives_up valid on⟩
  have walk := indexChain_eq n framed valid here on stops
  refine ⟨?_, walk⟩
  rw [indexValue, walk, if_pos below]

/-- A world in which the walk from one table leads to another one, which has an entry, and back. -/
def circular : World :=
  { Session.emptyWorld with
    tables := #[
      ⟨[], some ⟨1⟩, false⟩,
      ⟨[(.string "__index", .table ⟨2⟩)], none, false⟩,
      ⟨[(.string "own", .boolean true)], some ⟨3⟩, false⟩,
      ⟨[(.string "__index", .table ⟨0⟩)], none, false⟩] }

/-- The walk in the circle goes on for a key that neither table has. -/
theorem goesOn_circular (links : Nat) : circular.GoesOn (.string "other") (.table ⟨0⟩) links := by
  -- there are only two tables to come to, each of which links to the other
  have on_the_circle : ∀ j, circular.link? (.table ⟨0⟩) j = some (.table ⟨0⟩) ∨
      circular.link? (.table ⟨0⟩) j = some (.table ⟨2⟩) := by
    intro j
    induction j with
    | zero => exact .inl rfl
    | succ j ih =>
      rcases ih with here | here
      · exact .inr (by rw [World.link?, here]; rfl)
      · exact .inl (by rw [World.link?, here]; rfl)
  intro j _ c here s stops
  have onward : (∃ t, c = .table t ∧ circular.rawGet t (.string "other") = .nil) ∧
      ∃ t, circular.metafield c "__index" = some (.table t) := by
    rcases on_the_circle j with there | there
    all_goals
      cases there.symm.trans here
      exact ⟨⟨_, rfl, rfl⟩, _, rfl⟩
  obtain ⟨⟨t, rfl, absent⟩, next, link⟩ := onward
  cases stops with
  | entry own => exact own absent
  | bare _ last => cases last.symm.trans link
  | handler _ handler => cases handler.symm.trans link

theorem index_resolution_circular :
    circular.state.Framed ∧ Key.ofValue (.string "own") = .ok (.string "own") ∧
      indexValue (runAt 0) (.table ⟨0⟩) (.string "own") circular = (.ok (.boolean true), circular) ∧
      indexValue (runAt 0) (.table ⟨0⟩) (.string "other") circular =
        (.error (.runtime "'__index' chain too long; possible loop"), circular) := by
  have framed : circular.state.Framed := Nat.le_refl 0
  have found := (@index_resolution _ (.string "own") _ 0 framed rfl (.table ⟨0⟩)).1
  have given_up := (@index_resolution _ (.string "other") _ 0 framed rfl (.table ⟨0⟩)).2
  refine ⟨framed, rfl, ?_, given_up (goesOn_circular _)⟩
  have own : circular.rawGet ⟨2⟩ (.string "own") ≠ .nil := fun h => nomatch h
  refine (found 1 (by decide) (.table ⟨2⟩) _ rfl ?_ (.entry own)).1
  -- the first table has no such entry, and its `__index` is a table
  intro j first c here s stops
  obtain rfl : j = 0 := Nat.lt_one_iff.mp first
  cases here
  cases stops with
  | entry own => exact own rfl
  | bare _ last => cases last
  | handler _ handler => cases handler

end ScriptM

end ScriptBind
