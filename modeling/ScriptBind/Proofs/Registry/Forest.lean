import ScriptBind.Registry.Forest

/-!
# The walk finds a parents-first order

The walk goes depth first, so at every moment the nodes met are the finished ones and those on the
path that it has come along. The path holds ancestors of the node at hand only. A node whose turn it
is therefore has no child on the path unless it is on a circle of parents itself, and when it is
finished all its children are finished before it. Only a node on a circle can come late.

`Proper` is this invariant of a walk, `visit_spec` what one visit does to it, by induction on the
fuel, and `walk_spec` what the whole walk leaves.

Main results:

* `Forest.perm_of_order`, `Forest.parentsFirst_of_order` — an order holds every node once, and every
  parent before its children.
* `Forest.order_isOk_iff` — there is an order exactly if no node is among its own ancestors.
* `Forest.circular_of_order` — the node that is named where there is none is on a circle.
-/

namespace ScriptBind.Registry.Forest

open Relation (TransGen)

variable {ν : Type} [DecidableEq ν] (f : Forest ν)

/-! ## Orders -/

/-- The step from a node to its parent. -/
def Parent (n p : ν) : Prop := f.parent? n = some p

/-- No node is among its own ancestors. -/
def Acyclic : Prop := ∀ n, ¬ TransGen f.Parent n n

/-- Every parent stands before its children. -/
def ParentsFirst (l : List ν) : Prop :=
  ∀ before n after, l = before ++ n :: after → ∀ p, f.Parent n p → p ∈ before

/-- The node is among its own ancestors. -/
def Circular (n : ν) : Prop := TransGen f.Parent n n

/-- Behind every node that is not on a circle stand all its children. -/
def Closed : List ν → Prop
  | [] => True
  | n :: rest => (∀ c ∈ f.children n, c ∈ rest ∨ f.Circular n) ∧ Closed rest

/-- Nodes are listed once, and parents are nodes. -/
structure Wellformed : Prop where
  nodup : f.nodes.Nodup
  child_mem {n p : ν} (h : f.Parent n p) : n ∈ f.nodes
  parent_mem {n p : ν} (h : f.Parent n p) : p ∈ f.nodes

variable {f}

theorem mem_children {n c : ν} : c ∈ f.children n ↔ c ∈ f.nodes ∧ f.Parent c n := by
  rw [children, List.mem_filter, decide_eq_true_iff, Parent]

omit [DecidableEq ν] in
theorem Wellformed.mem_of_ancestor (hf : f.Wellformed) {n a : ν} (h : TransGen f.Parent n a) :
    n ∈ f.nodes := by
  induction h with
  | single hp => exact hf.child_mem hp
  | tail _ _ ih => exact ih

theorem mem_of_closed {before after : List ν} {n c : ν} (h : f.Closed (before ++ n :: after))
    (hc : c ∈ f.children n) : c ∈ after ∨ f.Circular n := by
  induction before with
  | nil => exact h.1 c hc
  | cons b rest ih => exact ih h.2

/-- If every node is there and stands before its children, a parent that comes late is on a
circle. -/
theorem circular_of_late (hf : f.Wellformed) {before after : List ν} {n p : ν}
    (closed : f.Closed (before ++ n :: after)) (nodup : (before ++ n :: after).Nodup)
    (all : ∀ m ∈ f.nodes, m ∈ before ++ n :: after) (hp : f.Parent n p) (late : p ∉ before) :
    f.Circular p := by
  have hn : n ∉ after := (List.nodup_cons.mp (List.nodup_append.mp nodup).2.1).1
  have child : n ∈ f.children p := mem_children.mpr ⟨hf.child_mem hp, hp⟩
  have hmem := (List.mem_append.mp (all p (hf.parent_mem hp))).resolve_left late
  rcases List.mem_cons.mp hmem with own | hmem
  · rw [own] at hp ⊢
    exact .single hp
  · obtain ⟨s, t, rfl⟩ := List.append_of_mem hmem
    have split : f.Closed ((before ++ n :: s) ++ p :: t) := by
      simpa only [List.append_assoc, List.cons_append] using closed
    -- otherwise the node would come after itself
    refine (mem_of_closed split child).resolve_left fun behind => hn ?_
    exact List.mem_append_right s (List.mem_cons_of_mem p behind)

/-- Ancestors stand further in front. -/
theorem idxOf_lt_of_ancestor {l : List ν} (first : f.ParentsFirst l) (nodup : l.Nodup) {n a : ν}
    (h : TransGen f.Parent n a) (hn : n ∈ l) : a ∈ l ∧ l.idxOf a < l.idxOf n := by
  have step : ∀ {n p : ν}, n ∈ l → f.Parent n p → p ∈ l ∧ l.idxOf p < l.idxOf n := by
    intro n p hn hp
    obtain ⟨before, after, rfl⟩ := List.append_of_mem hn
    have hb := first before n after rfl p hp
    have hnb : n ∉ before := fun hmem =>
      (List.nodup_append.mp nodup).2.2 n hmem n List.mem_cons_self rfl
    refine ⟨List.mem_append_left _ hb, ?_⟩
    rw [List.idxOf_append, List.idxOf_append, if_pos hb, if_neg hnb]
    exact Nat.lt_add_left _ (List.idxOf_lt_length_of_mem hb)
  -- on the path, from the nearest ancestor upwards
  induction h with
  | single hp => exact step hn hp
  | tail _ hp ih =>
    obtain ⟨hmem, hlt⟩ := step ih.1 hp
    exact ⟨hmem, Nat.lt_trans hlt ih.2⟩

theorem acyclic_of_parentsFirst (hf : f.Wellformed) {l : List ν} (first : f.ParentsFirst l)
    (nodup : l.Nodup) (all : ∀ n ∈ f.nodes, n ∈ l) : f.Acyclic := by
  intro n h
  have hn : n ∈ f.nodes := hf.mem_of_ancestor h
  exact Nat.lt_irrefl _ (idxOf_lt_of_ancestor first nodup h (all n hn)).2

/-- The search for a late parent finds one unless every parent stands before its children. -/
theorem lateParent?_eq_none {before l : List ν} :
    f.lateParent? before l = none ↔
      ∀ s n t, l = s ++ n :: t → ∀ p, f.Parent n p → p ∈ before ∨ p ∈ s := by
  induction l generalizing before with
  | nil =>
    refine ⟨fun _ s n t h => ?_, fun _ => rfl⟩
    exact absurd h.symm (List.append_ne_nil_of_right_ne_nil s (List.cons_ne_nil n t))
  | cons n rest ih =>
    -- the rest follows the node, which stands before it
    have later : f.lateParent? (n :: before) rest = none ↔
        ∀ s m t, n :: rest = n :: s ++ m :: t → ∀ p, f.Parent m p → p ∈ before ∨ p ∈ n :: s := by
      rw [ih]
      constructor
      · intro h s m t hsplit p hp
        rcases h s m t (List.cons.inj hsplit).2 p hp with hmem | hmem
        · rcases List.mem_cons.mp hmem with rfl | hmem
          · exact .inr List.mem_cons_self
          · exact .inl hmem
        · exact .inr (List.mem_cons_of_mem n hmem)
      · rintro h s m t rfl p hp
        rcases h s m t rfl p hp with hmem | hmem
        · exact .inl (List.mem_cons_of_mem n hmem)
        · rcases List.mem_cons.mp hmem with rfl | hmem
          · exact .inl List.mem_cons_self
          · exact .inr hmem
    have split : (∀ s m t, n :: rest = s ++ m :: t → ∀ p, f.Parent m p → p ∈ before ∨ p ∈ s) ↔
        (∀ p, f.Parent n p → p ∈ before) ∧ f.lateParent? (n :: before) rest = none := by
      rw [later]
      constructor
      · intro h
        refine ⟨fun p hp => ?_, fun s m t => h (n :: s) m t⟩
        exact (h [] n rest rfl p hp).resolve_right List.not_mem_nil
      · rintro ⟨now, then_⟩ s m t hsplit p hp
        cases s with
        | nil =>
          cases hsplit
          exact .inl (now p hp)
        | cons x s =>
          cases hsplit
          exact then_ s m t rfl p hp
    rw [split, lateParent?]
    unfold Parent
    cases f.parent? n with
    | none => exact ⟨fun h => ⟨fun _ hp => absurd hp (by simp), h⟩, fun h => h.2⟩
    | some p =>
      dsimp only
      split
      next hmem => exact ⟨fun h => ⟨fun _ hp => Option.some.inj hp ▸ hmem, h⟩, fun h => h.2⟩
      next hmem => exact ⟨fun h => (by cases h), fun h => absurd (h.1 p rfl) hmem⟩

/-- The parent that the search finds is late. -/
theorem of_lateParent? {before l : List ν} {p : ν} (h : f.lateParent? before l = some p) :
    ∃ s n t, l = s ++ n :: t ∧ f.Parent n p ∧ p ∉ before ∧ p ∉ s := by
  -- on the list: what was passed over moves to the nodes before
  induction l generalizing before with
  | nil => cases h
  | cons n rest ih =>
    have later : f.lateParent? (n :: before) rest = some p →
        ∃ s m t, n :: rest = s ++ m :: t ∧ f.Parent m p ∧ p ∉ before ∧ p ∉ s := by
      intro h
      obtain ⟨s, m, t, rfl, hp, hb, hs⟩ := ih h
      rw [List.mem_cons, not_or] at hb
      refine ⟨n :: s, m, t, rfl, hp, hb.2, ?_⟩
      rw [List.mem_cons, not_or]
      exact ⟨hb.1, hs⟩
    unfold lateParent? at h
    split at h
    next => exact later h
    next q hq =>
      split at h
      · exact later h
      next new =>
        cases h
        exact ⟨[], n, rest, rfl, hq, new, List.not_mem_nil⟩

/-! ## The walk -/

/-- How many nodes have not been met. -/
def unmet (f : Forest ν) (p : Progress ν) : Nat := f.nodes.countP fun n => n ∉ p.met

theorem unmet_mono {p q : Progress ν} (h : p.met ⊆ q.met) : f.unmet q ≤ f.unmet p := by
  refine List.countP_mono_left fun n _ hn => ?_
  rw [decide_eq_true_iff] at hn ⊢
  exact fun hmem => hn (h hmem)

/-- To meet a node leaves fewer unmet. -/
theorem unmet_meet {p : Progress ν} {n : ν} (hn : n ∈ f.nodes) (new : n ∉ p.met) :
    f.unmet { p with met := n :: p.met } < f.unmet p := by
  obtain ⟨s, t, hst⟩ := List.append_of_mem hn
  have le : ∀ l : List ν, l.countP (fun m => m ∉ n :: p.met) ≤ l.countP fun m => m ∉ p.met := by
    refine fun l => List.countP_mono_left fun m _ hm => ?_
    rw [decide_eq_true_iff] at hm ⊢
    exact fun hmem => hm (List.mem_cons_of_mem n hmem)
  have := le s
  have := le t
  unfold unmet
  rw [hst, List.countP_append, List.countP_append, List.countP_cons, List.countP_cons]
  simp only [List.mem_cons, true_or, not_true, decide_false, new, not_false_eq_true, decide_true,
    if_true, Bool.false_eq_true, if_false] at *
  omega

/-- How far a walk has come properly, with the nodes `path` on the way from where it began to where
it is: what is met is finished or on the path, and all children of a finished node were finished
before it, unless it is on a circle. -/
structure Proper (f : Forest ν) (path : List ν) (p : Progress ν) : Prop where
  met_iff {n : ν} : n ∈ p.met ↔ n ∈ p.finished ∨ n ∈ path
  nodup : (p.finished ++ path).Nodup
  known : ∀ n ∈ p.finished, n ∈ f.nodes
  closed : f.Closed p.finished

/-- What a visit, or several, make of a walk: it goes on properly and has met the nodes visited. -/
structure Visited (f : Forest ν) (path : List ν) (p : Progress ν) (ns : List ν) (q : Progress ν) :
    Prop where
  proper : f.Proper path q
  grows : p.met ⊆ q.met
  met : ∀ n ∈ ns, n ∈ q.met

/-- Visits one after the other, each of which does what it should. -/
theorem foldl_visited {path : List ν} {fuel : Nat} {ns : List ν}
    (each : ∀ n ∈ ns, ∀ p, f.Proper path p → f.unmet p ≤ fuel →
      f.Visited path p [n] (f.visit fuel p n)) {p : Progress ν} (proper : f.Proper path p)
    (enough : f.unmet p ≤ fuel) : f.Visited path p ns (ns.foldl (f.visit fuel) p) := by
  induction ns generalizing p with
  | nil => exact ⟨proper, List.Subset.refl _, fun n hn => absurd hn List.not_mem_nil⟩
  | cons n rest ih =>
    have first := each n List.mem_cons_self p proper enough
    have later := ih (fun m hm => each m (List.mem_cons_of_mem n hm)) first.proper
      (Nat.le_trans (unmet_mono first.grows) enough)
    refine ⟨later.proper, List.Subset.trans first.grows later.grows, fun m hm => ?_⟩
    rcases List.mem_cons.mp hm with rfl | hm
    · exact later.grows (first.met m List.mem_cons_self)
    · exact later.met m hm

/-- To meet a node puts it on the path. -/
theorem Proper.meet {path : List ν} {p : Progress ν} {n : ν} (proper : f.Proper path p)
    (new : n ∉ p.met) : f.Proper (n :: path) { p with met := n :: p.met } where
  met_iff := by
    intro m
    rw [List.mem_cons, List.mem_cons, proper.met_iff]
    exact or_left_comm
  nodup := by
    rw [proper.met_iff] at new
    refine List.perm_middle.nodup_iff.mpr (List.nodup_cons.mpr ⟨?_, proper.nodup⟩)
    rwa [List.mem_append]
  known := proper.known
  closed := proper.closed

/-- To finish a node takes it from the path; its children must be finished by then, unless it is on a
circle. -/
theorem Proper.finish {path : List ν} {p : Progress ν} {n : ν} (proper : f.Proper (n :: path) p)
    (hn : n ∈ f.nodes) (below : ∀ c ∈ f.children n, c ∈ p.finished ∨ f.Circular n) :
    f.Proper path { p with finished := n :: p.finished } where
  met_iff := by
    intro m
    rw [proper.met_iff, List.mem_cons, List.mem_cons]
    exact or_left_comm.trans or_assoc.symm
  nodup := List.perm_middle.nodup_iff.mp proper.nodup
  known := by
    intro m hm
    rcases List.mem_cons.mp hm with rfl | hm
    · exact hn
    · exact proper.known m hm
  closed := ⟨below, proper.closed⟩

/-- A visit goes on properly if there is fuel for the nodes not met yet and the path leads through
ancestors of the node. -/
theorem visit_spec {fuel : Nat} {path : List ν} {p : Progress ν} {n : ν} (hn : n ∈ f.nodes)
    (above : ∀ a ∈ path, TransGen f.Parent n a) (proper : f.Proper path p)
    (enough : f.unmet p ≤ fuel) : f.Visited path p [n] (f.visit fuel p n) := by
  induction fuel generalizing path p n with
  | zero =>
    -- without fuel every node has been met
    have met : n ∈ p.met := by
      have none_left := List.countP_eq_zero.mp (Nat.le_zero.mp enough) n hn
      rw [decide_eq_true_iff] at none_left
      exact Classical.not_not.mp none_left
    exact ⟨proper, List.Subset.refl _, fun m hm => List.mem_singleton.mp hm ▸ met⟩
  | succ fuel ih =>
    unfold visit
    split
    next met => exact ⟨proper, List.Subset.refl _, fun m hm => List.mem_singleton.mp hm ▸ met⟩
    next new =>
      -- the children have the node, and the path to it, above them
      have above_child : ∀ c ∈ f.children n, ∀ a ∈ n :: path, TransGen f.Parent c a := by
        intro c hc a ha
        have step := TransGen.single (mem_children.mp hc).2
        rcases List.mem_cons.mp ha with rfl | ha
        · exact step
        · exact step.trans (above a ha)
      have fewer : f.unmet { p with met := n :: p.met } ≤ fuel :=
        Nat.le_of_lt_succ (Nat.lt_of_lt_of_le (unmet_meet hn new) enough)
      have below : f.Visited (n :: path) { p with met := n :: p.met } (f.children n)
          ((f.children n).foldl (fun q c => f.visit fuel q c) { p with met := n :: p.met }) :=
        foldl_visited
          (fun c hc q proper enough => ih (mem_children.mp hc).1 (above_child c hc) proper enough)
          (proper.meet new) fewer
      dsimp only
      refine ⟨below.proper.finish hn fun c hc => ?_, ?_, ?_⟩
      · refine (below.proper.met_iff.mp (below.met c hc)).imp_right fun onPath => ?_
        -- a child on the path is an ancestor of the node, which is its parent
        have step : f.Parent c n := (mem_children.mp hc).2
        rcases List.mem_cons.mp onPath with rfl | onPath
        · exact .single step
        · exact (above c onPath).tail step
      · exact List.Subset.trans (List.subset_cons_self n p.met) below.grows
      · intro m hm
        rw [List.mem_singleton.mp hm]
        exact below.grows List.mem_cons_self

/-- The whole walk finishes every node once, and behind every node its children unless it is on a
circle. -/
theorem walk_spec (f : Forest ν) : f.Proper [] f.walk ∧ ∀ n ∈ f.nodes, n ∈ f.walk.finished := by
  have start : f.Proper [] ⟨[], []⟩ :=
    ⟨⟨fun h => absurd h List.not_mem_nil, fun h => (h.elim id id)⟩, List.nodup_nil,
      fun n hn => absurd hn List.not_mem_nil, trivial⟩
  have walked : f.Visited [] ⟨[], []⟩ f.nodes f.walk :=
    foldl_visited (fun n hn p proper enough =>
      visit_spec hn (fun a ha => absurd ha List.not_mem_nil) proper enough) start
      List.countP_le_length
  refine ⟨walked.proper, fun n hn => ?_⟩
  exact (walked.proper.met_iff.mp (walked.met n hn)).resolve_right List.not_mem_nil

/-! ## The order -/

theorem nodup_finished (f : Forest ν) : f.walk.finished.Nodup := by
  have := (walk_spec f).1.nodup
  rwa [List.append_nil] at this

/-- An order is what the walk has finished, without a late parent. -/
theorem of_order {l : List ν} (h : f.order = .ok l) :
    l = f.walk.finished ∧ f.lateParent? [] f.walk.finished = none := by
  unfold order at h
  dsimp only at h
  split at h
  · cases h
  · split at h
    next => cases h
    next late =>
      cases h
      exact ⟨rfl, late⟩

/-- An order holds every node once. -/
theorem perm_of_order (hf : f.Wellformed) {l : List ν} (h : f.order = .ok l) : l.Perm f.nodes := by
  obtain ⟨rfl, -⟩ := of_order h
  obtain ⟨proper, all⟩ := walk_spec f
  rw [List.perm_ext_iff_of_nodup (nodup_finished f) hf.nodup]
  exact fun n => ⟨proper.known n, all n⟩

/-- In an order, every parent stands before its children. -/
theorem parentsFirst_of_order {l : List ν} (h : f.order = .ok l) : f.ParentsFirst l := by
  obtain ⟨rfl, late⟩ := of_order h
  intro before n after hsplit p hp
  exact (lateParent?_eq_none.mp late before n after hsplit p hp).resolve_left List.not_mem_nil

/-- A parent that the walk finishes too early, to stand before its child, is on a circle. -/
theorem circular_of_walk (hf : f.Wellformed) {before after : List ν} {n p : ν}
    (split : f.walk.finished = before ++ n :: after) (hp : f.Parent n p) (late : p ∉ before) :
    f.Circular p := by
  obtain ⟨proper, all⟩ := walk_spec f
  have closed := proper.closed
  have nodup := nodup_finished f
  rw [split] at closed nodup all
  exact circular_of_late hf closed nodup all hp late

/-- There is an order exactly if no node is among its own ancestors. -/
theorem order_isOk_iff (hf : f.Wellformed) : (∃ l, f.order = .ok l) ↔ f.Acyclic := by
  constructor
  · rintro ⟨l, h⟩
    have hl := (of_order h).1
    refine acyclic_of_parentsFirst hf (parentsFirst_of_order h) (hl ▸ nodup_finished f) ?_
    exact fun n hn => hl ▸ (walk_spec f).2 n hn
  · intro acyclic
    refine ⟨f.walk.finished, ?_⟩
    -- neither of the two refusals is possible without a circle
    have own : (f.walk.met.reverse.find? fun n => f.parent? n = some n) = none := by
      refine List.find?_eq_none.mpr fun n _ hn => ?_
      have parent : f.parent? n = some n := of_decide_eq_true hn
      exact acyclic n (.single parent)
    have late : f.lateParent? [] f.walk.finished = none := by
      refine lateParent?_eq_none.mpr fun s n t hsplit p hp => .inr ?_
      refine Classical.byContradiction fun late => acyclic p ?_
      exact circular_of_walk hf hsplit hp late
    unfold order
    dsimp only
    rw [own, late]

/-- Where there is no order, the node that is named is on a circle. -/
theorem circular_of_order (hf : f.Wellformed) {n : ν} (h : f.order = .error n) :
    n ∈ f.nodes ∧ f.Circular n := by
  suffices circular : f.Circular n from ⟨hf.mem_of_ancestor circular, circular⟩
  unfold order at h
  dsimp only at h
  -- a node that is its own parent is found first; otherwise the walk has left a parent behind
  split at h
  next m own =>
    cases h
    have parent : f.parent? n = some n := by simpa using List.find?_some own
    exact .single parent
  next =>
    split at h
    next p late =>
      cases h
      obtain ⟨s, m, t, split, hp, -, hs⟩ := of_lateParent? late
      exact circular_of_walk hf split hp hs
    next => cases h

end ScriptBind.Registry.Forest
