/-!
# Parents first

Orders the nodes of a parent relation so that every parent comes before its children, or names a
node that keeps this from being possible.

The walk goes depth first from each node in turn, children in the order of the nodes, and puts a
node in front of everything finished before it. Along a circle of parents some node then stands
before its own parent, and that parent is named; a node that is its own parent is named as soon as
it is met.

* `Forest` — nodes and their parents.
* `Forest.walk` — the order in which nodes are met and finished.
* `Forest.order` — the parents-first order.
-/

namespace ScriptBind.Registry

/-- Nodes, each with at most one parent. -/
structure Forest (ν : Type) where
  nodes : List ν
  parent? : ν → Option ν

namespace Forest

variable {ν : Type} [DecidableEq ν]

/-- The nodes with a given parent, in the order of the nodes. -/
def children (f : Forest ν) (n : ν) : List ν :=
  f.nodes.filter fun c => f.parent? c = some n

/-- How far a walk has come: the nodes met and the nodes finished, the latest first. -/
structure Progress (ν : Type) where
  met : List ν
  finished : List ν

/-- Walks from a node: below every node lie its children. A node is met once, so nesting goes no
deeper than the number of nodes, and that many steps of `fuel` are enough. -/
def visit (f : Forest ν) : Nat → Progress ν → ν → Progress ν
  | 0, p, _ => p
  | fuel + 1, p, n =>
    if n ∈ p.met then p
    else
      let below := (f.children n).foldl (f.visit fuel) { p with met := n :: p.met }
      { below with finished := n :: below.finished }

/-- The walk from every node in turn. -/
def walk (f : Forest ν) : Progress ν := f.nodes.foldl (f.visit f.nodes.length) ⟨[], []⟩

/-- The first node of a list whose parent does not stand before it, and that parent. -/
def lateParent? (f : Forest ν) : List ν → List ν → Option ν
  | _, [] => none
  | before, n :: rest =>
    match f.parent? n with
    | none => f.lateParent? (n :: before) rest
    | some p => if p ∈ before then f.lateParent? (n :: before) rest else some p

/-- The nodes with every parent before its children; an error names a node that is its own parent
or the parent of a node that cannot be placed. -/
def order (f : Forest ν) : Except ν (List ν) :=
  let w := f.walk
  match w.met.reverse.find? fun n => f.parent? n = some n with
  | some n => .error n
  | none =>
    match f.lateParent? [] w.finished with
    | some p => .error p
    | none => .ok w.finished

end Forest

end ScriptBind.Registry
