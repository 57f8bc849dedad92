import Mathlib.Tactic.Common
import SiteStats.Filter.Text

/-!
# Filters as trees

What later arguments about filters need of their shape.  A `Node` is a nested inductive type, so
`induction` does not work on it as it stands; `Node.induction` supplies the principle in which the
case of a group may assume the claim for each of its children.  It is tagged, and plain
`induction node` uses it everywhere downstream.

`Node.leaves` lists the conditions of a tree from left to right: a demand on every value of a
filter, at whatever depth, is a demand on its leaves.  `Node.depth` counts how many groups stand in
each other.
-/

namespace SiteStats.Filter

namespace Node

/-- To prove something of every node, prove it of conditions, and of a group from the same for each
of its children. -/
@[elab_as_elim, induction_eliminator]
theorem induction {motive : Node → Prop}
    (condition : ∀ leaf, motive (.condition leaf))
    (group : ∀ combinator children, (∀ child ∈ children, motive child) →
      motive (.group combinator children)) :
    ∀ node : Node, motive node
  | .condition leaf => condition leaf
  | .group combinator children =>
    group combinator children fun child _ => Node.induction condition group child

/-! ## Leaves -/

mutual

/-- The conditions of a tree from left to right. -/
def leaves : Node → List Condition
  | .condition leaf => [leaf]
  | .group _ children => leavesOf children

/-- The conditions of several trees, one tree after the other. -/
def leavesOf : List Node → List Condition
  | [] => []
  | child :: rest => child.leaves ++ leavesOf rest

end

lemma leavesOf_eq_flatMap (nodes : List Node) : leavesOf nodes = nodes.flatMap leaves := by
  induction nodes with
  | nil => simp [leavesOf]
  | cons node rest ih => simp [leavesOf, ih]

@[simp] lemma leaves_condition (leaf : Condition) : (Node.condition leaf).leaves = [leaf] := by
  simp [leaves]

@[simp] lemma leaves_group (c : Combinator) (children : List Node) :
    (Node.group c children).leaves = children.flatMap leaves := by
  simp [leaves, leavesOf_eq_flatMap]

lemma mem_leaves_of_child {c : Combinator} {children : List Node} {child : Node}
    (hchild : child ∈ children) {leaf : Condition} (hleaf : leaf ∈ child.leaves) :
    leaf ∈ (Node.group c children).leaves := by
  rw [leaves_group, List.mem_flatMap]
  exact ⟨child, hchild, hleaf⟩

/-! ## Depth -/

mutual

/-- How many groups stand in each other in a tree. -/
def depth : Node → Nat
  | .condition _ => 0
  | .group _ children => depthOf children + 1

/-- The same for several trees, of which the deepest counts. -/
def depthOf : List Node → Nat
  | [] => 0
  | child :: rest => max child.depth (depthOf rest)

end

lemma depthOf_le_iff {nodes : List Node} {levels : Nat} :
    depthOf nodes ≤ levels ↔ ∀ node ∈ nodes, node.depth ≤ levels := by
  induction nodes with
  | nil => simp [depthOf]
  | cons node rest ih => rw [depthOf, Nat.max_le, ih, List.forall_mem_cons]

@[simp] lemma depth_condition (leaf : Condition) : (Node.condition leaf).depth = 0 := by
  simp [depth]

lemma depth_group_le_iff {c : Combinator} {children : List Node} {levels : Nat} :
    (Node.group c children).depth ≤ levels + 1 ↔ ∀ child ∈ children, child.depth ≤ levels := by
  rw [depth, Nat.add_le_add_iff_right, depthOf_le_iff]

lemma depth_group_pos (c : Combinator) (children : List Node) :
    0 < (Node.group c children).depth := by
  simp [depth]

end Node

/-- How many groups stand in each other in a filter, which is one of them. -/
def Group.depth (g : Group) : Nat :=
  g.node.depth

/-- The conditions of a filter from left to right. -/
def Group.leaves (g : Group) : List Condition :=
  g.node.leaves

lemma Group.mem_leaves {g : Group} {leaf : Condition} :
    leaf ∈ g.leaves ↔ ∃ child ∈ g.children, leaf ∈ child.leaves := by
  simp [Group.leaves, Group.node]

end SiteStats.Filter
