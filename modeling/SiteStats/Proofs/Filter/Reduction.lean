import Mathlib.Data.List.Basic
import SiteStats.Proofs.Filter.Tree
import SiteStats.Proofs.Text.Joined

/-!
# Reduced filters

Three details of a filter mean nothing: whether one value stands alone or as the only alternative,
whether a node below the root is wrapped into a group of which it is the only child, and how a root
with a single child would join its children.  `Node.reduced` removes the first two of them
everywhere, and `Group.outline` all three.

Nothing of the text is lost on the way: `Node.text_reduced` and `Group.text_eq_outline_text` say
that a filter is written as its outline is.  What is left is `Compact`, that is, every group below
the root joins two or more nodes and every list of alternatives has two or more entries, so that
each level of the tree shows in the text.
-/

namespace SiteStats.Filter

/-! ## Removing what means nothing -/

/-- The values that an operand offers; one value is offered alone. -/
def Operand.entries : Operand → List Text
  | .one value => [value]
  | .anyOf values => values

/-- A single alternative is one value. -/
def Operand.reduced : Operand → Operand
  | .anyOf [value] => .one value
  | operand => operand

/-- A condition with its operand reduced. -/
def Condition.reduced (c : Condition) : Condition :=
  { c with operand := c.operand.reduced }

mutual

/-- A node in which every single alternative is one value and no group has only one child: such a
group gives way to its child. -/
def Node.reduced : Node → Node
  | .condition leaf => .condition leaf.reduced
  | .group c children =>
    match Node.allReduced children with
    | [child] => child
    | several => .group c several

/-- The nodes of a list, reduced one by one. -/
def Node.allReduced : List Node → List Node
  | [] => []
  | child :: rest => child.reduced :: Node.allReduced rest

end

/-- What a filter amounts to: reduced children, and how they are joined unless there is only one. -/
@[ext]
structure Outline where
  combinator : Option Combinator
  children : List Node

/-- A filter without the details that mean nothing. -/
def Group.outline (g : Group) : Outline where
  combinator := if g.children.length = 1 then none else some g.combinator
  children := Node.allReduced g.children

lemma Node.allReduced_eq_map (nodes : List Node) :
    Node.allReduced nodes = nodes.map Node.reduced := by
  induction nodes with
  | nil => simp [Node.allReduced]
  | cons node rest ih => simp [Node.allReduced, ih]

@[simp] lemma Node.reduced_condition (leaf : Condition) :
    (Node.condition leaf).reduced = .condition leaf.reduced := by
  simp [Node.reduced]

@[simp] lemma Node.reduced_group_singleton (c : Combinator) (child : Node) :
    (Node.group c [child]).reduced = child.reduced := by
  simp [Node.reduced, Node.allReduced]

lemma Node.reduced_group_of_length {c : Combinator} {children : List Node}
    (h : children.length ≠ 1) :
    (Node.group c children).reduced = .group c (children.map Node.reduced) := by
  rw [Node.reduced, Node.allReduced_eq_map]
  split
  · rename_i child hone
    exact absurd (by simpa using congrArg List.length hone) h
  · rfl

lemma Node.singleton_or_several {children : List Node} (h : children ≠ []) :
    (∃ child, children = [child]) ∨ 1 < children.length := by
  match children, h with
  | [child], _ => exact .inl ⟨child, rfl⟩
  | _ :: _ :: _, _ => exact .inr (by simp)

/-! ## The text stays -/

lemma Operand.text_eq_entries (o : Operand) :
    o.text = Text.intercalate Operand.separator o.entries := by
  cases o <;> simp [Operand.text, Operand.entries]

@[simp] lemma Operand.entries_reduced (o : Operand) : o.reduced.entries = o.entries := by
  unfold Operand.reduced
  split <;> simp [Operand.entries]

@[simp] lemma Condition.text_reduced (c : Condition) : c.reduced.text = c.text := by
  simp [Condition.text, Condition.reduced, Operand.text_eq_entries]

/-- A reduced node is written as the node was. -/
theorem Node.text_reduced (node : Node) : node.reduced.text = node.text := by
  induction node with
  | condition leaf => simp
  | group c children ih =>
    by_cases hone : ∃ child, children = [child]
    · obtain ⟨child, rfl⟩ := hone
      simpa using ih child (by simp)
    · have hlength : children.length ≠ 1 := by rwa [Ne, List.length_eq_one_iff]
      have htexts : (children.map Node.reduced).map Node.text = children.map Node.text := by
        rw [List.map_map]
        exact List.map_congr_left ih
      rw [Node.reduced_group_of_length hlength]
      simp only [Node.text, Node.texts_eq_map, htexts, List.length_map]

/-- The text of an outline; with a single child it does not depend on how children are joined. -/
def Outline.text (o : Outline) : Text :=
  Text.intercalate (o.combinator.getD .all).text (o.children.map Node.text)

theorem Group.text_eq_outline_text (g : Group) : g.text = g.outline.text := by
  have htexts : (Node.allReduced g.children).map Node.text = g.children.map Node.text := by
    rw [Node.allReduced_eq_map, List.map_map]
    exact List.map_congr_left fun child _ => child.text_reduced
  rw [Group.text_eq, Outline.text, Group.outline, htexts]
  split
  · rename_i hone
    obtain ⟨child, hchild⟩ := List.length_eq_one_iff.mp hone
    simp [hchild]
  · rfl

/-! ## What is left -/

/-- Alternatives are two or more. -/
def Operand.Compact : Operand → Prop
  | .one _ => True
  | .anyOf values => 2 ≤ values.length

mutual

/-- Every group has two or more children, and alternatives are two or more. -/
def Node.Compact : Node → Prop
  | .condition leaf => leaf.operand.Compact
  | .group _ children => 2 ≤ children.length ∧ Node.AllCompact children

/-- Every node of the list is compact. -/
def Node.AllCompact : List Node → Prop
  | [] => True
  | child :: rest => child.Compact ∧ Node.AllCompact rest

end

lemma Node.allCompact_iff (nodes : List Node) :
    Node.AllCompact nodes ↔ ∀ node ∈ nodes, node.Compact := by
  induction nodes with
  | nil => simp [Node.AllCompact]
  | cons node rest ih => simp [Node.AllCompact, ih]

@[simp] lemma Node.compact_condition (leaf : Condition) :
    (Node.condition leaf).Compact ↔ leaf.operand.Compact := by
  simp [Node.Compact]

@[simp] lemma Node.compact_group (c : Combinator) (children : List Node) :
    (Node.group c children).Compact ↔
      2 ≤ children.length ∧ ∀ child ∈ children, child.Compact := by
  simp [Node.Compact, Node.allCompact_iff]

lemma Operand.Compact.entries_ne_nil {o : Operand} (h : o.Compact) : o.entries ≠ [] := by
  cases o with
  | one value => simp [Operand.entries]
  | anyOf values =>
    rintro rfl
    exact absurd h (by simp [Operand.Compact])

lemma Operand.Valid.compact_reduced {o : Operand} (h : o.Valid) : o.reduced.Compact := by
  match o, h with
  | .one _, _ => trivial
  | .anyOf [_], _ => trivial
  | .anyOf (_ :: _ :: _), _ => simp [Operand.reduced, Operand.Compact]

/-- What is left of a valid tree is compact.  Validity is needed: an empty group stays empty. -/
theorem Node.Valid.compact_reduced {node : Node} (h : node.Valid) : node.reduced.Compact := by
  induction node with
  | condition leaf =>
    rw [Node.reduced_condition, Node.compact_condition]
    exact Operand.Valid.compact_reduced (Node.valid_condition leaf |>.mp h).1
  | group c children ih =>
    rw [Node.valid_group, Node.allValid_iff] at h
    obtain ⟨hne, hvalid⟩ := h
    rcases Node.singleton_or_several hne with ⟨child, rfl⟩ | hseveral
    · rw [Node.reduced_group_singleton]
      exact ih child (by simp) (hvalid child (by simp))
    · rw [Node.reduced_group_of_length (by omega), Node.compact_group]
      refine ⟨by rw [List.length_map]; exact hseveral, ?_⟩
      intro child hmem
      obtain ⟨original, horiginal, rfl⟩ := List.mem_map.mp hmem
      exact ih original horiginal (hvalid original horiginal)

/-- Reducing a tree reduces its leaves and neither adds nor drops one. -/
lemma Node.leaves_reduced (node : Node) :
    node.reduced.leaves = node.leaves.map Condition.reduced := by
  induction node with
  | condition leaf => simp
  | group c children ih =>
    have hleaves : (children.map Node.reduced).flatMap Node.leaves =
        (children.flatMap Node.leaves).map Condition.reduced := by
      rw [List.flatMap_map, List.map_flatMap]
      exact List.flatMap_congr ih
    by_cases hone : children.length = 1
    · obtain ⟨child, rfl⟩ := List.length_eq_one_iff.mp hone
      simpa using hleaves
    · rw [Node.reduced_group_of_length hone, Node.leaves_group, Node.leaves_group, hleaves]

end SiteStats.Filter
