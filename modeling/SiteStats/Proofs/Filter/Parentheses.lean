import SiteStats.Proofs.Filter.Readability
import SiteStats.Proofs.Text.Nesting

/-!
# The parentheses of a filter

The text of a filter puts parentheses around a child and counts the children of that child for it,
so that groups of one child disappear from the text however many stand inside one another.  Whether
a place of the text is inside or outside of parentheses thus depends on the whole tree.

`Node.nested` settles it for every tree at once.  As long as the values hold no parentheses, the
text of a node is nested, and outside of its parentheses there are only characters of its own
conditions, never a sign between children: signs occur where a group has several children, and these
groups are the ones in parentheses.  Balance is a consequence, and so is that the text of an *and*
falls apart into its children at the signs outside of parentheses.
-/

namespace SiteStats.Filter

open Text (Nested Balanced partsOutside count_intercalate)

/-! ## The groups of a filter -/

mutual

/-- The groups of a tree, each before those inside it. -/
def Node.groups : Node → List Group
  | .condition _ => []
  | .group c children => ⟨c, children⟩ :: Node.groupsOf children

/-- The groups of several trees, one tree after the other. -/
def Node.groupsOf : List Node → List Group
  | [] => []
  | child :: rest => child.groups ++ Node.groupsOf rest

end

/-- The groups of a filter, itself included. -/
def Group.groups (g : Group) : List Group :=
  g.node.groups

/-- The groups of a filter below the root. -/
def Group.groupsBelow (g : Group) : List Group :=
  g.children.flatMap Node.groups

/-- A group with two or more children. -/
def Group.several (g : Group) : Bool :=
  decide (2 ≤ g.children.length)

lemma Node.groupsOf_eq_flatMap (nodes : List Node) : groupsOf nodes = nodes.flatMap groups := by
  induction nodes with
  | nil => simp [groupsOf]
  | cons node rest ih => simp [groupsOf, ih]

@[simp] lemma Node.groups_condition (leaf : Condition) : (Node.condition leaf).groups = [] := by
  simp [groups]

@[simp] lemma Node.groups_group (c : Combinator) (children : List Node) :
    (Node.group c children).groups = ⟨c, children⟩ :: children.flatMap groups := by
  simp [groups, groupsOf_eq_flatMap]

lemma Node.leaves_of_mem_groups {node : Node} {g : Group} (hg : g ∈ node.groups) :
    ∀ leaf ∈ g.leaves, leaf ∈ node.leaves := by
  induction node with
  | condition leaf => simp at hg
  | group c children ih =>
    intro leaf hleaf
    rw [groups_group, List.mem_cons] at hg
    obtain rfl | hbelow := hg
    · exact hleaf
    · obtain ⟨child, hchild, hmem⟩ := List.mem_flatMap.mp hbelow
      exact mem_leaves_of_child hchild (ih child hchild hmem leaf hleaf)

/-! ## Values -/

/-- No value of the tree holds the character. -/
def Node.Lacks (c : Point) (node : Node) : Prop :=
  ∀ leaf ∈ node.leaves, ∀ value ∈ leaf.operand.entries, c ∉ value.toList

/-- No value of the filter holds the character. -/
def Group.Lacks (c : Point) (g : Group) : Prop :=
  g.node.Lacks c

-- The values are finitely many, and so are their characters.
instance (c : Point) : DecidablePred (Group.Lacks c) := fun g =>
  inferInstanceAs
    (Decidable (∀ leaf ∈ g.node.leaves, ∀ value ∈ leaf.operand.entries, c ∉ value.toList))

lemma Node.Lacks.child {x : Point} {c : Combinator} {children : List Node}
    (h : (Node.group c children).Lacks x) {child : Node} (hchild : child ∈ children) :
    child.Lacks x := by
  intro leaf hleaf
  exact h leaf (Node.mem_leaves_of_child hchild hleaf)

lemma Group.Lacks.of_mem_groups {x : Point} {g h : Group} (hg : g.Lacks x) (hmem : h ∈ g.groups) :
    h.Lacks x :=
  fun leaf hleaf => hg leaf (Node.leaves_of_mem_groups hmem leaf hleaf)

lemma Condition.mem_text {leaf : Condition} {c : Point} (hc : c ∈ leaf.text.toList) :
    (∃ value ∈ leaf.operand.entries, c ∈ value.toList) ∨ c = .char '|' ∨ ¬ IsPunctuation c := by
  rw [Condition.text, Text.toList_append, Text.toList_append, List.mem_append,
    List.mem_append] at hc
  obtain (hword | hsign) | hoperand := hc
  · exact .inr (.inr (property_text_clear leaf.property c hword).2)
  · rw [Comparison.toList_text, List.mem_pair] at hsign
    obtain rfl | rfl := hsign
    · exact .inr (.inr (by cases leaf.comparison <;> decide))
    · exact .inr (.inr (by decide))
  · rw [Operand.text_eq_entries, Text.toList_intercalate] at hoperand
    obtain hbetween | ⟨part, hpart, hmem⟩ := Text.mem_of_mem_intercalate hoperand
    · exact .inr (.inl (List.mem_singleton.mp hbetween))
    · obtain ⟨value, hvalue, rfl⟩ := List.mem_map.mp hpart
      exact .inl ⟨value, hvalue, hmem⟩

/-- Punctuation that no value holds is not in a condition either, the sign between alternatives
aside. -/
lemma Condition.notMem_text {leaf : Condition} {c : Point} (hc : IsPunctuation c)
    (hbar : c ≠ .char '|')
    (hvalues : ∀ value ∈ leaf.operand.entries, c ∉ value.toList) : c ∉ leaf.text.toList := by
  intro hmem
  obtain ⟨value, hvalue, hin⟩ | hsign | hplain := Condition.mem_text hmem
  · exact hvalues value hvalue hin
  · exact hbar hsign
  · exact hplain hc

/-! ## Nesting -/

section Nested

variable {P : Point → Prop}

lemma Combinator.nested (c : Combinator) : Nested (fun _ => True) (c.text : Text).toList := by
  refine .of_clear ?_ ?_ fun _ _ => trivial
  · cases c <;> decide
  · cases c <;> decide

/-- The children of a group in a row are nested when each of them is, if it does not matter what is
outside of parentheses. -/
lemma Group.nested_of_children {g : Group}
    (h : ∀ child ∈ g.children, Nested P child.text.toList) :
    Nested (fun _ => True) g.text.toList := by
  rw [Group.text_eq, Text.toList_intercalate]
  refine Nested.intercalate g.combinator.nested fun part hpart => ?_
  rw [List.map_map] at hpart
  obtain ⟨child, hchild, rfl⟩ := List.mem_map.mp hpart
  exact (h child hchild).mono fun _ _ => trivial

/-- **Nesting.**  The text of a node is nested, and outside of parentheses there is only what its
conditions are written with. -/
theorem Node.nested {node : Node} (hopen : node.Lacks (.char '(')) (hclose : node.Lacks (.char ')'))
    (hP : ∀ leaf ∈ node.leaves, ∀ c ∈ leaf.text.toList, P c) : Nested P node.text.toList := by
  induction node with
  | condition leaf =>
    have hleaf : leaf ∈ (Node.condition leaf).leaves := by simp
    rw [Node.text_condition]
    exact .of_clear (Condition.notMem_text (by decide) (by decide) (hopen leaf hleaf))
      (Condition.notMem_text (by decide) (by decide) (hclose leaf hleaf)) (hP leaf hleaf)
  | group c children ih =>
    have hchildren : ∀ child ∈ children, Nested P child.text.toList := by
      intro child hchild
      refine ih child hchild (hopen.child hchild) (hclose.child hchild) fun leaf hleaf => ?_
      exact hP leaf (Node.mem_leaves_of_child hchild hleaf)
    by_cases hempty : children = []
    · subst hempty
      simpa [Node.text, Node.texts] using Nested.nil
    · obtain ⟨child, rfl⟩ | hseveral := Node.singleton_or_several hempty
      · rw [Node.text_group_singleton]
        exact hchildren child (by simp)
      · have hinner : Nested (fun _ => True) (Group.mk c children).text.toList :=
          Group.nested_of_children hchildren
        rw [Node.text_group_of_length hseveral]
        simpa using hinner.wrapped

end Nested

/-! ## How many parentheses there are -/

lemma Group.count_open_of_children {g : Group}
    (h : ∀ child ∈ g.children,
      child.text.toList.count (.char '(') = child.groups.countP Group.several) :
    g.text.toList.count (.char '(') = g.groupsBelow.countP Group.several := by
  have hsign : .char '(' ∉ (g.combinator.text : Text).toList := by cases g.combinator <;> decide
  rw [Group.text_eq, Text.toList_intercalate, count_intercalate hsign, Group.groupsBelow,
    List.countP_flatMap, List.map_map, List.map_map]
  exact congrArg List.sum (List.map_congr_left h)

/-- The parentheses that are opened in a node are those around its groups of several children. -/
lemma Node.count_open {node : Node} (hopen : node.Lacks (.char '(')) :
    node.text.toList.count (.char '(') = node.groups.countP Group.several := by
  induction node with
  | condition leaf =>
    have hleaf : leaf ∈ (Node.condition leaf).leaves := by simp
    rw [Node.text_condition, Node.groups_condition, List.countP_nil]
    exact List.count_eq_zero.mpr (Condition.notMem_text (by decide) (by decide) (hopen leaf hleaf))
  | group c children ih =>
    have hbelow : (Group.mk c children).text.toList.count (.char '(') =
        (children.flatMap Node.groups).countP Group.several :=
      Group.count_open_of_children fun child hchild => ih child hchild (hopen.child hchild)
    rw [Node.groups_group, List.countP_cons, ← hbelow]
    by_cases hseveral : 1 < children.length
    · have hcounted : (Group.mk c children).several = true := decide_eq_true hseveral
      have hfirst : ("(" : Text).toList.count (.char '(') = 1 := by decide
      have hlast : (")" : Text).toList.count (.char '(') = 0 := by decide
      rw [Node.text_group_of_length hseveral, if_pos hcounted, Text.toList_append,
        Text.toList_append, List.count_append, List.count_append]
      omega
    · have hnot : ¬ (Group.mk c children).several = true :=
        fun h => hseveral (of_decide_eq_true h)
      have hplain : (Node.group c children).text = (Group.mk c children).text := by
        simp [Node.text, Group.text, hseveral]
      rw [hplain, if_neg hnot, Nat.add_zero]

/-! ## Filters -/

/-- How a child is written: a condition as it is, a group of two or more children in one pair of
parentheses, and any other group as it would be by itself. -/
def Node.rendering : Node → Text
  | .condition leaf => leaf.text
  | .group c children =>
    if 2 ≤ children.length then "(" ++ (Group.mk c children).text ++ ")"
    else (Group.mk c children).text

lemma Node.text_eq_rendering (node : Node) : node.text = node.rendering := by
  cases node with
  | condition leaf => exact Node.text_condition leaf
  | group c children => rfl

lemma Group.text_eq_renderings (g : Group) :
    g.text = Text.intercalate g.combinator.text (g.children.map Node.rendering) := by
  rw [Group.text_eq, List.map_congr_left fun child _ => child.text_eq_rendering]

/-- An *and* is split into its children at the signs outside of all parentheses. -/
lemma Group.partsOutside_text {g : Group}
    (hopen : g.Lacks (.char '(')) (hclose : g.Lacks (.char ')')) (hsign : g.Lacks (.char ';'))
    (hall : g.combinator = .all) (hfilled : g.children ≠ []) :
    partsOutside (.char ';') g.text = g.children.map Node.rendering := by
  have hjoined : (g.combinator.text : Text).toList = [.char ';'] := by rw [hall]; decide
  have hnested : ∀ part ∈ g.children.map Node.rendering, Nested (· ≠ .char ';') part.toList := by
    intro part hpart
    obtain ⟨child, hchild, rfl⟩ := List.mem_map.mp hpart
    rw [← Node.text_eq_rendering]
    refine Node.nested (hopen.child hchild) (hclose.child hchild) fun leaf hleaf c hc => ?_
    rintro rfl
    have hnot := Condition.notMem_text (by decide) (by decide) (hsign.child hchild leaf hleaf)
    exact hnot hc
  rw [Group.text_eq_renderings]
  exact Text.partsOutside_intercalate (by decide) (by decide) hjoined (by simpa using hfilled)
    hnested

/-- **Parentheses.**  In the text of a filter whose values hold no parentheses these are balanced,
and as many are opened as there are groups of two or more children below the root.  If no value
holds the sign of *and* either, then every *and* in the filter is split into the renderings of its
children, in their order, at those signs in its text that are outside of all parentheses. -/
theorem Group.parentheses_balanced {g : Group}
    (hopen : g.Lacks (.char '(')) (hclose : g.Lacks (.char ')')) :
    Balanced g.text.toList ∧
      g.text.toList.count (.char '(') = g.groupsBelow.countP Group.several ∧
      (g.Lacks (.char ';') → ∀ h ∈ g.groups, h.combinator = .all → h.children ≠ [] →
        partsOutside (.char ';') h.text = h.children.map Node.rendering) := by
  have hnested : Nested (fun _ => True) g.text.toList :=
    Group.nested_of_children fun child hchild =>
      Node.nested (hopen.child hchild) (hclose.child hchild) fun _ _ _ _ => trivial
  have hbelow : g.text.toList.count (.char '(') = g.groupsBelow.countP Group.several :=
    Group.count_open_of_children fun child hchild => Node.count_open (hopen.child hchild)
  refine ⟨hnested.balanced, hbelow, fun hsign h hmem hall hfilled => ?_⟩
  exact Group.partsOutside_text (hopen.of_mem_groups hmem) (hclose.of_mem_groups hmem)
    (hsign.of_mem_groups hmem) hall hfilled

/-- An *and* of a condition, an *or* in a group of its own, and an *and* of two conditions: two
groups are in parentheses, and the sign inside of the second is none at which the whole is split. -/
theorem Group.parentheses_balanced_nested :
    let condition (value : String) : Node := .condition ⟨.page, .equals, .one value⟩
    let either : Node := .group .any [condition "/b", .condition ⟨.os, .differs, .anyOf ["c", "d"]⟩]
    let both : Node := .group .all [condition "/e", condition "/f"]
    let g : Group := ⟨.all, [condition "/a", .group .all [either], both]⟩
    g.Lacks (.char '(') ∧ g.Lacks (.char ')') ∧ g.Lacks (.char ';') ∧ Balanced g.text.toList ∧
      g.text.toList.count (.char '(') = 2 ∧ partsOutside (.char ';') g.text =
        (["event:page==/a", "(event:page==/b|visit:os!=c|d)",
          "(event:page==/e;event:page==/f)"] : List Text) := by
  intro condition either both g
  have hopen : g.Lacks (.char '(') := by decide
  have hclose : g.Lacks (.char ')') := by decide
  have hsign : g.Lacks (.char ';') := by decide
  obtain ⟨hbalanced, hcount, hsplit⟩ := Group.parentheses_balanced hopen hclose
  have hbelow : g.groupsBelow.countP Group.several = 2 := by decide
  have hself : g ∈ g.groups := by
    rw [Group.groups, Group.node, Node.groups_group]
    exact List.mem_cons_self
  have hparts := hsplit hsign g hself rfl (List.cons_ne_nil _ _)
  have htexts : g.children.map Node.rendering = (["event:page==/a",
      "(event:page==/b|visit:os!=c|d)", "(event:page==/e;event:page==/f)"] : List Text) := by
    decide
  exact ⟨hopen, hclose, hsign, hbalanced, hcount.trans hbelow, hparts.trans htexts⟩

end SiteStats.Filter
