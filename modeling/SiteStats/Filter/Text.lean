import SiteStats.Filter.Basic

/-!
# The text of a filter and the properties that it names

A filter is sent as one line of text: a condition is its property, its sign and its value
(alternatives are joined by `|`), and the children of a group are joined by the group's sign. A
group below the root stands in parentheses when it has two or more children and counts for nothing
when it has one; the root never stands in parentheses. Whether there are parentheses depends on the
number of children alone, so `(a;b)` keeps them also below another *and*.

`Group.properties` walks the tree from left to right and notes each property when it is met for the
first time.
-/

namespace SiteStats.Filter

/-! ## Text -/

/-- What stands between alternatives. -/
def Operand.separator : String := "|"

/-- One value is written as it is, alternatives are joined by the separator. -/
def Operand.text : Operand → Text
  | .one value => value
  | .anyOf values => Text.intercalate Operand.separator values

/-- A condition is written without any space: property, sign, operand. -/
def Condition.text (c : Condition) : Text :=
  c.property.text ++ c.comparison.text ++ c.operand.text

mutual

/-- A node as it is written below the root. -/
def Node.text : Node → Text
  | .condition leaf => leaf.text
  | .group combinator children =>
    if children.length > 1 then
      "(" ++ Text.intercalate combinator.text (Node.texts children) ++ ")"
    else
      Text.intercalate combinator.text (Node.texts children)

/-- The nodes of a list as they are written below the root. -/
def Node.texts : List Node → List Text
  | [] => []
  | child :: rest => child.text :: Node.texts rest

end

/-- A whole filter: the children joined by the sign, and no parentheses around. -/
def Group.text (g : Group) : Text :=
  Text.intercalate g.combinator.text (Node.texts g.children)

theorem Node.texts_eq_map (nodes : List Node) : Node.texts nodes = nodes.map Node.text := by
  induction nodes with
  | nil => simp [Node.texts]
  | cons node rest ih => simp [Node.texts, ih]

theorem Group.text_eq (g : Group) :
    g.text = Text.intercalate g.combinator.text (g.children.map Node.text) := by
  rw [Group.text, Node.texts_eq_map]

@[simp] theorem Node.text_condition (leaf : Condition) :
    (Node.condition leaf).text = leaf.text := by
  simp [Node.text]

/-- Below the root a group of two or more children stands in parentheses. -/
theorem Node.text_group_of_length {c : Combinator} {children : List Node}
    (h : 1 < children.length) :
    (Node.group c children).text = "(" ++ (Group.mk c children).text ++ ")" := by
  simp [Node.text, Group.text, h]

/-- Below the root a group of one child is written as that child. -/
@[simp] theorem Node.text_group_singleton (c : Combinator) (child : Node) :
    (Node.group c [child]).text = child.text := by
  simp [Node.text, Node.texts]

/-! ## Properties -/

mutual

/-- The properties noted so far, followed by those that this node adds. -/
def Node.noteProperties (seen : List Property) : Node → List Property
  | .condition leaf => if leaf.property ∈ seen then seen else seen ++ [leaf.property]
  | .group _ children => Node.notePropertiesOf seen children

/-- The properties noted so far, followed by those that these nodes add one after the other. -/
def Node.notePropertiesOf (seen : List Property) : List Node → List Property
  | [] => seen
  | child :: rest => Node.notePropertiesOf (child.noteProperties seen) rest

end

/-- The distinct properties of a filter, the first met first. -/
def Group.properties (g : Group) : List Property :=
  g.node.noteProperties []

end SiteStats.Filter
