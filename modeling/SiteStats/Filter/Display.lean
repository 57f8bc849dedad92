import SiteStats.Filter.Basic
import SiteStats.Text.Quoted

/-!
# Filters in messages

A message that has to show a filter shows how it was put together: the name of what it is, and each
of its parts by name. `Part.shown` is that form in full, `Part.display` the parts alone.
-/

namespace SiteStats

/-- A word with its vocabulary and its constant name, as in `<Period.DAY: 'day'>`. -/
def Vocabulary.shown {α : Type} [Vocabulary α] (member : α) : String :=
  "<" ++ title α ++ "." ++ constant member ++ ": " ++ Text.quoted (text member) ++ ">"

/-- Texts in parentheses with commas between them; a single one is followed by a comma. -/
def shownTuple (items : List String) : String :=
  "(" ++ ", ".intercalate items ++ (if items.length = 1 then ",)" else ")")

namespace Filter

/-- The parts of alternatives. -/
def alternativesParts (values : List Text) : List String :=
  ["kind='any_of'", "values=" ++ shownTuple (values.map Text.quoted)]

/-- Alternatives in full. -/
def shownAlternatives (values : List Text) : String :=
  "AnyOf(" ++ ", ".intercalate (alternativesParts values) ++ ")"

/-- Alternatives are shown by name, one value as a quoted text. -/
def Operand.shown : Operand → String
  | .one value => Text.quoted value
  | .anyOf values => shownAlternatives values

/-- The parts of a condition. -/
def Condition.parts (c : Condition) : List String :=
  ["kind='condition'", "property=" ++ Vocabulary.shown c.property,
    "operator=" ++ Vocabulary.shown c.comparison, "value=" ++ c.operand.shown]

/-- The parts of a group whose children are shown by `children`. -/
def Group.partsOf (combinator : Combinator) (children : List String) : List String :=
  ["kind='group'", "operator=" ++ Vocabulary.shown combinator, "children=" ++ shownTuple children]

mutual

/-- A node in full. -/
def Node.shown : Node → String
  | .condition leaf => "FilterCondition(" ++ ", ".intercalate leaf.parts ++ ")"
  | .group combinator children =>
    "FilterGroup(" ++ ", ".intercalate (Group.partsOf combinator (Node.allShown children)) ++ ")"

/-- The nodes of a list in full. -/
def Node.allShown : List Node → List String
  | [] => []
  | child :: rest => child.shown :: Node.allShown rest

end

/-- What a part of a filter is called in messages. -/
def Part.title : Part → String
  | .alternatives _ => "AnyOf"
  | .node (.condition _) => "FilterCondition"
  | .node (.group _ _) => "FilterGroup"

/-- The tag that says in a document what a part of a filter is. -/
def Part.kind : Part → String
  | .alternatives _ => "any_of"
  | .node (.condition _) => "condition"
  | .node (.group _ _) => "group"

/-- A part of a filter in full. -/
def Part.shown : Part → String
  | .alternatives values => shownAlternatives values
  | .node value => value.shown

/-- What a part of a filter holds, with blanks between. -/
def Part.display : Part → String
  | .alternatives values => " ".intercalate (alternativesParts values)
  | .node (.condition leaf) => " ".intercalate leaf.parts
  | .node (.group combinator children) =>
    " ".intercalate (Group.partsOf combinator (Node.allShown children))

end Filter

end SiteStats
