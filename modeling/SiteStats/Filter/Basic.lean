import SiteStats.Text.Basic
import SiteStats.Vocabulary

/-!
# Filters

A filter is a tree. Its leaves compare one property with a value or with a list of alternatives, its
inner nodes join at least one child with *and* or with *or*.

The types below admit more trees than are filters: a group may be empty, a list of alternatives may
be empty, and alternatives may stand after `!=`. `Node.Valid` and `Group.Valid` say which trees are
filters. Every way to come by a tree keeps to them, which is why they are a predicate on one plain
type and not three types with proofs inside.
-/

namespace SiteStats.Filter

/-! ## The words of a filter -/

/-- How a condition compares: the property equals the value, or differs from it. -/
inductive Comparison where
  | equals | differs
deriving DecidableEq, Repr

namespace Comparison

/-- The sign of a comparison on the wire. -/
def text : Comparison → String
  | equals => "=="
  | differs => "!="

instance : Vocabulary Comparison where
  title := "FilterOperator"
  members := [equals, differs]
  text := text
  constant
    | equals => "EQUALS"
    | differs => "NOT_EQUALS"
  find_text member := by cases member <;> decide

end Comparison

/-- How the children of a group are joined: all of them hold, or any of them does. -/
inductive Combinator where
  | all | any
deriving DecidableEq, Repr

namespace Combinator

/-- The sign between the children of a group on the wire. -/
def text : Combinator → String
  | all => ";"
  | any => "|"

/-- The word that may stand for a combinator in a filter document. -/
def name : Combinator → String
  | all => "AND"
  | any => "OR"

instance : Vocabulary Combinator where
  title := "Combinator"
  members := [all, any]
  text := text
  constant := name
  find_text member := by cases member <;> decide

end Combinator

/-! ## Trees -/

/-- What a property is compared with: one value, or several of which any will do. -/
inductive Operand where
  | one (value : Text)
  | anyOf (values : List Text)
deriving DecidableEq, Repr

/-- A leaf of a filter: one comparison of one property. -/
structure Condition where
  property : Property
  comparison : Comparison
  operand : Operand
deriving DecidableEq, Repr

/-- A node of a filter: a condition, or a group of nodes. -/
inductive Node where
  | condition (leaf : Condition)
  | group (combinator : Combinator) (children : List Node)
deriving Repr

/-- A whole filter is a group; only groups can be sent. -/
structure Group where
  combinator : Combinator
  children : List Node
deriving Repr

/-- A group as a node, to be put below another group. -/
def Group.node (g : Group) : Node :=
  .group g.combinator g.children

/-- What can be built of a filter: alternatives, or a node. -/
inductive Part where
  | alternatives (values : List Text)
  | node (node : Node)
deriving Repr

/-- The names of what a part holds. -/
def Part.names : Part → List String
  | .alternatives _ => ["kind", "values"]
  | .node (.condition _) => ["kind", "property", "operator", "value"]
  | .node (.group _ _) => ["kind", "operator", "children"]

/-! ## Validity -/

/-- Alternatives are never none. -/
def Operand.Valid : Operand → Prop
  | .one _ => True
  | .anyOf values => values ≠ []

/-- Alternatives are never none, and they stand only where equality is asked for. -/
def Condition.Valid (c : Condition) : Prop :=
  c.operand.Valid ∧ ∀ values, c.operand = .anyOf values → c.comparison = .equals

mutual

/-- Every group of the tree has a child and every condition in it is valid. -/
def Node.Valid : Node → Prop
  | .condition leaf => leaf.Valid
  | .group _ children => children ≠ [] ∧ Node.AllValid children

/-- Every node of the list is valid. -/
def Node.AllValid : List Node → Prop
  | [] => True
  | child :: rest => child.Valid ∧ Node.AllValid rest

end

/-- A filter is valid when it is so as a node. -/
def Group.Valid (g : Group) : Prop :=
  g.node.Valid

@[simp] theorem Node.valid_condition (leaf : Condition) :
    (Node.condition leaf).Valid ↔ leaf.Valid := by
  simp [Node.Valid]

@[simp] theorem Node.valid_group (c : Combinator) (children : List Node) :
    (Node.group c children).Valid ↔ children ≠ [] ∧ Node.AllValid children := by
  simp [Node.Valid]

@[simp] theorem Node.allValid_nil : Node.AllValid [] := by
  simp [Node.AllValid]

@[simp] theorem Node.allValid_cons (child : Node) (rest : List Node) :
    Node.AllValid (child :: rest) ↔ child.Valid ∧ Node.AllValid rest := by
  simp [Node.AllValid]

theorem Node.allValid_iff (nodes : List Node) :
    Node.AllValid nodes ↔ ∀ node ∈ nodes, node.Valid := by
  induction nodes with
  | nil => simp
  | cons node rest ih => simp [ih]

theorem Group.valid_iff (g : Group) :
    g.Valid ↔ g.children ≠ [] ∧ ∀ child ∈ g.children, child.Valid := by
  simp [Group.Valid, Group.node, Node.allValid_iff]

end SiteStats.Filter
