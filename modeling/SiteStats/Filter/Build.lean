import SiteStats.Failure

/-!
# Building filters

A filter can also be put together from its parts. A `Plan` says how: a condition from a property, a
sign and a value (a list of values makes alternatives), a group from the plans of its children. The
parts of each step are made first, and the step that fails is the one that is reported. Once built,
a filter does not change.
-/

namespace SiteStats.Filter

open SiteStats.Schema

/-- How to put a filter together. -/
inductive Plan where
  | condition (property comparison operand : Value)
  | group (combinator : Combinator) (children : List Plan)
deriving Inhabited

/-- The operand from what is given for it: a list makes alternatives at once, anything else waits
for the condition to be put together. -/
def Operand.build (given : Value) : Except Failure (Checked Operand) :=
  match given with
  | .list _ =>
    let values := Checked.under (.field "values") (alternatives given)
    (values.titled Operand.alternativesTitle).map fun values => .ok (.anyOf values)
  | value => .ok ((Operand.check value).under (.field "value"))

/-- A condition, its parts made in the order operand, property, sign. -/
def Condition.build (property comparison operand : Value) : Except Failure Condition := do
  let operand ← Operand.build operand
  let property ← Failure.readMember Property property
  let comparison ← Failure.readMember Comparison comparison
  (Condition.ofParts property comparison operand).titled Condition.title

/-- A group of nodes that are built already. -/
def Group.build (combinator : Combinator) (children : List Node) : Except Failure Group :=
  let children := Checked.obeying .emptyGroup (!·.isEmpty) (.ok children)
  ((children.under (.field "children")).map (Group.mk combinator)).titled Group.title

mutual

/-- Carries out a plan. -/
def Plan.build : Plan → Except Failure Node
  | .condition property comparison operand =>
    (Condition.build property comparison operand).map Node.condition
  | .group combinator children => do
    let children ← Plan.buildAll children
    (Group.build combinator children).map Group.node

/-- Carries out plans one after the other. -/
def Plan.buildAll : List Plan → Except Failure (List Node)
  | [] => .ok []
  | plan :: rest => do
    let node ← plan.build
    let nodes ← Plan.buildAll rest
    return node :: nodes

end

/-- What comes of giving a new value to a field of a built filter, or of a part of it, that has this
title: nothing. The attempt is refused, unless the name is hidden and thus names no part of the
filter at all. -/
def assign (title field : String) (value : Value) : Except Failure Unit :=
  match hiddenFault? title title field value with
  | some fault => .error (.reserved fault)
  | none =>
    if isHidden field then .ok ()
    else (Checked.under (.field field) (Checked.flaw .frozen)).titled title

end SiteStats.Filter
