import SiteStats.Filter.Basic
import SiteStats.Schema.Scalar

/-!
# Filters in explicit form

A filter in explicit form is an object whose nodes say by a `kind` what they are. `Group.check`,
`Condition.check` and `Operand.check` accept these objects, and parts of filters that are already
built. A node is looked at as what its `kind` says, a group has to have children and alternatives
have to have entries; other fields than those of the form make no difference. Groups in explicit
form can stand in each other only up to a certain depth, and what is built already counts for a
single level.
-/

namespace SiteStats.Filter

open SiteStats.Schema
open Checked (flaw)

/-- Alternatives are a list of texts with at least one entry. -/
def alternatives (value : Value) : Checked (List Text) :=
  match value.members? with
  | some items => (Checked.each Schema.text 0 items).obeying .emptyAlternatives (!·.isEmpty)
  | none => flaw .notTuple

namespace Operand

/-- What alternatives are called in messages. -/
def alternativesTitle : String := "AnyOf"

/-- Alternatives, built or in explicit form. -/
def checkAlternatives : Value → Checked (List Text)
  | .part (.alternatives values) => .ok values
  | .object fields =>
    (Checked.defaulted "kind" () (tag "any_of") fields).combine (fun () values => values)
      (Checked.required "values" alternatives fields)
  | _ => flaw (.notModel alternativesTitle)

/-- One text, or alternatives. When it is neither, the flaws of both readings are
reported. -/
def check (value : Value) : Checked Operand :=
  match Schema.text value with
  | .ok s => .ok (.one s)
  | .error e =>
    match checkAlternatives value with
    | .ok values => .ok (.anyOf values)
    | .error e' =>
      Checked.combine (fun (_ : Text) operand => operand)
        (Checked.under (.field "str") (.error e))
        (Checked.under (.field alternativesTitle) (.error e'))

end Operand

namespace Condition

/-- Alternatives stand only where equality is asked for. -/
def allowed (c : Condition) : Bool :=
  match c.operand with
  | .one _ => true
  | .anyOf _ => c.comparison = .equals

/-- A condition from its parts. -/
def ofParts (property : Property) (comparison : Comparison) (operand : Checked Operand) :
    Checked Condition :=
  (operand.map (Condition.mk property comparison)).obeying .alternativesDiffer allowed

/-- An object that holds a condition. -/
def ofFields (fields : Fields) : Checked Condition :=
  let parts :=
    ((Checked.defaulted "kind" () (tag "condition") fields).both
      (Checked.required "property" (member Property) fields)).combine
      (fun parts comparison => (parts.2, comparison))
      (Checked.defaulted "operator" Comparison.equals (member Comparison) fields)
  (parts.combine (fun parts operand => Condition.mk parts.1 parts.2 operand)
    (Checked.required "value" Operand.check fields)).obeying .alternativesDiffer allowed

/-- What a condition is called in messages. -/
def title : String := "FilterCondition"

/-- A condition, built or in explicit form. -/
def check : Value → Checked Condition
  | .part (.node (.condition c)) => .ok c
  | .object fields => ofFields fields
  | _ => flaw (.notModel title)

end Condition

namespace Group

/-- What a group is called in messages. -/
def title : String := "FilterGroup"

/-- A group from the fields around its children. -/
def ofFields (fields : Fields) (children : Checked (List Node)) : Checked Group :=
  ((Checked.defaulted "kind" () (tag "group") fields).combine (fun () combinator => combinator)
    (Checked.defaulted "operator" Combinator.all (member Combinator) fields)).combine
      Group.mk children

end Group

/-- What the `kind` of an object says. -/
inductive Tagged where
  | condition
  | group
  | untagged
  | unknown (shown : String)
deriving DecidableEq, Repr

/-- The kind that the fields of an object name. -/
def Tagged.ofFields (fields : Fields) : Tagged :=
  match fields.lookup "kind" with
  | none => .untagged
  | some value =>
    if value.isText "condition" then .condition
    else if value.isText "group" then .group
    else .unknown (if value.isWritable then value.display.lossy
      else s!"<unprintable {value.kind} object>")

/-- How deep groups in explicit form can stand in each other, the root included. -/
def maxLevels : Nat := 255

mutual

/-- A node below a group: built, or an object whose kind says how to take it. There is room for so
many more levels of groups. -/
def checkChild (levels : Nat) : Value → Checked Node
  | .part (.node n) =>
    match levels, n with
    | 0, .group _ _ => Checked.under (.field "group") (flaw .tooDeep)
    | _, n => .ok n
  | .part (.alternatives values) => flaw (.unknownTag (Part.alternatives values).kind)
  | .object fields =>
    match Tagged.ofFields fields with
    | .condition => ((Condition.ofFields fields).map Node.condition).under (.field "condition")
    | .group =>
      match levels with
      | 0 => Checked.under (.field "group") (flaw .tooDeep)
      | levels + 1 =>
        ((Group.ofFields fields (checkChildrenField levels fields)).map Group.node).under
          (.field "group")
    | .untagged => flaw .untagged
    | .unknown shown => flaw (.unknownTag shown)
  | _ => flaw .notRecord

/-- The children among the fields of a group; the first field of that name counts. -/
def checkChildrenField (levels : Nat) : List (Text × Value) → Checked (List Node)
  | [] => Checked.under (.field "children") (flaw .missing)
  | (name, value) :: rest =>
    if name = "children" then (checkChildren levels value).under (.field "children")
    else checkChildrenField levels rest

/-- The children of a group: a list of at least one node. -/
def checkChildren (levels : Nat) : Value → Checked (List Node)
  | .list items => (checkItems levels 0 items).obeying .emptyGroup (!·.isEmpty)
  | .part filter => Checked.each (fun _ => flaw .notRecord) 0 (Value.pairsOf filter)
  | _ => flaw .notTuple

/-- The nodes of a list, counted from `position` on. -/
def checkItems (levels position : Nat) : List Value → Checked (List Node)
  | [] => .ok []
  | item :: rest =>
    ((checkChild levels item).under (.index position)).combine List.cons
      (checkItems levels (position + 1) rest)

end

/-- A group, built or in explicit form. -/
def Group.check : Value → Checked Group
  | .part (.node (.group combinator children)) => .ok ⟨combinator, children⟩
  | .object fields => Group.ofFields fields (checkChildrenField (maxLevels - 1) fields)
  | _ => flaw (.notModel Group.title)

/-- The field that counts is the one that a look-up finds. -/
theorem checkChildrenField_eq (levels : Nat) (fields : Fields) :
    checkChildrenField levels fields =
      Checked.required "children" (checkChildren levels) fields := by
  induction fields with
  | nil => simp [checkChildrenField, Checked.required]
  | cons field rest ih =>
    obtain ⟨name, value⟩ := field
    by_cases h : name = "children"
    · simp [checkChildrenField, Checked.required, h]
    · have h' : (("children" : Text) == name) = false := by simpa using Ne.symm h
      simp [checkChildrenField, h, ih, Checked.required, List.lookup_cons, h']

end SiteStats.Filter
