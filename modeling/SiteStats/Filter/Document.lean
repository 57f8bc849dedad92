import SiteStats.Filter.Schema
import SiteStats.Filter.Text
import SiteStats.Json.Reader

/-!
# Filter documents

A filter can be written down as a document, an object or a JSON text of one, in which nodes need not
say what they are: an object with `children` is a group and any other a condition. Combinators may
be called `AND` and `OR`, and alternatives are an object with `values`. Reading a document takes two
passes. The first brings it into explicit form and stops at the first node that cannot be one, in
the order in which the nodes are written; the second checks the explicit form as a whole.
-/

namespace SiteStats.Filter

open SiteStats.Schema

/-- Why a document is no filter. -/
inductive DocumentFault where
  | unreadable (fault : Json.LocatedFault)
  | beyond (limit : Json.Limit)
  | rootNotObject
  | rootNotGroup
  | nodeNotObject
  | childrenNotList
  | operatorNotWord (kind : String)
  | alternativesOperator
  | invalid (reason : Rejection)
deriving DecidableEq, Repr

/-- What is said of a text that is not JSON. -/
def DocumentFault.unreadableText : String := "filter DSL JSON parse error"

/-- What is said of a document that is no filter. -/
def DocumentFault.malformedText : String := "invalid filter DSL"

/-- The text of a document fault. What is wrong with the explicit form is listed beside the text. -/
def DocumentFault.message : DocumentFault → String
  | unreadable fault => unreadableText ++ ": " ++ fault.message
  | beyond limit => limit.message
  | rootNotObject => malformedText ++ ": root must be an object"
  | rootNotGroup => malformedText ++ ": root must be a group"
  | nodeNotObject => malformedText ++ ": every node must be an object"
  | childrenNotList => malformedText ++ ": 'children' must be a list"
  | operatorNotWord kind => s!"unhashable type: '{kind}'"
  | alternativesOperator => malformedText ++ ": any-of operator must be '|'"
  | invalid _ => malformedText

/-- The kinds of error as which a document is refused: an error that speaks of the document, or one
of an operation on a part of it or of the reader at its limits, which is passed on as it is. -/
inductive ErrorKind where
  | compilation
  | unhashable
  | overflow
  | limit
deriving DecidableEq, Repr

/-- The kind of error as which a document fault comes out. -/
def DocumentFault.errorKind : DocumentFault → ErrorKind
  | operatorNotWord _ => .unhashable
  | invalid .outOfCalendar => .overflow
  | beyond _ => .limit
  | unreadable _ | rootNotObject | rootNotGroup | nodeNotObject | childrenNotList
  | alternativesOperator | invalid (.flawed _) => .compilation

/-! ## Explicit form -/

/-- The operator of a group in explicit form: *and* when there is none, the sign of a combinator
that is called by its name, and anything else as it stands. Lists and objects are refused. -/
def explicitOperator : Option Value → Except DocumentFault Value
  | none => .ok (.text Combinator.all.text)
  | some (.list items) => .error (.operatorNotWord (Value.list items).kind)
  | some (.object fields) => .error (.operatorNotWord (Value.object fields).kind)
  | some value =>
    match [Combinator.all, Combinator.any].find? fun c => value.isText c.name with
    | some combinator => .ok (.text combinator.text)
    | none => .ok value

/-- The alternatives that an object stands for, in explicit form. -/
def explicitAlternatives (fields : Fields) : Except DocumentFault Value :=
  if ((fields.lookup "operator").getD (.text Operand.separator)).isText Operand.separator then
    .ok (.object [("kind", .text "any_of"), ("values", (fields.lookup "values").getD .null)])
  else
    .error .alternativesOperator

/-- A condition in explicit form: its kind is set, and its value too where it is an object. -/
def explicitCondition (fields : Fields) : Except DocumentFault Value :=
  let tagged := fields.set "kind" (.text "condition")
  match fields.lookup "value" with
  | some (.object inner) =>
    (explicitAlternatives inner).map fun value => .object (tagged.set "value" value)
  | _ => .ok (.object tagged)

mutual

/-- A node in explicit form. -/
def explicitNode : Value → Except DocumentFault Value
  | .object fields =>
    match explicitGroup? (Fields.lookup fields "operator") fields with
    | some group => group
    | none => explicitCondition fields
  | _ => .error .nodeNotObject

/-- The group in explicit form that the fields of a node hold, if there are children among them. -/
def explicitGroup? (operator : Option Value) :
    List (Text × Value) → Option (Except DocumentFault Value)
  | [] => none
  | (name, value) :: rest =>
    if name = "children" then some (explicitGroup operator value) else explicitGroup? operator rest

/-- A group in explicit form, from its operator and its children. -/
def explicitGroup (operator : Option Value) : Value → Except DocumentFault Value
  | .list items => do
    let operator ← explicitOperator operator
    let children ← explicitItems items
    return .object [("kind", .text "group"), ("operator", operator), ("children", .list children)]
  | _ => .error .childrenNotList

/-- The nodes of a list in explicit form. -/
def explicitItems : List Value → Except DocumentFault (List Value)
  | [] => .ok []
  | item :: rest => do
    let first ← explicitNode item
    let others ← explicitItems rest
    return first :: others

end

/-- A node has children exactly when there is a field of that name. -/
theorem explicitGroup?_eq (operator : Option Value) (fields : Fields) :
    explicitGroup? operator fields = (fields.lookup "children").map (explicitGroup operator) := by
  induction fields with
  | nil => simp [explicitGroup?]
  | cons field rest ih =>
    obtain ⟨name, value⟩ := field
    by_cases h : name = "children"
    · simp [explicitGroup?, h]
    · have h' : (("children" : Text) == name) = false := by simpa using Ne.symm h
      simp [explicitGroup?, h, ih, List.lookup_cons, h']

/-! ## Reading -/

/-- Reads a document that is no text. -/
def Group.ofObject (document : Value) : Except DocumentFault Group :=
  match document with
  | .object fields =>
    if (Fields.lookup fields "children").isNone then .error .rootNotGroup
    else
      match explicitNode document with
      | .ok explicit => (Group.check explicit).mapError .invalid
      | .error fault => .error fault
  | _ => .error .rootNotObject

/-- What stops the reading of a text as a fault of the document that it is. -/
def DocumentFault.ofRead : Json.ReadFault → DocumentFault
  | .malformed fault => .unreadable fault
  | .beyond limit => .beyond limit

variable [Json.Room]

/-- Reads a document; a text is read as JSON first. -/
def Group.ofDocument : Value → Except DocumentFault Group
  | .text t => ((Json.read t).mapError .ofRead).bind Group.ofObject
  | document => Group.ofObject document

/-- The text of the filter that a document describes, or that is built already. -/
def compile : Value → Except DocumentFault Text
  | .part (.node (.group combinator children)) => .ok (Group.mk combinator children).text
  | document => (Group.ofDocument document).map Group.text

end SiteStats.Filter
