import SiteStats.Proofs.Filter.Grammar
import SiteStats.Proofs.Json.Reading

/-!
# Filters written down and read again

A filter can be written as a document in two forms.  In explicit form every node says what it is and
combinators stand for themselves; in wire form nothing says what it is and combinators are called by
their names.  Both are texts in the end, and reading any of those texts gives the filter back.

The way back has two halves.  That the text is read as the document is a matter of JSON alone
(`Json.read_of_spellsText`); that the document is read as the filter is a matter of the grammar of
documents alone, for which `Node.describes_written` has to be shown.  Both ask how deep the filter
is: its groups may only stand so deep in each other, and the reader has to have room for the two
levels that a document has for each of them (`Node.nesting_written`).
-/

namespace SiteStats.Filter

/-! ## Written filters -/

/-- The forms in which a filter is written down. -/
inductive Form where
  | explicit | wire
deriving DecidableEq, Repr

/-- What stands in a document of that form for a combinator. -/
def Form.combinator : Form → Combinator → String
  | explicit, c => c.text
  | wire, c => c.name

/-- What a document of that form says of the kind of an object. -/
def Form.kind : Form → String → Fields
  | explicit, word => [("kind", .text word)]
  | wire, _ => []

/-- What a document of that form says of how alternatives are joined. -/
def Form.separator : Form → Fields
  | explicit => []
  | wire => [("operator", .text Operand.separator)]

/-- An operand, written down. -/
def Operand.written (form : Form) : Operand → Value
  | .one s => .text s
  | .anyOf values =>
    .object (form.kind "any_of" ++ form.separator ++
      ([("values", .list (values.map .text))] : Fields))

/-- A condition, written down. -/
def Condition.written (form : Form) (c : Condition) : Value :=
  .object (form.kind "condition" ++
    ([("property", .text c.property.text), ("operator", .text c.comparison.text),
      ("value", c.operand.written form)] : Fields))

mutual

/-- A node, written down. -/
def Node.written (form : Form) : Node → Value
  | .condition leaf => leaf.written form
  | .group combinator children =>
    .object (form.kind "group" ++
      ([("operator", .text (form.combinator combinator)),
        ("children", .list (Node.allWritten form children))] : Fields))

/-- The nodes of a list, written down. -/
def Node.allWritten (form : Form) : List Node → List Value
  | [] => []
  | child :: rest => child.written form :: Node.allWritten form rest

end

lemma Node.allWritten_eq_map (form : Form) (nodes : List Node) :
    Node.allWritten form nodes = nodes.map (Node.written form) := by
  induction nodes with
  | nil => simp [Node.allWritten]
  | cons node rest ih => simp [Node.allWritten, ih]

@[simp] lemma Node.written_condition (form : Form) (leaf : Condition) :
    (Node.condition leaf).written form = leaf.written form := by
  rw [Node.written]

lemma Node.written_group (form : Form) (c : Combinator) (children : List Node) :
    (Node.group c children).written form = .object (form.kind "group" ++
      ([("operator", .text (form.combinator c)),
        ("children", .list (children.map (Node.written form)))] : Fields)) := by
  rw [Node.written, Node.allWritten_eq_map]

/-! ## What they describe -/

lemma Form.lookup_kind {form : Form} {word : String} {name : Text} {rest : Fields}
    (h : name ≠ "kind") :
    Fields.lookup (form.kind word ++ rest) name = rest.lookup name := by
  have hbeq : (name == ("kind" : Text)) = false := by simpa using h
  cases form with
  | explicit => simp [Form.kind, List.lookup_cons, hbeq]
  | wire => rfl

lemma Form.namesCombinator (form : Form) (c : Combinator) :
    NamesCombinator (some (.text (form.combinator c))) c := by
  cases form with
  | explicit => exact .inr (.inl rfl)
  | wire => exact .inr (.inr rfl)

lemma Operand.describes_written {o : Operand} {c : Comparison} (form : Form) (valid : o.Valid)
    (allowed : ∀ values, o = .anyOf values → c = .equals) :
    DescribesOperand (o.written form) c o := by
  cases o with
  | one t => exact .one t c
  | anyOf values =>
    obtain rfl := allowed values rfl
    refine .anyOf ?_ ?_ valid
    · cases form with
      | explicit => exact .inl rfl
      | wire => exact .inr rfl
    · cases form <;> rfl

lemma Condition.describes_written {c : Condition} (form : Form) (valid : c.Valid) :
    Describes (c.written form) (.condition c) := by
  refine .condition ?_ ⟨?_, ?_, c.operand.written form, ?_, ?_⟩
  · exact Form.lookup_kind (by decide)
  · exact Form.lookup_kind (by decide)
  · exact .inr (Form.lookup_kind (by decide))
  · exact Form.lookup_kind (by decide)
  · exact Operand.describes_written form valid.1 valid.2

/-- **A written node describes that node**, whatever the form and the depth. -/
theorem Node.describes_written {node : Node} (form : Form) (valid : node.Valid) :
    Describes (node.written form) node := by
  induction node with
  | condition leaf =>
    rw [Node.written_condition]
    exact Condition.describes_written form ((Node.valid_condition leaf).mp valid)
  | group c children ih =>
    obtain ⟨filled, hvalid⟩ := (Node.valid_group c children).mp valid
    rw [Node.allValid_iff] at hvalid
    rw [Node.written_group]
    refine .group (Form.lookup_kind (by decide)) ?_ ?_ filled
    · rw [Form.lookup_kind]
      · exact form.namesCombinator c
      · decide
    · rw [List.forall₂_map_left_iff, List.forall₂_same]
      exact fun child hchild => ih child hchild (hvalid child hchild)

/-! ## Their texts -/

section Texts

open Json

lemma Operand.spells_written (form : Form) (o : Operand) :
    Spells (o.written form) (write (o.written form)) := by
  cases o with
  | one t => exact spells_write_text t
  | anyOf values =>
    have hvalues : ∀ item ∈ values.map Value.text, Spells item (write item) := by
      intro item hitem
      obtain ⟨t, -, rfl⟩ := List.mem_map.mp hitem
      exact spells_write_text t
    refine spells_write_object ?_ ?_
    · cases form <;> simp [Form.kind, Form.separator]
    · cases form <;> simp [Form.kind, Form.separator, spells_write_text, spells_write_list hvalues]

lemma Condition.spells_written (form : Form) (c : Condition) :
    Spells (c.written form) (write (c.written form)) := by
  have hoperand := c.operand.spells_written form
  refine spells_write_object ?_ ?_
  · cases form <;> simp [Form.kind]
  · cases form <;> simp [Form.kind, spells_write_text, hoperand]

lemma Node.spells_written (form : Form) (node : Node) :
    Spells (node.written form) (write (node.written form)) := by
  induction node with
  | condition leaf =>
    rw [Node.written_condition]
    exact leaf.spells_written form
  | group c children ih =>
    have hchildren : ∀ item ∈ children.map (Node.written form), Spells item (write item) := by
      intro item hitem
      obtain ⟨child, hchild, rfl⟩ := List.mem_map.mp hitem
      exact ih child hchild
    rw [Node.written_group]
    refine spells_write_object ?_ ?_
    · cases form <;> simp [Form.kind]
    · cases form <;> simp [Form.kind, spells_write_text, spells_write_list hchildren]

/-- The text of a written filter in its shortest form. -/
def Group.document (form : Form) (g : Group) : Text :=
  ⟨write (g.node.written form)⟩

end Texts

end SiteStats.Filter
