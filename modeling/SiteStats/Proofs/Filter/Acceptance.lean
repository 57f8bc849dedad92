import SiteStats.Filter.Schema
import SiteStats.Proofs.Filter.Tree
import SiteStats.Proofs.Schema.Acceptance

/-!
# Filters that are accepted

What the checks of explicit filters accept, part by part and without the flaws of what they refuse.
Each lemma names the fields that are looked at and what has to be found there; fields that are not
named in it do not count.
-/

namespace SiteStats.Filter

open SiteStats.Schema

/-! ## Operands -/

/-- The field `kind` is missing or holds that word. -/
def KindIs (word : String) (fields : Fields) : Prop :=
  fields.lookup "kind" = none ∨ fields.lookup "kind" = some (.text word)

lemma kind_eq_ok_iff {word : String} {fields : Fields} :
    Checked.defaulted "kind" () (tag word) fields = .ok () ↔ KindIs word fields := by
  rw [Checked.defaulted_eq_ok_iff, KindIs]
  simp

/-- A part of a filter that stands where a list is expected holds pairs, and pairs are lists. -/
lemma pairsOf_eq_cons (part : Part) :
    ∃ name rest, Value.pairsOf part = .list [.text name] :: rest := by
  rcases part with values | (leaf | ⟨c, children⟩) <;> exact ⟨_, _, rfl⟩

lemma alternatives_eq_ok_iff {value : Value} {values : List Text} :
    alternatives value = .ok values ↔ value = .list (values.map .text) ∧ values ≠ [] := by
  cases value with
  | list items => simp [alternatives, Value.members?, each_text_eq_ok_iff]
  | part built =>
    obtain ⟨name, rest, hpairs⟩ := pairsOf_eq_cons built
    simp only [alternatives, Value.members?, hpairs, Checked.obeying_eq_ok_iff,
      each_text_eq_ok_iff]
    cases values <;> simp
  | _ => simp [alternatives, Value.members?]

lemma Operand.checkAlternatives_eq_ok_iff {value : Value} {values : List Text} :
    Operand.checkAlternatives value = .ok values ↔
      value = .part (.alternatives values) ∨
        ∃ fields : Fields, value = .object fields ∧ KindIs "any_of" fields ∧
          fields.lookup "values" = some (.list (values.map .text)) ∧ values ≠ [] := by
  cases value with
  | object fields =>
    simp only [checkAlternatives, Checked.combine_eq_ok_iff, Checked.required_eq_ok_iff,
      alternatives_eq_ok_iff]
    constructor
    · rintro ⟨⟨⟩, values, hkind, ⟨_, hvalues, rfl, hne⟩, rfl⟩
      exact .inr ⟨fields, rfl, kind_eq_ok_iff.mp hkind, hvalues, hne⟩
    · rintro (⟨⟨⟩⟩ | ⟨_, ⟨⟩, hkind, hvalues, hne⟩)
      exact ⟨(), values, kind_eq_ok_iff.mpr hkind, ⟨_, hvalues, rfl, hne⟩, rfl⟩
  | part built => cases built <;> simp [checkAlternatives]
  | _ => simp [checkAlternatives]

lemma Operand.check_eq_ok_iff {value : Value} {o : Operand} :
    Operand.check value = .ok o ↔
      (∃ t, value = .text t ∧ o = .one t) ∨
        ∃ values, Operand.checkAlternatives value = .ok values ∧ o = .anyOf values := by
  unfold Operand.check
  cases htext : Schema.text value with
  | ok t =>
    obtain rfl := text_eq_ok_iff.mp htext
    have hnot : ∀ values, checkAlternatives (.text t) ≠ .ok values := by simp [checkAlternatives]
    simp [hnot, eq_comm (b := o)]
  | error e =>
    have hnot : ∀ t, value ≠ .text t := by
      rintro t rfl
      simp [Schema.text] at htext
    cases checkAlternatives value with
    | ok values => simp [hnot, eq_comm (b := o)]
    | error e' => simp [hnot]

/-! ## Conditions -/

/-- The comparison that the field `operator` of a condition names; equality when it is missing. -/
def NamesComparison (operator : Option Value) (c : Comparison) : Prop :=
  (operator = none ∧ c = .equals) ∨ operator = some (.text c.text)

lemma comparison_eq_ok_iff {fields : Fields} {c : Comparison} :
    Checked.defaulted "operator" Comparison.equals (member Comparison) fields = .ok c ↔
      NamesComparison (fields.lookup "operator") c := by
  simp only [Checked.defaulted_eq_ok_iff, NamesComparison, eq_comm (b := c), member_eq_ok_iff,
    exists_eq_right]
  rfl

lemma Condition.allowed_iff {c : Condition} :
    c.allowed = true ↔ ∀ values, c.operand = .anyOf values → c.comparison = .equals := by
  obtain ⟨p, comparison, o⟩ := c
  cases o <;> simp [Condition.allowed]

lemma Condition.ofFields_eq_ok_iff {fields : Fields} {c : Condition} :
    Condition.ofFields fields = .ok c ↔
      KindIs "condition" fields ∧ fields.lookup "property" = some (.text c.property.text) ∧
        NamesComparison (fields.lookup "operator") c.comparison ∧
          (∃ value, fields.lookup "value" = some value ∧ Operand.check value = .ok c.operand) ∧
            c.allowed = true := by
  simp only [Condition.ofFields, Checked.obeying_eq_ok_iff, Checked.combine_eq_ok_iff,
    comparison_eq_ok_iff, Checked.required_eq_ok_iff]
  constructor
  · rintro ⟨⟨⟨p, comparison⟩, o, ⟨⟨⟨⟩, q⟩, d, hboth, hcomparison, hparts⟩, hvalue, rfl⟩, hallowed⟩
    obtain ⟨rfl, rfl⟩ := Prod.mk.inj hparts
    rw [Checked.both_eq_ok_iff, kind_eq_ok_iff, Checked.required_eq_ok_iff] at hboth
    obtain ⟨hkind, value, hproperty, hmember⟩ := hboth
    obtain rfl := member_eq_ok_iff.mp hmember
    exact ⟨hkind, hproperty, hcomparison, hvalue, hallowed⟩
  · rintro ⟨hkind, hproperty, hcomparison, hvalue, hallowed⟩
    refine ⟨⟨(c.property, c.comparison), c.operand, ⟨((), c.property), c.comparison, ?_,
      hcomparison, rfl⟩, hvalue, rfl⟩, hallowed⟩
    rw [Checked.both_eq_ok_iff, kind_eq_ok_iff, Checked.required_eq_ok_iff]
    exact ⟨hkind, _, hproperty, member_eq_ok_iff.mpr rfl⟩

/-! ## Groups -/

section Levels

variable {levels : Nat}

lemma checkItems_eq_ok_iff {position : Nat} {items : List Value} {nodes : List Node} :
    checkItems levels position items = .ok nodes ↔
      List.Forall₂ (fun item node => checkChild levels item = .ok node) items nodes := by
  induction items generalizing position nodes with
  | nil => simp [checkItems, eq_comm]
  | cons item rest ih =>
    simp only [checkItems, Checked.combine_eq_ok_iff, Checked.under_eq_ok_iff, ih,
      List.forall₂_cons_left_iff]
    constructor
    · rintro ⟨node, nodes, hnode, hnodes, rfl⟩
      exact ⟨node, nodes, hnode, hnodes, rfl⟩
    · rintro ⟨node, nodes, hnode, hnodes, rfl⟩
      exact ⟨node, nodes, hnode, hnodes, rfl⟩

lemma checkChildren_eq_ok_iff {value : Value} {nodes : List Node} :
    checkChildren levels value = .ok nodes ↔
      ∃ items, value = .list items ∧
        List.Forall₂ (fun item node => checkChild levels item = .ok node) items nodes ∧
          nodes ≠ [] := by
  cases value with
  | list items => simp [checkChildren, checkItems_eq_ok_iff]
  | part built =>
    obtain ⟨name, rest, hpairs⟩ := pairsOf_eq_cons built
    simp [checkChildren, hpairs, Checked.each_eq_ok_iff, List.forall₂_cons_left_iff]
  | _ => simp [checkChildren]

/-- The combinator that the field `operator` of an explicit group names; *and* when it is
missing. -/
def NamesSign (operator : Option Value) (c : Combinator) : Prop :=
  (operator = none ∧ c = .all) ∨ operator = some (.text c.text)

lemma combinator_eq_ok_iff {fields : Fields} {c : Combinator} :
    Checked.defaulted "operator" Combinator.all (member Combinator) fields = .ok c ↔
      NamesSign (fields.lookup "operator") c := by
  simp only [Checked.defaulted_eq_ok_iff, NamesSign, eq_comm (b := c), member_eq_ok_iff,
    exists_eq_right]
  rfl

lemma Group.ofFields_eq_ok_iff {fields : Fields} {g : Group} :
    Group.ofFields fields (checkChildrenField levels fields) = .ok g ↔
      KindIs "group" fields ∧ NamesSign (fields.lookup "operator") g.combinator ∧
        ∃ items, fields.lookup "children" = some (.list items) ∧
          List.Forall₂ (fun item node => checkChild levels item = .ok node) items g.children ∧
            g.children ≠ [] := by
  simp only [Group.ofFields, Checked.combine_eq_ok_iff, checkChildrenField_eq,
    Checked.required_eq_ok_iff, combinator_eq_ok_iff, checkChildren_eq_ok_iff]
  constructor
  · rintro ⟨c, children, ⟨⟨⟩, d, hkind, hcombinator, rfl⟩, ⟨_, hlookup, hlist⟩, rfl⟩
    obtain ⟨items, rfl, hitems, hne⟩ := hlist
    exact ⟨kind_eq_ok_iff.mp hkind, hcombinator, items, hlookup, hitems, hne⟩
  · rintro ⟨hkind, hcombinator, items, hlookup, hitems, hne⟩
    exact ⟨g.combinator, g.children, ⟨(), g.combinator, kind_eq_ok_iff.mpr hkind, hcombinator, rfl⟩,
      ⟨_, hlookup, items, rfl, hitems, hne⟩, rfl⟩

/-- A child is built already, or an object that is what its `kind` says.  For a group there has to
be room, built or not. -/
lemma checkChild_eq_ok_iff {value : Value} {node : Node} :
    checkChild levels value = .ok node ↔
      (value = .part (.node node) ∧ (levels = 0 → ∃ leaf, node = .condition leaf)) ∨
        ∃ fields : Fields, value = .object fields ∧
          ((fields.lookup "kind" = some (.text "condition") ∧
              ∃ leaf, Condition.ofFields fields = .ok leaf ∧ Node.condition leaf = node) ∨
            (fields.lookup "kind" = some (.text "group") ∧ ∃ below, levels = below + 1 ∧
              ∃ g, Group.ofFields fields (checkChildrenField below fields) = .ok g ∧
                g.node = node)) := by
  cases value with
  | object fields =>
    simp only [checkChild, Tagged.ofFields, reduceCtorEq, Value.object.injEq, exists_eq_left',
      false_and, false_or]
    cases Fields.lookup fields "kind" with
    | none => simp
    | some kind =>
      by_cases hcondition : kind = .text "condition"
      · simp [hcondition]
      · by_cases hgroup : kind = .text "group"
        · cases levels <;> simp [hgroup]
        · simp [hcondition, hgroup]
  | part built =>
    rcases built with values | (leaf | ⟨c, children⟩) <;> cases levels <;>
      simp +contextual [checkChild, eq_comm (b := node)]
  | _ => simp [checkChild]

end Levels

end SiteStats.Filter
