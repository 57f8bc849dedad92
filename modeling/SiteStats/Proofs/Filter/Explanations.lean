import SiteStats.Proofs.Filter.Faults
import SiteStats.Proofs.Schema.Issues

/-!
# Checks of filters say what they find wrong

A check can also end at a moment outside the calendar, and then it says nothing of the rest.  No
check of a filter does.  That is not shown by looking for the days in a filter: each check is put
together from checks that say what they find wrong, and so it says it too.  Only the nodes below a
group need more than that.  They are checked by a recursion through the lists of children, which
`document_induction` follows.
-/

namespace SiteStats.Filter

open SiteStats.Schema

lemma alternatives_explained (value : Value) : (alternatives value).Explained := by
  unfold alternatives
  cases value.members? with
  | none => exact Checked.explained_flaw _
  | some items =>
    have heach : (Checked.each Schema.text 0 items).Explained :=
      .each (fun item _ => text_explained item) 0
    exact heach.obeying _ _

lemma Operand.checkAlternatives_explained (value : Value) :
    (Operand.checkAlternatives value).Explained := by
  cases value with
  | object fields =>
    have hkind : (Checked.defaulted "kind" () (tag "any_of") fields).Explained :=
      .defaulted (tag_explained "any_of") ()
    have hvalues : (Checked.required "values" alternatives fields).Explained :=
      .required fun value _ => alternatives_explained value
    rw [Operand.checkAlternatives]
    exact hkind.combine hvalues _
  | part built =>
    cases built with
    | alternatives values => exact Checked.explained_ok values
    | node filter => exact Checked.explained_flaw _
  | _ => exact Checked.explained_flaw _

lemma Operand.check_explained (value : Value) : (Operand.check value).Explained := by
  have htext := text_explained value
  have halternatives := Operand.checkAlternatives_explained value
  unfold Operand.check
  cases hone : Schema.text value with
  | ok s => exact Checked.explained_ok _
  | error rejection =>
    rw [hone] at htext
    cases hany : Operand.checkAlternatives value with
    | ok values => exact Checked.explained_ok _
    | error rejection' =>
      rw [hany] at halternatives
      exact (htext.under _).combine (halternatives.recast.under _) _

lemma Condition.ofFields_explained (fields : Fields) : (Condition.ofFields fields).Explained := by
  have hkind : (Checked.defaulted "kind" () (tag "condition") fields).Explained :=
    .defaulted (tag_explained "condition") ()
  have hproperty : (Checked.required "property" (member Property) fields).Explained :=
    .required fun value _ => member_explained Property value
  have hcomparison :
      (Checked.defaulted "operator" Comparison.equals (member Comparison) fields).Explained :=
    .defaulted (member_explained Comparison) Comparison.equals
  have hoperand : (Checked.required "value" Operand.check fields).Explained :=
    .required fun value _ => Operand.check_explained value
  exact (((hkind.both hproperty).combine hcomparison _).combine hoperand _).obeying _ _

lemma Group.ofFields_explained {children : Checked (List Node)} (h : children.Explained)
    (fields : Fields) : (Group.ofFields fields children).Explained := by
  have hkind : (Checked.defaulted "kind" () (tag "group") fields).Explained :=
    .defaulted (tag_explained "group") ()
  have hcombinator :
      (Checked.defaulted "operator" Combinator.all (member Combinator) fields).Explained :=
    .defaulted (member_explained Combinator) Combinator.all
  exact (hkind.combine hcombinator _).combine h _

lemma checkItems_explained {levels : Nat} {items : List Value}
    (h : ∀ item ∈ items, (checkChild levels item).Explained) (position : Nat) :
    (checkItems levels position items).Explained := by
  induction items generalizing position with
  | nil => exact Checked.explained_ok []
  | cons item rest ih =>
    obtain ⟨hitem, hrest⟩ := List.forall_mem_cons.mp h
    rw [checkItems]
    exact (hitem.under _).combine (ih hrest _) _

/-- The children of a group are explained when each node that it lists is. -/
lemma checkChildrenField_explained {levels : Nat} {fields : Fields}
    (h : ∀ item ∈ listed (.object fields), (checkChild levels item).Explained) :
    (checkChildrenField levels fields).Explained := by
  rw [checkChildrenField_eq]
  refine .required fun value hvalue => ?_
  cases value with
  | list items =>
    rw [listed_of_list hvalue] at h
    exact (checkItems_explained h 0).obeying _ _
  | part built => exact .each (fun _ _ => Checked.explained_flaw _) 0
  | _ => exact Checked.explained_flaw _

lemma checkChild_explained (levels : Nat) (node : Value) : (checkChild levels node).Explained := by
  have hdeep : (Checked.under (.field "group") (Checked.flaw .tooDeep) : Checked Node).Explained :=
    (Checked.explained_flaw _).under _
  -- a group gives its children one level less than it has, so that the levels vary in the induction
  induction node using document_induction generalizing levels with
  | node node ih =>
    cases node with
    | part built =>
      rcases built with values | (leaf | ⟨combinator, children⟩)
      · exact Checked.explained_flaw _
      · cases levels <;> exact Checked.explained_ok _
      · cases levels with
        | zero => exact hdeep
        | succ levels => exact Checked.explained_ok _
    | object fields =>
      simp only [checkChild]
      cases Tagged.ofFields fields with
      | condition => exact (Condition.ofFields_explained fields).map.under _
      | group =>
        cases levels with
        | zero => exact hdeep
        | succ levels =>
          have hchildren : (checkChildrenField levels fields).Explained :=
            checkChildrenField_explained fun item hitem => ih item hitem levels
          exact (Group.ofFields_explained hchildren fields).map.under _
      | untagged => exact Checked.explained_flaw _
      | unknown shown => exact Checked.explained_flaw _
    | _ => exact Checked.explained_flaw _

/-- A value that is not accepted as a group is rejected for what is wrong with it. -/
theorem Group.check_explained (value : Value) : (Group.check value).Explained := by
  cases value with
  | part built =>
    rcases built with values | (leaf | ⟨combinator, children⟩)
    · exact Checked.explained_flaw _
    · exact Checked.explained_flaw _
    · exact Checked.explained_ok _
  | object fields =>
    have hchildren : (checkChildrenField (maxLevels - 1) fields).Explained :=
      checkChildrenField_explained fun item _ => checkChild_explained _ item
    exact Group.ofFields_explained hchildren fields
  | _ => exact Checked.explained_flaw _

end SiteStats.Filter
