import Mathlib.Logic.Relation
import SiteStats.Proofs.Filter.Validity
import SiteStats.Proofs.Query.Acceptance
import SiteStats.Proofs.Text.Joined

/-!
# Filters that come to exist

`Built` says which parts of filters can come to exist at all: those that are accepted in explicit
form or read from a document, those that are put together from parts, and those that a query is read
with. What is accepted or put together may contain parts that exist already, and these have come to
exist in any of these ways themselves.

Every part that exists is valid (`Built.valid`); the induction is on how it came to exist, and each
of its cases is a theorem of `SiteStats.Proofs.Filter.Validity`.  It stays what it is, because no
field of it can be given a new value (`Attempts.unchanged`), and the text of a filter is woven of
the texts of its conditions (`Group.woven`).
-/

namespace SiteStats.Filter

open SiteStats.Schema

/-! ## Ways to come to exist -/

/-- The alternatives, conditions and groups that can come to exist. -/
inductive Built : Part → Prop
  | group {data : Value} {g : Group} (inside : ∀ part, Holds data part → Built part)
      (accepted : Group.check data = .ok g) : Built (.node g.node)
  | condition {data : Value} {c : Condition} (inside : ∀ part, Holds data part → Built part)
      (accepted : Condition.check data = .ok c) : Built (.node (.condition c))
  | alternatives {data : Value} {values : List Text}
      (inside : ∀ part, Holds data part → Built part)
      (accepted : Operand.checkAlternatives data = .ok values) : Built (.alternatives values)
  | document [room : Json.Room] {document : Value} {g : Group}
      (inside : ∀ part, Holds document part → Built part)
      (read : Group.ofDocument document = .ok g) : Built (.node g.node)
  | joined {c : Combinator} {children : List Node} {g : Group}
      (inside : ∀ child ∈ children, Built (.node child))
      (made : Group.build c children = .ok g) : Built (.node g.node)
  | compared {property comparison operand : Value} {c : Condition}
      (inside : ∀ part, Holds operand part → Built part)
      (made : Condition.build property comparison operand = .ok c) : Built (.node (.condition c))
  | query {kind : Query.Kind} {data : Value} {query : Query} {g : Group}
      (inside : ∀ part, Holds data part → Built part) (read : Query.read kind data = .ok query)
      (filters : query.options.filters = some g) : Built (.node g.node)

/-- **What exists is valid.** -/
theorem Built.valid {part : Part} (h : Built part) : part.Valid := by
  induction h with
  | group _ accepted ih => exact Group.valid_of_check ih accepted
  | condition _ accepted ih =>
    exact (Node.valid_condition _).mpr (Condition.valid_of_check ih accepted)
  | alternatives _ accepted ih => exact Operand.valid_of_checkAlternatives ih accepted
  | document _ read ih => exact Group.valid_of_ofDocument ih read
  | joined _ made ih => exact Group.valid_of_build ih made
  | compared _ made ih => exact (Node.valid_condition _).mpr (Condition.valid_of_build ih made)
  | query _ read filters ih =>
    obtain ⟨fields, value, rfl, hlookup, hcheck⟩ := Query.filters_of_read read filters
    exact Group.valid_of_check (fun part hpart => ih part (.field hlookup hpart)) hcheck

mutual

/-- The values that a plan makes operands of. -/
def Plan.operands : Plan → List Value
  | .condition _ _ operand => [operand]
  | .group _ plans => Plan.allOperands plans

/-- The values that several plans make operands of. -/
def Plan.allOperands : List Plan → List Value
  | [] => []
  | plan :: rest => plan.operands ++ Plan.allOperands rest

end

mutual

/-- Whatever a plan makes has come to exist, if what it uses has. -/
theorem Built.of_plan {plan : Plan} {node : Node}
    (inside : ∀ operand ∈ plan.operands, ∀ part, Holds operand part → Built part)
    (h : plan.build = .ok node) : Built (.node node) := by
  cases plan with
  | condition property comparison operand =>
    rw [Plan.build] at h
    obtain ⟨c, hc, rfl⟩ := Except.map_eq_ok_iff.mp h
    exact .compared (inside operand (by simp [Plan.operands])) hc
  | group c plans =>
    rw [Plan.build] at h
    obtain ⟨children, hchildren, hjoined⟩ := Except.bind_eq_ok_iff.mp h
    obtain ⟨g, hg, rfl⟩ := Except.map_eq_ok_iff.mp hjoined
    exact .joined (Built.of_plans (by simpa [Plan.operands] using inside) hchildren) hg

/-- So has whatever plans make one after the other. -/
theorem Built.of_plans {plans : List Plan} {nodes : List Node}
    (inside : ∀ operand ∈ Plan.allOperands plans, ∀ part, Holds operand part → Built part)
    (h : Plan.buildAll plans = .ok nodes) : ∀ node ∈ nodes, Built (.node node) := by
  cases plans with
  | nil =>
    rw [Plan.buildAll] at h
    cases h
    simp
  | cons plan rest =>
    rw [Plan.buildAll] at h
    rw [Plan.allOperands, List.forall_mem_append] at inside
    obtain ⟨first, hfirst, hrest⟩ := Except.bind_eq_ok_iff.mp h
    obtain ⟨others, hothers, heq⟩ := Except.bind_eq_ok_iff.mp hrest
    cases heq
    intro node hnode
    obtain rfl | hnode := List.mem_cons.mp hnode
    · exact Built.of_plan inside.1 hfirst
    · exact Built.of_plans inside.2 hothers node hnode

end

/-! ## Attempts to change a filter -/

/-- An attempt to give a field of a filter, or of any part of it, a new value.  One that is refused
leaves the filter as it is; what one that is accepted would make of it is left open. -/
inductive Attempt : Node → Node → Prop
  | refused {tree : Node} {title field : String} {value : Value} {failure : Failure}
      (isField : isHidden field = false) (outcome : assign title field value = .error failure) :
      Attempt tree tree
  | accepted {tree tree' : Node} {title field : String} {value : Value}
      (isField : isHidden field = false) (outcome : assign title field value = .ok ()) :
      Attempt tree tree'

/-- No field takes a value: that it is frozen is said of the field and in the name of the part. -/
lemma assign_field {title field : String} {value : Value} (h : isHidden field = false) :
    assign title field value = .error (.invalid title [⟨[.field field], .frozen⟩]) := by
  have hne : ∀ name, isHidden name = true → field ≠ name := by
    rintro name hname rfl
    rw [h] at hname
    cases hname
  have hnone : hiddenFault? title title field value = none := by
    have hclass : field ∉ classNames := by
      intro hmem
      simp only [classNames, List.mem_cons, List.not_mem_nil, or_false] at hmem
      rcases hmem with hname | hname | hname <;> exact hne _ (by decide) hname
    unfold hiddenFault?
    rw [if_neg hclass, if_neg (hne _ (by decide)), if_neg (hne _ (by decide)),
      if_neg (hne _ (by decide)), if_neg (hne _ (by decide))]
  simp only [assign, hnone, h]
  rfl

lemma Attempt.unchanged {tree tree' : Node} (h : Attempt tree tree') : tree' = tree := by
  cases h with
  | refused => rfl
  | accepted isField outcome =>
    rw [assign_field isField] at outcome
    cases outcome

/-- **No attempts change anything**, however many there are. -/
theorem Attempts.unchanged {tree tree' : Node} (h : Relation.ReflTransGen Attempt tree tree') :
    tree' = tree := by
  induction h with
  | refl => rfl
  | tail _ hstep ih => rw [hstep.unchanged, ih]

/-! ## The text of a filter -/

/-- A text in which the conditions stand in this order, each as the word of a property, a sign and
its operand, and nothing stands between them but the marks of groups. -/
inductive Woven : List Condition → List Point → Prop
  | nil : Woven [] []
  | condition {leaf : Condition} {leaves : List Condition} {rest : List Point}
      {word sign : String}
      (isWord : word ∈ Property.all.map Property.text) (isSign : sign = "==" ∨ sign = "!=")
      (rendered : leaf.text = word ++ sign ++ leaf.operand.text)
      (others : Woven leaves rest) : Woven (leaf :: leaves) (leaf.text.toList ++ rest)
  | mark {leaves : List Condition} {rest : List Point} {c : Point}
      (isMark : c ∈ [.char ';', .char '|', .char '(', .char ')'])
      (others : Woven leaves rest) : Woven leaves (c :: rest)

lemma Woven.append {first second : List Condition} {s t : List Point} (h : Woven first s)
    (h' : Woven second t) : Woven (first ++ second) (s ++ t) := by
  induction h with
  | nil => exact h'
  | condition isWord isSign rendered _ ih =>
    rw [List.cons_append, List.append_assoc]
    exact .condition isWord isSign rendered ih
  | mark isMark _ ih => exact .mark isMark ih

lemma Condition.woven (c : Condition) : Woven [c] c.text.toList := by
  have hword : c.property.text ∈ Property.all.map Property.text :=
    List.mem_map_of_mem (Vocabulary.mem_members c.property)
  have hsign : c.comparison.text = "==" ∨ c.comparison.text = "!=" := by
    cases c.comparison with
    | equals => exact .inl rfl
    | differs => exact .inr rfl
  have hwoven : Woven [c] (c.text.toList ++ []) := .condition hword hsign rfl .nil
  rwa [List.append_nil] at hwoven

lemma Combinator.woven (c : Combinator) : Woven [] (c.text : Text).toList := by
  cases c with
  | all => exact .mark (c := .char ';') (by simp) .nil
  | any => exact .mark (c := .char '|') (by simp) .nil

/-- The children of a group, each but the first after a sign. -/
lemma woven_joined {c : Combinator} {children : List Node}
    (h : ∀ child ∈ children, Woven child.leaves child.text.toList) :
    Woven (children.flatMap Node.leaves) (Group.mk c children).text.toList := by
  have htail : ∀ rest : List Node, (∀ child ∈ rest, Woven child.leaves child.text.toList) →
      Woven (rest.flatMap Node.leaves)
        ((rest.map Node.text).flatMap fun next => (c.text : Text).toList ++ next.toList) := by
    intro rest hrest
    induction rest with
    | nil => exact .nil
    | cons child rest ih =>
      have hchild := c.woven.append (hrest child List.mem_cons_self)
      exact hchild.append (ih fun next hnext => hrest next (List.mem_cons_of_mem child hnext))
  rw [Group.text_eq]
  cases children with
  | nil => exact .nil
  | cons child rest =>
    rw [List.map_cons, Text.toList_intercalate_cons]
    exact (h child List.mem_cons_self).append
      (htail rest fun next hnext => h next (List.mem_cons_of_mem child hnext))

lemma Node.woven (node : Node) : Woven node.leaves node.text.toList := by
  induction node with
  | condition leaf =>
    rw [Node.leaves_condition, Node.text_condition]
    exact leaf.woven
  | group c children ih =>
    rw [Node.leaves_group]
    match children, ih with
    | [], _ => exact .nil
    | [child], ih =>
      rw [Node.text_group_singleton]
      simpa using ih child (by simp)
    | child :: next :: rest, ih =>
      rw [Node.text_group_of_length (by simp)]
      have hinner := woven_joined (c := c) ih
      simpa using Woven.mark (c := .char '(') (by simp)
        (hinner.append (.mark (c := .char ')') (by simp) .nil))

/-- The text of a filter is woven of the texts of its conditions. -/
lemma Group.woven (g : Group) : Woven g.leaves g.text.toList := by
  rw [Group.leaves, Group.node, Node.leaves_group]
  exact woven_joined fun child _ => child.woven

/-! ## The invariant of filters -/

/-- **The invariant of filters.**  Whatever way a filter has come to exist, and whatever attempts
have been made since to give any of its fields a new value: each of them was refused, the filter is
what it was, it is valid, and its text is woven of the texts of its conditions. -/
theorem Built.invariant {g : Group} {tree : Node} (built : Built (.node g.node))
    (attempts : Relation.ReflTransGen Attempt g.node tree) :
    (∀ title field value, isHidden field = false →
        assign title field value = .error (.invalid title [⟨[.field field], .frozen⟩])) ∧
      tree = g.node ∧ g.Valid ∧ Woven g.leaves g.text.toList := by
  have hsame : tree = g.node := Attempts.unchanged attempts
  have hvalid : g.Valid := built.valid
  refine ⟨fun title field value isField => ?_, hsame, hvalid, g.woven⟩
  exact assign_field isField

/-- A group of a condition with alternatives, put together from its parts, and two attempts to take
the condition away and to give it another sign. -/
theorem Built.invariant_of_parts :
    let leaf : Condition := ⟨.country, .equals, .anyOf ["DE", "FR"]⟩
    let g : Group := ⟨.any, [.condition leaf]⟩
    Built (.node g.node) ∧ Relation.ReflTransGen Attempt g.node g.node ∧ g.Valid ∧
      Woven [leaf] g.text.toList := by
  intro leaf g
  have hleaf : Condition.build (.text "visit:country") (.text "==")
      (.list [.text "DE", .text "FR"]) = .ok leaf := rfl
  have hgroup : Group.build .any [.condition leaf] = .ok g := rfl
  have hoperand : ∀ part, Holds (.list [.text "DE", .text "FR"]) part → Built part := by
    have hreadable : Json.Readable (.list [.text "DE", .text "FR"]) :=
      .list (by simpa using ⟨.text _, .text _⟩)
    exact fun part hpart => absurd hpart (not_holds_of_readable hreadable part)
  have hbuilt : Built (.node g.node) :=
    .joined (by simpa using Built.compared hoperand hleaf) hgroup
  have hchildren : assign Group.title "children" (.list []) =
      .error (.invalid Group.title [⟨[.field "children"], .frozen⟩]) := assign_field (by decide)
  have hoperator : assign Condition.title "operator" (.text "!=") =
      .error (.invalid Condition.title [⟨[.field "operator"], .frozen⟩]) := assign_field (by decide)
  have hattempts : Relation.ReflTransGen Attempt g.node g.node :=
    .tail (.single (.refused (by decide) hchildren)) (.refused (by decide) hoperator)
  obtain ⟨-, -, hvalid, hwoven⟩ := Built.invariant hbuilt hattempts
  exact ⟨hbuilt, hattempts, hvalid, hwoven⟩

end SiteStats.Filter
