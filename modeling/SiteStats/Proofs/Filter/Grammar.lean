import SiteStats.Filter.Document
import SiteStats.Proofs.Filter.Acceptance

/-!
# The grammar of filter documents

A filter document is read in two passes, each with defaults of its own and with fields that it
ignores.  `Describes` says in one relation what comes of both: which documents describe a filter,
and which one.  It looks at five names (`children`, `operator`, `property`, `value` and, in
alternatives, `values`); a `kind` or any other field does not occur in it.  What is described is
read if its groups do not stand too deep in each other, and depth is nothing that the grammar is
about: the second pass has room for so many levels and refuses what has more.

`ReadsAs` bundles the two passes over one node, and `readsAs_of_childless` and `readsAs_of_children`
take it apart.  That it is the same as `Describes` is shown by induction on the filter that is
described and not on the document: what a document is read as has fewer shapes than documents have,
and a group that is read has children that are read, with one level less.

That further fields have no influence is `Alike.describes_iff`: two documents that agree where the
relation looks describe the same.
-/

namespace SiteStats.Filter

open SiteStats.Schema

/-! ## The relation -/

/-- The combinator that the operator of a group names: none is *and*, and a combinator is named by
its sign or by its word. -/
def NamesCombinator (operator : Option Value) (c : Combinator) : Prop :=
  (operator = none ∧ c = .all) ∨ operator = some (.text c.text) ∨ operator = some (.text c.name)

/-- What the value of a condition with that comparison describes: a text is one value, and an object
with `values` is alternatives, which stand only where equality is asked for.  Alternatives can also
be built already. -/
inductive DescribesOperand : Value → Comparison → Operand → Prop
  | one (t : Text) (c : Comparison) : DescribesOperand (.text t) c (.one t)
  | built (values : List Text) :
      DescribesOperand (.part (.alternatives values)) .equals (.anyOf values)
  | anyOf {fields : Fields} {values : List Text}
      (operator : fields.lookup "operator" = none ∨
        fields.lookup "operator" = some (.text Operand.separator))
      (list : fields.lookup "values" = some (.list (values.map .text)))
      (filled : values ≠ []) :
      DescribesOperand (.object fields) .equals (.anyOf values)

/-- What the fields of an object without children describe. -/
structure DescribesCondition (fields : Fields) (leaf : Condition) : Prop where
  property : fields.lookup "property" = some (.text leaf.property.text)
  comparison : NamesComparison (fields.lookup "operator") leaf.comparison
  operand : ∃ value, fields.lookup "value" = some value ∧
    DescribesOperand value leaf.comparison leaf.operand

/-- The node that a document describes: a group if there are `children`, which have to be a list of
at least one node, and a condition otherwise. -/
inductive Describes : Value → Node → Prop
  | condition {fields : Fields} {leaf : Condition}
      (childless : fields.lookup "children" = none)
      (parts : DescribesCondition fields leaf) :
      Describes (.object fields) (.condition leaf)
  | group {fields : Fields} {items : List Value} {c : Combinator} {children : List Node}
      (list : fields.lookup "children" = some (.list items))
      (operator : NamesCombinator (fields.lookup "operator") c)
      (each : List.Forall₂ Describes items children)
      (filled : children ≠ []) :
      Describes (.object fields) (.group c children)

/-! ## Explicit form -/

/-- A node is read as another when its explicit form is accepted as that, with room for so many
levels of groups. -/
def ReadsAs (levels : Nat) (value : Value) (node : Node) : Prop :=
  ∃ explicit, explicitNode value = .ok explicit ∧ checkChild levels explicit = .ok node

lemma explicitOperator_text (word : Text) :
    explicitOperator (some (.text word)) = .ok (.text
      (if word = Combinator.all.name then Combinator.all.text
        else if word = Combinator.any.name then Combinator.any.text else word)) := by
  by_cases hall : word = Combinator.all.name
  · simp [explicitOperator, Value.isText, hall]
  · by_cases hany : word = Combinator.any.name
    · have hnot : ¬ Combinator.any.name = Combinator.all.name := by decide
      simp [explicitOperator, Value.isText, hany, hnot]
    · simp [explicitOperator, Value.isText, hall, hany]

lemma explicitOperator_eq_ok_iff {operator : Option Value} {c : Combinator} :
    explicitOperator operator = .ok (.text c.text) ↔ NamesCombinator operator c := by
  unfold NamesCombinator
  cases operator with
  | none =>
    have hsame : (Combinator.all.text = c.text) ↔ c = .all :=
      ⟨fun h => (Vocabulary.text_injective h).symm, fun h => by rw [h]⟩
    simp [explicitOperator, hsame]
  | some value =>
    cases value with
    | text word =>
      have hwords : (if word = Combinator.all.name then Combinator.all.text
          else if word = Combinator.any.name then Combinator.any.text else word : Text) = c.text ↔
            word = c.text ∨ word = c.name := by
        by_cases hall : word = Combinator.all.name
        · subst hall
          cases c <;> decide
        · by_cases hany : word = Combinator.any.name
          · subst hany
            cases c <;> decide
          · have hname : word ≠ c.name := by cases c <;> assumption
            simp [hall, hany, hname]
      simp [explicitOperator_text, hwords]
    | _ => simp [explicitOperator, Value.isText]

lemma explicitItems_eq_mapM (items : List Value) :
    explicitItems items = items.mapM explicitNode := by
  induction items with
  | nil => rfl
  | cons item rest ih => rw [explicitItems, List.mapM_cons, ih]

lemma explicitItems_eq_ok_iff {items explicit : List Value} :
    explicitItems items = .ok explicit ↔
      List.Forall₂ (fun item e => explicitNode item = .ok e) items explicit := by
  rw [explicitItems_eq_mapM, List.mapM_eq_ok_iff]

/-- A group in explicit form. -/
def explicitFields (operator : Value) (children : List Value) : Fields :=
  [("kind", .text "group"), ("operator", operator), ("children", .list children)]

section ExplicitFields

variable (operator : Value) (children : List Value)

@[simp] lemma explicitFields_kind :
    (explicitFields operator children).lookup "kind" = some (.text "group") := by
  simp [explicitFields]

@[simp] lemma explicitFields_operator :
    (explicitFields operator children).lookup "operator" = some operator := by
  simp [explicitFields, List.lookup_cons]

@[simp] lemma explicitFields_children :
    (explicitFields operator children).lookup "children" = some (.list children) := by
  simp [explicitFields, List.lookup_cons]

end ExplicitFields

lemma explicitGroup_eq_ok_iff {operator : Option Value} {value explicit : Value} :
    explicitGroup operator value = .ok explicit ↔
      ∃ items sign children, value = .list items ∧ explicitOperator operator = .ok sign ∧
        explicitItems items = .ok children ∧ explicit = .object (explicitFields sign children) := by
  cases value with
  | list items =>
    simp only [explicitGroup, Value.list.injEq]
    cases explicitOperator operator with
    | error fault => simp [bind, Except.bind]
    | ok sign =>
      cases hitems : explicitItems items with
      | error fault => simp [bind, Except.bind, hitems]
      | ok children => simp [bind, Except.bind, pure, Except.pure, explicitFields, hitems, eq_comm]
  | _ => simp [explicitGroup]

lemma checkChild_explicit {levels : Nat} {sign : Value} {children : List Value} {node : Node} :
    checkChild levels (.object (explicitFields sign children)) = .ok node ↔
      ∃ below, levels = below + 1 ∧ ∃ g : Group, g.node = node ∧ sign = .text g.combinator.text ∧
        List.Forall₂ (fun item child => checkChild below item = .ok child) children g.children ∧
          g.children ≠ [] := by
  rw [checkChild_eq_ok_iff]
  simp only [Group.ofFields_eq_ok_iff, KindIs, NamesSign, explicitFields_kind,
    explicitFields_operator, explicitFields_children, Value.object.injEq, exists_eq_left']
  simp [and_comm, and_left_comm]

/-- The root is accepted as any other group where there is room for all levels. -/
lemma Group.check_explicit {sign : Value} {children : List Value} {g : Group} :
    Group.check (.object (explicitFields sign children)) = .ok g ↔
      checkChild maxLevels (.object (explicitFields sign children)) = .ok g.node := by
  have hchild : checkChild maxLevels (.object (explicitFields sign children)) =
      ((Group.check (.object (explicitFields sign children))).map Group.node).under
        (.field "group") := by
    have htag : Tagged.ofFields (explicitFields sign children) = .group := by
      simp [Tagged.ofFields]
    simp only [checkChild, htag]
    rfl
  rw [hchild, Checked.under_eq_ok_iff, Checked.map_eq_ok_iff]
  constructor
  · exact fun h => ⟨g, h, rfl⟩
  · rintro ⟨⟨_, _⟩, h, ⟨⟩⟩
    exact h

lemma explicitNode_of_children {fields : Fields} {value : Value}
    (h : fields.lookup "children" = some value) :
    explicitNode (.object fields) = explicitGroup (fields.lookup "operator") value := by
  rw [explicitNode, explicitGroup?_eq, h]
  rfl

lemma explicitNode_of_childless {fields : Fields} (h : fields.lookup "children" = none) :
    explicitNode (.object fields) = explicitCondition fields := by
  rw [explicitNode, explicitGroup?_eq, h]
  rfl


/-! ## Conditions -/

lemma explicitAlternatives_eq_ok_iff {fields : Fields} {explicit : Value} :
    explicitAlternatives fields = .ok explicit ↔
      (fields.lookup "operator" = none ∨
        fields.lookup "operator" = some (.text Operand.separator)) ∧
        explicit = .object [("kind", .text "any_of"),
          ("values", (fields.lookup "values").getD .null)] := by
  unfold explicitAlternatives
  cases fields.lookup "operator" with
  | none => simp [Value.isText, eq_comm (b := explicit)]
  | some operator =>
    by_cases h : operator = .text Operand.separator
    · simp [h, Value.isText, eq_comm (b := explicit)]
    · simp [h]

lemma check_explicitAlternatives {values : Option Value} {o : Operand} :
    Operand.check (.object [("kind", .text "any_of"), ("values", values.getD .null)]) = .ok o ↔
      ∃ texts, values = some (.list (texts.map .text)) ∧ texts ≠ [] ∧ o = .anyOf texts := by
  rw [Operand.check_eq_ok_iff]
  simp only [Operand.checkAlternatives_eq_ok_iff, KindIs]
  cases values <;> simp [List.lookup_cons, and_assoc]

/-- The value of a condition, in explicit form where it is an object. -/
def explicitOperand : Value → Except DocumentFault Value
  | .object fields => explicitAlternatives fields
  | value => .ok value

/-- The two passes over the value of a condition, with the rule on the condition as a whole. -/
lemma explicitOperand_iff {value : Value} {leaf : Condition} :
    (∃ explicit, explicitOperand value = .ok explicit ∧ Operand.check explicit = .ok leaf.operand) ∧
        leaf.allowed = true ↔
      DescribesOperand value leaf.comparison leaf.operand := by
  obtain ⟨p, c, o⟩ := leaf
  simp only [Condition.allowed_iff]
  constructor
  · rintro ⟨⟨explicit, hexplicit, hcheck⟩, hallowed⟩
    cases value with
    | object fields =>
      obtain ⟨hoperator, rfl⟩ := explicitAlternatives_eq_ok_iff.mp hexplicit
      obtain ⟨texts, hlist, hfilled, rfl⟩ := check_explicitAlternatives.mp hcheck
      obtain rfl := hallowed texts rfl
      exact .anyOf hoperator hlist hfilled
    | text t =>
      obtain rfl : .text t = explicit := Except.ok.inj hexplicit
      obtain rfl : o = .one t := by
        simpa [Operand.check_eq_ok_iff, Operand.checkAlternatives_eq_ok_iff] using hcheck
      exact .one t c
    | part built =>
      obtain rfl : .part built = explicit := Except.ok.inj hexplicit
      obtain ⟨values, rfl, rfl⟩ : ∃ values, built = .alternatives values ∧ o = .anyOf values := by
        simpa [Operand.check_eq_ok_iff, Operand.checkAlternatives_eq_ok_iff] using hcheck
      obtain rfl := hallowed values rfl
      exact .built values
    | _ =>
      obtain rfl := Except.ok.inj hexplicit
      simp [Operand.check_eq_ok_iff, Operand.checkAlternatives_eq_ok_iff] at hcheck
  · rintro (⟨t, c⟩ | values | ⟨hoperator, hlist, hfilled⟩)
    · exact ⟨⟨_, rfl, Operand.check_eq_ok_iff.mpr (.inl ⟨t, rfl, rfl⟩)⟩, by simp⟩
    · have hcheck : Operand.checkAlternatives (.part (.alternatives values)) = .ok values := rfl
      exact ⟨⟨_, rfl, Operand.check_eq_ok_iff.mpr (.inr ⟨values, hcheck, rfl⟩)⟩, by simp⟩
    · exact ⟨⟨_, explicitAlternatives_eq_ok_iff.mpr ⟨hoperator, rfl⟩,
        check_explicitAlternatives.mpr ⟨_, hlist, hfilled, rfl⟩⟩, by simp⟩

lemma explicitCondition_of_value {fields : Fields} {given : Value}
    (h : fields.lookup "value" = some given) :
    explicitCondition fields = (explicitOperand given).map fun value =>
      .object ((fields.set "kind" (.text "condition")).set "value" value) := by
  have htagged : (fields.set "kind" (.text "condition")).lookup "value" = some given := by
    rw [Fields.lookup_set, if_neg (by decide), h]
  cases given with
  | object inner => simp only [explicitCondition, h, explicitOperand]
  | _ =>
    simp only [explicitCondition, h, explicitOperand, Except.map]
    rw [Fields.set_of_lookup htagged]

lemma checkChild_explicitCondition {levels : Nat} {fields : Fields} {value : Value} {node : Node} :
    checkChild levels (.object ((fields.set "kind" (.text "condition")).set "value" value)) =
        .ok node ↔
      ∃ leaf : Condition, fields.lookup "property" = some (.text leaf.property.text) ∧
        NamesComparison (fields.lookup "operator") leaf.comparison ∧
          (Operand.check value = .ok leaf.operand ∧ leaf.allowed = true) ∧
            Node.condition leaf = node := by
  rw [checkChild_eq_ok_iff]
  simp [Condition.ofFields_eq_ok_iff, KindIs, Fields.lookup_set, and_assoc]

/-- **Conditions.**  A document without children is read as what its fields describe. -/
lemma readsAs_of_childless {levels : Nat} {fields : Fields} {node : Node}
    (h : fields.lookup "children" = none) :
    ReadsAs levels (.object fields) node ↔
      ∃ leaf, DescribesCondition fields leaf ∧ Node.condition leaf = node := by
  rw [ReadsAs, explicitNode_of_childless h]
  cases hvalue : fields.lookup "value" with
  | none =>
    -- the first pass lets it through, and the second one misses the value
    constructor
    · rintro ⟨explicit, hexplicit, hchild⟩
      obtain rfl : Value.object (fields.set "kind" (.text "condition")) = explicit := by
        simpa [explicitCondition, hvalue] using hexplicit
      rw [checkChild_eq_ok_iff] at hchild
      simp [Condition.ofFields_eq_ok_iff, Fields.lookup_set, hvalue] at hchild
    · rintro ⟨leaf, ⟨-, -, value, hgiven, -⟩, -⟩
      rw [hvalue] at hgiven
      cases hgiven
  | some given =>
    rw [explicitCondition_of_value hvalue]
    constructor
    · rintro ⟨_, hexplicit, hchild⟩
      obtain ⟨value, hoperand, rfl⟩ := Except.map_eq_ok_iff.mp hexplicit
      obtain ⟨leaf, hproperty, hcomparison, ⟨hcheck, hallowed⟩, hnode⟩ :=
        checkChild_explicitCondition.mp hchild
      have hdescribes := explicitOperand_iff.mp ⟨⟨value, hoperand, hcheck⟩, hallowed⟩
      exact ⟨leaf, ⟨hproperty, hcomparison, given, hvalue, hdescribes⟩, hnode⟩
    · rintro ⟨leaf, ⟨hproperty, hcomparison, value, hgiven, hdescribes⟩, hnode⟩
      obtain rfl : given = value := Option.some.inj (hvalue.symm.trans hgiven)
      obtain ⟨⟨explicit, hoperand, hcheck⟩, hallowed⟩ := explicitOperand_iff.mpr hdescribes
      exact ⟨_, Except.map_eq_ok_iff.mpr ⟨explicit, hoperand, rfl⟩, checkChild_explicitCondition.mpr
        ⟨leaf, hproperty, hcomparison, ⟨hcheck, hallowed⟩, hnode⟩⟩

/-! ## Groups -/

/-- The two passes over a list, one after the other, are the two passes over each of its items. -/
lemma explicitItems_each {levels : Nat} {items : List Value} {children : List Node} :
    (∃ explicit, explicitItems items = .ok explicit ∧
        List.Forall₂ (fun e node => checkChild levels e = .ok node) explicit children) ↔
      List.Forall₂ (ReadsAs levels) items children := by
  simp only [explicitItems_eq_ok_iff]
  induction items generalizing children with
  | nil => simp
  | cons item rest ih =>
    simp only [List.forall₂_cons_left_iff, ← ih]
    constructor
    · rintro ⟨_, ⟨e, others, he, hothers, rfl⟩, hchecked⟩
      obtain ⟨node, nodes, hnode, hnodes, rfl⟩ := List.forall₂_cons_left_iff.mp hchecked
      exact ⟨node, nodes, ⟨e, he, hnode⟩, ⟨others, hothers, hnodes⟩, rfl⟩
    · rintro ⟨node, nodes, ⟨e, he, hnode⟩, ⟨others, hothers, hnodes⟩, rfl⟩
      exact ⟨e :: others, ⟨e, others, he, hothers, rfl⟩, .cons hnode hnodes⟩

/-- **Groups.**  A document with children is read as the group of what its items are read as, for
which there is one level less. -/
lemma readsAs_of_children {levels : Nat} {fields : Fields} {value : Value} {node : Node}
    (h : fields.lookup "children" = some value) :
    ReadsAs levels (.object fields) node ↔
      ∃ below, levels = below + 1 ∧ ∃ g : Group, g.node = node ∧
      ∃ items, value = .list items ∧ NamesCombinator (fields.lookup "operator") g.combinator ∧
        List.Forall₂ (ReadsAs below) items g.children ∧ g.children ≠ [] := by
  rw [ReadsAs, explicitNode_of_children h]
  constructor
  · rintro ⟨_, hexplicit, hchild⟩
    obtain ⟨items, sign, children, rfl, hsign, hitems, rfl⟩ := explicitGroup_eq_ok_iff.mp hexplicit
    obtain ⟨below, hbelow, g, hnode, rfl, hchildren, hfilled⟩ := checkChild_explicit.mp hchild
    exact ⟨below, hbelow, g, hnode, items, rfl, explicitOperator_eq_ok_iff.mp hsign,
      explicitItems_each.mp ⟨children, hitems, hchildren⟩, hfilled⟩
  · rintro ⟨below, hbelow, g, hnode, items, rfl, hcombinator, hitems, hfilled⟩
    obtain ⟨children, hexplicit, hchildren⟩ := explicitItems_each.mpr hitems
    exact ⟨_, explicitGroup_eq_ok_iff.mpr ⟨items, _, children, rfl,
      explicitOperator_eq_ok_iff.mpr hcombinator, hexplicit, rfl⟩,
      checkChild_explicit.mpr ⟨below, hbelow, g, hnode, rfl, hchildren, hfilled⟩⟩

/-! ## The two passes and the relation -/

lemma ReadsAs.isObject {levels : Nat} {value : Value} {node : Node}
    (h : ReadsAs levels value node) :
    ∃ fields : Fields, value = .object fields := by
  obtain ⟨explicit, hexplicit, -⟩ := h
  cases value with
  | object fields => exact ⟨fields, rfl⟩
  | _ => simp [explicitNode] at hexplicit

/-- A document is read as a node exactly when it describes that node and there is room for its
groups. -/
theorem readsAs_iff_describes {levels : Nat} {value : Value} {node : Node} :
    ReadsAs levels value node ↔ Describes value node ∧ node.depth ≤ levels := by
  induction node generalizing levels value with
  | condition leaf =>
    rw [Node.depth_condition, and_iff_left (Nat.zero_le levels)]
    constructor
    · intro h
      obtain ⟨fields, rfl⟩ := h.isObject
      cases hchildren : fields.lookup "children" with
      | none =>
        obtain ⟨_, hparts, ⟨⟩⟩ := (readsAs_of_childless hchildren).mp h
        exact .condition hchildren hparts
      | some list =>
        obtain ⟨-, -, g, ⟨⟩, -⟩ := (readsAs_of_children hchildren).mp h
    · rintro (⟨hchildless, hparts⟩ | -)
      exact (readsAs_of_childless hchildless).mpr ⟨leaf, hparts, rfl⟩
  | group c children ih =>
    constructor
    · intro h
      obtain ⟨fields, rfl⟩ := h.isObject
      cases hchildren : fields.lookup "children" with
      | none =>
        obtain ⟨_, -, ⟨⟩⟩ := (readsAs_of_childless hchildren).mp h
      | some list =>
        obtain ⟨below, rfl, ⟨c', children'⟩, ⟨⟩, items, rfl, hcombinator, hitems, hfilled⟩ :=
          (readsAs_of_children hchildren).mp h
        refine ⟨.group hchildren hcombinator (hitems.imp_of_mem fun child hchild item hitem => ?_)
          hfilled, Node.depth_group_le_iff.mpr fun child hchild => ?_⟩
        · exact ((ih child hchild).mp hitem).1
        · obtain ⟨item, -, hitem⟩ := hitems.exists_of_mem hchild
          exact ((ih child hchild).mp hitem).2
    · rintro ⟨(- | ⟨hlist, hcombinator, hitems, hfilled⟩), hdepth⟩
      have hroom : 0 < levels := Nat.lt_of_lt_of_le (Node.depth_group_pos c children) hdepth
      obtain ⟨below, rfl⟩ := Nat.exists_eq_add_one.mpr hroom
      rw [Node.depth_group_le_iff] at hdepth
      refine (readsAs_of_children hlist).mpr ⟨below, rfl, ⟨c, children⟩, rfl, _, rfl, hcombinator,
        hitems.imp_of_mem fun child hchild item hitem => ?_, hfilled⟩
      exact (ih child hchild).mpr ⟨hitem, hdepth child hchild⟩

/-- There is only one node that a document describes, since with room for two of them it is read as
both. -/
lemma Describes.unique {value : Value} {node node' : Node} (h : Describes value node)
    (h' : Describes value node') : node = node' := by
  obtain ⟨explicit, hexplicit, hchild⟩ : ReadsAs (max node.depth node'.depth) value node :=
    readsAs_iff_describes.mpr ⟨h, Nat.le_max_left _ _⟩
  obtain ⟨explicit', hexplicit', hchild'⟩ : ReadsAs (max node.depth node'.depth) value node' :=
    readsAs_iff_describes.mpr ⟨h', Nat.le_max_right _ _⟩
  obtain rfl := Except.ok.inj (hexplicit.symm.trans hexplicit')
  exact Except.ok.inj (hchild.symm.trans hchild')

/-- A root is read as a node is, with room for all levels. -/
lemma Group.ofObject_eq_ok_iff_readsAs {document : Value} {g : Group} :
    Group.ofObject document = .ok g ↔ ReadsAs maxLevels document g.node := by
  cases document with
  | object fields =>
    cases hchildren : Fields.lookup fields "children" with
    | none =>
      have hnot : ¬ ReadsAs maxLevels (.object fields) g.node := by
        rw [readsAs_of_childless hchildren]
        rintro ⟨leaf, -, ⟨⟩⟩
      simp [Group.ofObject, hchildren, hnot]
    | some list =>
      rw [ReadsAs, explicitNode_of_children hchildren]
      simp only [Group.ofObject, hchildren, Option.isNone_some, Bool.false_eq_true, if_false,
        explicitNode_of_children hchildren]
      cases hexplicit : explicitGroup (Fields.lookup fields "operator") list with
      | error fault => simp
      | ok explicit =>
        obtain ⟨_, sign, children, -, -, -, rfl⟩ := explicitGroup_eq_ok_iff.mp hexplicit
        simp [Except.mapError_eq_ok_iff, Group.check_explicit]
  | _ =>
    have hnone : ∀ value, (∀ fields, value ≠ .object fields) → ¬ ReadsAs maxLevels value g.node :=
      fun value hvalue h => (h.isObject).elim hvalue
    simp [Group.ofObject, hnone]

/-- A document that is no text is read as a group exactly when it describes that group and its
groups do not stand too deep in each other. -/
lemma Group.ofObject_eq_ok_iff {document : Value} {g : Group} :
    Group.ofObject document = .ok g ↔ Describes document g.node ∧ g.depth ≤ maxLevels :=
  Group.ofObject_eq_ok_iff_readsAs.trans readsAs_iff_describes

/-! ## Fields that do not count -/

/-- Two lists of fields that hold the same under these names. -/
def AgreeOn (names : List Text) (fields fields' : Fields) : Prop :=
  ∀ name ∈ names, fields.lookup name = fields'.lookup name

/-- Two values of a condition that are the same, or two objects that agree where alternatives are
looked for. -/
inductive AlikeOperand : Value → Value → Prop
  | same (value : Value) : AlikeOperand value value
  | anyOf {fields fields' : Fields} (agree : AgreeOn ["operator", "values"] fields fields') :
      AlikeOperand (.object fields) (.object fields')

/-- Two documents that agree in all places where a node is looked for, at whatever depth.  They may
differ in any other field of a node or of alternatives, and so in every `kind`. -/
inductive Alike : Value → Value → Prop
  | same (value : Value) : Alike value value
  | condition {fields fields' : Fields}
      (childless : fields.lookup "children" = none)
      (agree : AgreeOn ["children", "operator", "property"] fields fields')
      (value : Option.Rel AlikeOperand (fields.lookup "value") (fields'.lookup "value")) :
      Alike (.object fields) (.object fields')
  | group {fields fields' : Fields} {items items' : List Value}
      (list : fields.lookup "children" = some (.list items))
      (list' : fields'.lookup "children" = some (.list items'))
      (agree : AgreeOn ["operator"] fields fields')
      (each : List.Forall₂ Alike items items') :
      Alike (.object fields) (.object fields')
  | unlisted {fields fields' : Fields} {value : Value}
      (children : fields.lookup "children" = some value)
      (agree : AgreeOn ["children", "operator"] fields fields') :
      Alike (.object fields) (.object fields')

lemma describes_condition_iff {fields : Fields} {leaf : Condition} :
    Describes (.object fields) (.condition leaf) ↔
      fields.lookup "children" = none ∧ DescribesCondition fields leaf :=
  ⟨fun | .condition childless parts => ⟨childless, parts⟩, fun h => .condition h.1 h.2⟩

lemma describes_group_iff {fields : Fields} {c : Combinator} {children : List Node} :
    Describes (.object fields) (.group c children) ↔
      ∃ items, fields.lookup "children" = some (.list items) ∧
        NamesCombinator (fields.lookup "operator") c ∧
          List.Forall₂ Describes items children ∧ children ≠ [] :=
  ⟨fun | .group list operator each filled => ⟨_, list, operator, each, filled⟩,
    fun ⟨_, list, operator, each, filled⟩ => .group list operator each filled⟩

lemma AlikeOperand.describes_iff {value value' : Value} (h : AlikeOperand value value')
    {c : Comparison} {o : Operand} :
    DescribesOperand value c o ↔ DescribesOperand value' c o := by
  cases h with
  | same => rfl
  | @anyOf fields fields' agree =>
    have hoperator := agree "operator" (by simp)
    have hvalues := agree "values" (by simp)
    constructor
    · rintro (- | - | ⟨operator, list, filled⟩)
      exact .anyOf (hoperator ▸ operator) (hvalues ▸ list) filled
    · rintro (- | - | ⟨operator, list, filled⟩)
      exact .anyOf (hoperator ▸ operator) (hvalues ▸ list) filled

lemma describesCondition_congr {fields fields' : Fields} {leaf : Condition}
    (agree : AgreeOn ["children", "operator", "property"] fields fields')
    (value : Option.Rel AlikeOperand (fields.lookup "value") (fields'.lookup "value")) :
    DescribesCondition fields leaf ↔ DescribesCondition fields' leaf := by
  have hoperand : (∃ given, fields.lookup "value" = some given ∧
      DescribesOperand given leaf.comparison leaf.operand) ↔
        ∃ given, fields'.lookup "value" = some given ∧
          DescribesOperand given leaf.comparison leaf.operand := by
    generalize fields.lookup "value" = given, fields'.lookup "value" = given' at value
    cases value with
    | some halike => simp [halike.describes_iff]
    | none => simp
  have hproperty := agree "property" (by simp)
  have hoperator := agree "operator" (by simp)
  constructor
  · rintro ⟨property, comparison, operand⟩
    exact ⟨hproperty ▸ property, hoperator ▸ comparison, hoperand.mp operand⟩
  · rintro ⟨property, comparison, operand⟩
    exact ⟨hproperty ▸ property, hoperator ▸ comparison, hoperand.mpr operand⟩

/-- **Documents that are alike describe the same.** -/
lemma Alike.describes_iff {document document' : Value} (h : Alike document document')
    {node : Node} : Describes document node ↔ Describes document' node := by
  induction node generalizing document document' with
  | condition leaf =>
    cases h with
    | same => rfl
    | condition childless agree value =>
      rw [describes_condition_iff, describes_condition_iff, agree "children" (by simp),
        describesCondition_congr agree value]
    | group list list' =>
      simp [describes_condition_iff, list, list']
    | unlisted children agree =>
      simp [describes_condition_iff, ← agree "children" (by simp), children]
  | group c children ih =>
    cases h with
    | same => rfl
    | condition childless agree =>
      simp [describes_group_iff, ← agree "children" (by simp), childless]
    | @group fields fields' items items' list list' agree each =>
      have heach : List.Forall₂ Describes items children ↔
          List.Forall₂ Describes items' children :=
        each.congr_of_mem fun child hchild _ _ halike => ih child hchild halike
      simp [describes_group_iff, list, list', agree "operator" (by simp), heach]
    | unlisted _ agree =>
      rw [describes_group_iff, describes_group_iff, agree "children" (by simp),
        agree "operator" (by simp)]

/-! ## Documents -/

section Documents

variable [Json.Room]

lemma Group.ofDocument_of_not_text {document : Value} (h : ∀ t, document ≠ .text t) :
    Group.ofDocument document = Group.ofObject document := by
  cases document with
  | text t => exact absurd rfl (h t)
  | _ => rfl

end Documents

end SiteStats.Filter
