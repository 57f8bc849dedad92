import SiteStats.Proofs.Filter.Grammar

/-!
# Explicit filters as documents

An explicit filter says of each node by its `kind` what it is, and a filter document by whether it
has `children`.  Most objects that are accepted as the one describe the same filter as the other,
but not all: a condition that carries `children` besides is a group for the reader of documents, and
alternatives with an `operator` of their own are refused by it.  `Unequivocal` rules out these two,
and `Group.ofDocument_eq_ok_iff_unequivocal` says that there are no others.

The induction is on the filter that comes out and not on the object.  What is accepted below a group
fixes the `kind` of each node, and with it which of the two cases could arise there.
-/

namespace SiteStats

/-- What can be written in JSON: no days, no moments and no parts of filters that are already built.
-/
inductive Value.IsJson : Value → Prop
  | null : IsJson .null
  | bool (value : Bool) : IsJson (.bool value)
  | int (value : Int) : IsJson (.int value)
  | float (value : Float) : IsJson (.float value)
  | text (value : Text) : IsJson (.text value)
  | list {items : List Value} (each : ∀ item ∈ items, IsJson item) : IsJson (.list items)
  | object {fields : Fields} (each : ∀ field ∈ fields, IsJson field.2) : IsJson (.object fields)

namespace Value

attribute [simp] IsJson.null IsJson.bool IsJson.int IsJson.float IsJson.text

@[simp] lemma isJson_list {items : List Value} :
    (Value.list items).IsJson ↔ ∀ item ∈ items, item.IsJson :=
  ⟨fun | .list each => each, .list⟩

@[simp] lemma isJson_object {fields : Fields} :
    (Value.object fields).IsJson ↔ ∀ field ∈ fields, field.2.IsJson :=
  ⟨fun | .object each => each, .object⟩

lemma IsJson.of_lookup {fields : Fields} {name : Text} {value : Value}
    (h : (Value.object fields).IsJson) (hlookup : fields.lookup name = some value) :
    value.IsJson := by
  obtain ⟨before, after, hfields, -⟩ := List.lookup_eq_some_iff.mp hlookup
  exact isJson_object.mp h (name, value) (by simp [hfields])

end Value

namespace Filter

open SiteStats.Schema

/-- The nodes of a document: the document itself, and the nodes of what its `children` list. -/
inductive NodeOf : Value → Value → Prop
  | root (document : Value) : NodeOf document document
  | child {fields : Fields} {items : List Value} {item node : Value}
      (list : fields.lookup "children" = some (.list items)) (mem : item ∈ items)
      (below : NodeOf item node) : NodeOf (.object fields) node

/-- No condition of the document has children besides, and alternatives have no operator but the
sign that stands between them. -/
structure Unequivocal (document : Value) : Prop where
  childless : ∀ fields : Fields, NodeOf document (.object fields) →
    fields.lookup "kind" = some (.text "condition") → fields.lookup "children" = none
  separator : ∀ fields alternatives : Fields, NodeOf document (.object fields) →
    fields.lookup "kind" = some (.text "condition") →
      fields.lookup "value" = some (.object alternatives) →
        alternatives.lookup "operator" = none ∨
          alternatives.lookup "operator" = some (.text Operand.separator)

/-! ## Nodes -/

/-- An object that is no condition itself is unequivocal when its children are. -/
lemma unequivocal_iff_of_list {fields : Fields} {items : List Value}
    (hkind : fields.lookup "kind" ≠ some (.text "condition"))
    (hlist : fields.lookup "children" = some (.list items)) :
    Unequivocal (.object fields) ↔ ∀ item ∈ items, Unequivocal item := by
  constructor
  · intro h item hitem
    exact ⟨fun inner hinner => h.childless inner (.child hlist hitem hinner),
      fun inner alternatives hinner => h.separator inner alternatives (.child hlist hitem hinner)⟩
  · intro h
    -- a node that is a condition is not the object itself, and thus below one of the children
    have hbelow : ∀ inner : Fields, NodeOf (.object fields) (.object inner) →
        inner.lookup "kind" = some (.text "condition") →
          ∃ item ∈ items, NodeOf item (.object inner) := by
      intro inner hinner hcondition
      cases hinner with
      | root => exact absurd hcondition hkind
      | child list mem below =>
        obtain rfl : items = _ := by simpa [hlist] using list
        exact ⟨_, mem, below⟩
    constructor
    · intro inner hinner hcondition
      obtain ⟨item, hitem, hnode⟩ := hbelow inner hinner hcondition
      exact (h item hitem).childless inner hnode hcondition
    · intro inner alternatives hinner hcondition
      obtain ⟨item, hitem, hnode⟩ := hbelow inner hinner hcondition
      exact (h item hitem).separator inner alternatives hnode hcondition

/-- An object without children has no node but itself. -/
lemma NodeOf.eq_of_childless {fields : Fields} {node : Value} (h : NodeOf (.object fields) node)
    (hchildless : fields.lookup "children" = none) : node = .object fields := by
  cases h with
  | root => rfl
  | child list => simp [hchildless] at list

/-! ## The two readings of a node -/

/-- An operand that is accepted is described by its value as far as an operator in it allows. -/
lemma describesOperand_iff_of_check {value : Value} {leaf : Condition}
    (h : Operand.check value = .ok leaf.operand) (hallowed : leaf.allowed = true) :
    DescribesOperand value leaf.comparison leaf.operand ↔
      ∀ fields : Fields, value = .object fields → fields.lookup "operator" = none ∨
        fields.lookup "operator" = some (.text Operand.separator) := by
  rw [Condition.allowed_iff] at hallowed
  obtain ⟨p, c, o⟩ := leaf
  obtain ⟨t, rfl, rfl⟩ | ⟨values, hvalues, rfl⟩ := Operand.check_eq_ok_iff.mp h
  · have hnot : ∀ fields, Value.text t ≠ .object fields := by simp
    exact ⟨fun _ fields hfields => absurd hfields (hnot fields), fun _ => .one t c⟩
  · obtain rfl : c = .equals := hallowed values rfl
    obtain rfl | ⟨fields, rfl, -, hlist, hfilled⟩ :=
      Operand.checkAlternatives_eq_ok_iff.mp hvalues
    · have hnot : ∀ fields, Value.part (.alternatives values) ≠ .object fields := by simp
      exact ⟨fun _ fields hfields => absurd hfields (hnot fields), fun _ => .built values⟩
    · constructor
      · rintro (- | - | ⟨operator, -, -⟩) _ ⟨⟩
        exact operator
      · intro hoperator
        exact .anyOf (hoperator fields rfl) hlist hfilled

/-- **Conditions.**  Fields that are accepted as a condition describe it unless they are equivocal.
-/
lemma Condition.describes_iff_of_ofFields {fields : Fields} {leaf : Condition}
    (hkind : fields.lookup "kind" = some (.text "condition"))
    (h : Condition.ofFields fields = .ok leaf) :
    Describes (.object fields) (.condition leaf) ↔ Unequivocal (.object fields) := by
  obtain ⟨-, hproperty, hcomparison, ⟨value, hvalue, hoperand⟩, hallowed⟩ :=
    Condition.ofFields_eq_ok_iff.mp h
  have hdescribes := describesOperand_iff_of_check hoperand hallowed
  rw [describes_condition_iff]
  constructor
  · rintro ⟨hchildless, -, -, given, hgiven, hparts⟩
    obtain rfl : value = given := Option.some.inj (hvalue.symm.trans hgiven)
    constructor
    · intro inner hinner _
      obtain ⟨⟩ := hinner.eq_of_childless hchildless
      exact hchildless
    · intro inner alternatives hinner _ halternatives
      obtain ⟨⟩ := hinner.eq_of_childless hchildless
      exact hdescribes.mp hparts alternatives (Option.some.inj (hvalue.symm.trans halternatives))
  · intro hunequivocal
    refine ⟨hunequivocal.childless fields (.root _) hkind, hproperty, hcomparison, value, hvalue,
      hdescribes.mpr fun alternatives halternatives => ?_⟩
    exact hunequivocal.separator fields alternatives (.root _) hkind (halternatives ▸ hvalue)

/-- **Groups.**  Fields that are accepted as a group describe it unless one of its children is
equivocal; `hchild` says the same of the children. -/
lemma Group.describes_iff_of_ofFields {levels : Nat} {fields : Fields} {g : Group}
    (h : Group.ofFields fields (checkChildrenField levels fields) = .ok g)
    (json : (Value.object fields).IsJson)
    (hchild : ∀ child ∈ g.children, ∀ value : Value, value.IsJson →
      checkChild levels value = .ok child → (Describes value child ↔ Unequivocal value)) :
    Describes (.object fields) g.node ↔ Unequivocal (.object fields) := by
  obtain ⟨hkind, hsign, items, hlist, hitems, hfilled⟩ := Group.ofFields_eq_ok_iff.mp h
  have hnot : fields.lookup "kind" ≠ some (.text "condition") := by
    obtain hnone | hgroup := hkind
    · simp [hnone]
    · simp [hgroup]
  have hcombinator : NamesCombinator (fields.lookup "operator") g.combinator := by
    obtain hnone | htext := hsign
    · exact .inl hnone
    · exact .inr (.inl htext)
  have hitems' : List.Forall₂ Describes items g.children ↔ ∀ item ∈ items, Unequivocal item :=
    hitems.iff_forall fun item hitem child hmem hcheck =>
      hchild child hmem item (Value.isJson_list.mp (json.of_lookup hlist) item hitem) hcheck
  rw [unequivocal_iff_of_list hnot hlist, ← hitems', Group.node, describes_group_iff]
  constructor
  · rintro ⟨listed, hlisted, -, heach, -⟩
    obtain rfl : items = listed := by simpa [hlist] using hlisted
    exact heach
  · exact fun heach => ⟨items, hlist, hcombinator, heach, hfilled⟩

/-- What is accepted below a group is an object, and a condition or a group by its own word. -/
lemma isObject_of_checkChild {levels : Nat} {value : Value} {node : Node} (json : value.IsJson)
    (h : checkChild levels value = .ok node) :
    ∃ fields : Fields, value = .object fields ∧
      ((fields.lookup "kind" = some (.text "condition") ∧
          ∃ leaf, Condition.ofFields fields = .ok leaf ∧ Node.condition leaf = node) ∨
        ∃ below, levels = below + 1 ∧ ∃ g : Group,
          Group.ofFields fields (checkChildrenField below fields) = .ok g ∧ g.node = node) := by
  obtain ⟨rfl, -⟩ | ⟨fields, rfl, hcondition | ⟨-, hgroup⟩⟩ := checkChild_eq_ok_iff.mp h
  · cases json
  · exact ⟨fields, rfl, .inl hcondition⟩
  · exact ⟨fields, rfl, .inr hgroup⟩

/-- What is accepted below a group describes the same node unless it is equivocal. -/
theorem describes_iff_of_checkChild {levels : Nat} {value : Value} {node : Node}
    (json : value.IsJson) (h : checkChild levels value = .ok node) :
    Describes value node ↔ Unequivocal value := by
  induction node generalizing levels value with
  | condition leaf =>
    obtain ⟨fields, rfl, ⟨hkind, _, hleaf, ⟨⟩⟩ | ⟨-, -, ⟨_, _⟩, -, ⟨⟩⟩⟩ :=
      isObject_of_checkChild json h
    exact Condition.describes_iff_of_ofFields hkind hleaf
  | group c children ih =>
    obtain ⟨fields, rfl, ⟨-, _, -, ⟨⟩⟩ | ⟨below, rfl, ⟨_, _⟩, hg, ⟨⟩⟩⟩ :=
      isObject_of_checkChild json h
    exact Group.describes_iff_of_ofFields hg json fun child hchild _ => ih child hchild

lemma depth_le_of_checkChild {levels : Nat} {value : Value} {node : Node} (json : value.IsJson)
    (h : checkChild levels value = .ok node) : node.depth ≤ levels := by
  induction node generalizing levels value with
  | condition leaf => simp
  | group c children ih =>
    obtain ⟨fields, rfl, ⟨-, _, -, ⟨⟩⟩ | ⟨below, rfl, ⟨_, _⟩, hg, ⟨⟩⟩⟩ :=
      isObject_of_checkChild json h
    obtain ⟨-, -, items, hlist, hitems, -⟩ := Group.ofFields_eq_ok_iff.mp hg
    refine Node.depth_group_le_iff.mpr fun child hchild => ?_
    obtain ⟨item, hitem, hcheck⟩ := hitems.exists_of_mem hchild
    exact ih child hchild (Value.isJson_list.mp (json.of_lookup hlist) item hitem) hcheck

/-- So it is with the root, which is the first level. -/
lemma Group.depth_le_of_check {fields : Fields} {g : Group} (json : (Value.object fields).IsJson)
    (h : Group.check (.object fields) = .ok g) : g.depth ≤ maxLevels := by
  obtain ⟨-, -, items, hlist, hitems, -⟩ := Group.ofFields_eq_ok_iff.mp h
  refine Node.depth_group_le_iff.mpr fun child hchild => ?_
  obtain ⟨item, hitem, hcheck⟩ := hitems.exists_of_mem hchild
  exact depth_le_of_checkChild (Value.isJson_list.mp (json.of_lookup hlist) item hitem) hcheck

/-! ## Documents -/

section Documents

variable [Json.Room]

/-- **Explicit filters as documents.**  A JSON object that is accepted as an explicit filter is read
as a document of the same filter exactly when it is unequivocal, and then its text is that of the
filter. -/
theorem Group.ofDocument_eq_ok_iff_unequivocal {fields : Fields} {g : Group}
    (json : (Value.object fields).IsJson) (h : Group.check (.object fields) = .ok g) :
    (Group.ofDocument (.object fields) = .ok g ↔ Unequivocal (.object fields)) ∧
      (Unequivocal (.object fields) → compile (.object fields) = .ok g.text) := by
  have hread : Group.ofDocument (.object fields) = .ok g ↔ Unequivocal (.object fields) := by
    have hobject : ∀ t, Value.object fields ≠ .text t := by simp
    rw [Group.ofDocument_of_not_text hobject, Group.ofObject_eq_ok_iff,
      and_iff_left (Group.depth_le_of_check json h)]
    exact Group.describes_iff_of_ofFields h json fun _ _ _ => describes_iff_of_checkChild
  refine ⟨hread, fun hunequivocal => ?_⟩
  show (Group.ofDocument (.object fields)).map Group.text = .ok g.text
  rw [hread.mpr hunequivocal]
  rfl

end Documents

/-- A group in a group, with a sign of its own in the alternatives, a note that nothing looks at,
and a root that does not say what it is: its text is that of the filter it was accepted as. -/
theorem Group.ofDocument_eq_ok_iff_unequivocal_nested :
    let _room : Json.Room := ⟨900⟩
    let fields : Fields := [("operator", .text "|"), ("note", .list [.null, .int 3]),
      ("children", .list [
        .object [("kind", .text "condition"), ("property", .text "visit:country"),
          ("operator", .text "!="), ("value", .text "DE")],
        .object [("kind", .text "group"), ("children", .list [
          .object [("kind", .text "condition"), ("property", .text "event:page"),
            ("value", .object [("kind", .text "any_of"), ("operator", .text "|"),
              ("values", .list [.text "/a", .text "/b"])])],
          .object [("kind", .text "condition"), ("property", .text "visit:os"),
            ("value", .text "iOS")]])]])]
    let filter : Group := ⟨.any, [.condition ⟨.country, .differs, .one "DE"⟩, .group .all
      [.condition ⟨.page, .equals, .anyOf ["/a", "/b"]⟩, .condition ⟨.os, .equals, .one "iOS"⟩]]⟩
    (Value.object fields).IsJson ∧ Group.check (.object fields) = .ok filter ∧
      Unequivocal (.object fields) ∧
        compile (.object fields) = .ok "visit:country!=DE|(event:page==/a|/b;visit:os==iOS)" := by
  intro _room fields filter
  have hjson : (Value.object fields).IsJson := by simp [fields]
  have hcheck : Group.check (.object fields) = .ok filter := rfl
  obtain ⟨hread, hcompile⟩ := Group.ofDocument_eq_ok_iff_unequivocal hjson hcheck
  have hunequivocal : Unequivocal (.object fields) := hread.mp rfl
  have htext : filter.text = "visit:country!=DE|(event:page==/a|/b;visit:os==iOS)" := by decide
  exact ⟨hjson, hcheck, hunequivocal, htext ▸ hcompile hunequivocal⟩

end Filter

end SiteStats
