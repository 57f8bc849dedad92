import SiteStats.Proofs.Filter.Grammar

/-!
# The fault of a document

A document can be at fault in many of its nodes, and one fault is reported.  Which one is a matter
of order: `nodeAt?` finds the node at a position, which is given by the numbers of the children on
the way, and positions in the lexicographic order are the nodes from left to right and each group
before its children.  `Faulty` says what is wrong with a node by itself, without a look at other
nodes, and `FirstFault` is a node at fault with none before it.

`explicitNode_eq_error_iff` takes the first pass over a document apart at one node: the fault is the
node's own, or the node has none and it is that of the first child that has any.  From there on the
pass is not opened again.  One induction over the document finds the first fault where the pass
fails (`exists_firstFault`); the other direction needs no induction, because there is only one first
fault in a document (`FirstFault.unique`).
-/

namespace SiteStats.Filter

open SiteStats.Schema

/-! ## Positions -/

/-- The children that a node lists; none when there is no list of them. -/
def listed (node : Value) : List Value :=
  match node.field? "children" with
  | some (.list items) => items
  | _ => []

/-- The node of a document at a position. -/
def nodeAt? : Value → List Nat → Option Value
  | document, [] => some document
  | document, i :: path => (listed document)[i]?.bind fun child => nodeAt? child path

lemma nodeAt?_cons_eq_some {document node : Value} {i : Nat} {path : List Nat} :
    nodeAt? document (i :: path) = some node ↔
      ∃ child, (listed document)[i]? = some child ∧ nodeAt? child path = some node :=
  Option.bind_eq_some_iff

lemma listed_of_list {fields : Fields} {items : List Value}
    (h : fields.lookup "children" = some (.list items)) : listed (.object fields) = items := by
  simp [listed, Value.field?, h]

lemma exists_list_of_mem_listed {node item : Value} (h : item ∈ listed node) :
    ∃ fields : Fields, node = .object fields ∧
      fields.lookup "children" = some (.list (listed node)) := by
  unfold listed at h ⊢
  split at h
  · rename_i items hchildren
    obtain ⟨fields, rfl⟩ := Value.field?_isSome (by rw [hchildren]; rfl)
    exact ⟨fields, rfl, hchildren⟩
  · simp at h

lemma sizeOf_lt_of_mem_listed {node item : Value} (h : item ∈ listed node) :
    sizeOf item < sizeOf node := by
  obtain ⟨fields, rfl, hlist⟩ := exists_list_of_mem_listed h
  generalize listed (.object fields) = items at h hlist
  obtain ⟨before, after, hfields, -⟩ := List.lookup_eq_some_iff.mp hlist
  have hitem : sizeOf item < sizeOf items := List.sizeOf_lt_of_mem h
  have hfield : sizeOf (("children" : Text), Value.list items) < sizeOf fields :=
    List.sizeOf_lt_of_mem (by simp [hfields])
  simp only [Prod.mk.sizeOf_spec, Value.list.sizeOf_spec] at hfield
  rw [Value.object.sizeOf_spec]
  omega

/-- To prove something of every document, prove it of a node from the same for all that it lists. -/
theorem document_induction {motive : Value → Prop}
    (node : ∀ node, (∀ item ∈ listed node, motive item) → motive node) (document : Value) :
    motive document :=
  node document fun item _ => document_induction node item
termination_by sizeOf document
decreasing_by exact sizeOf_lt_of_mem_listed (by assumption)

/-! ## Nodes at fault -/

/-- What is a list or an object. -/
inductive Compound : Value → Prop
  | list (items : List Value) : Compound (.list items)
  | object (fields : Fields) : Compound (.object fields)

/-- What is wrong with a node by itself: it is no object, its children are no list, the operator of
a group is a list or an object, or the value of a condition is an object with another operator than
the sign between alternatives. -/
inductive Faulty : Value → DocumentFault → Prop
  | notObject {node : Value} (other : ∀ fields : Fields, node ≠ .object fields) :
      Faulty node .nodeNotObject
  | childrenNotList {fields : Fields} {value : Value}
      (children : fields.lookup "children" = some value) (other : ∀ items, value ≠ .list items) :
      Faulty (.object fields) .childrenNotList
  | operatorNotWord {fields : Fields} {items : List Value} {operator : Value}
      (list : fields.lookup "children" = some (.list items))
      (given : fields.lookup "operator" = some operator) (compound : Compound operator) :
      Faulty (.object fields) (.operatorNotWord operator.kind)
  | alternativesOperator {fields inner : Fields} {operator : Value}
      (childless : fields.lookup "children" = none)
      (value : fields.lookup "value" = some (.object inner))
      (given : inner.lookup "operator" = some operator)
      (other : operator ≠ .text Operand.separator) :
      Faulty (.object fields) .alternativesOperator

/-- Nothing is wrong with a node by itself. -/
def Sound (node : Value) : Prop :=
  ∀ fault, ¬ Faulty node fault

/-- No node of a document is at fault. -/
def Flawless (document : Value) : Prop :=
  ∀ path node, nodeAt? document path = some node → Sound node

/-- The node of a document at fault that comes before all others. -/
structure FirstFault (document : Value) (path : List Nat) (node : Value) (fault : DocumentFault) :
    Prop where
  isThere : nodeAt? document path = some node
  faulty : Faulty node fault
  first : ∀ before, before < path → ∀ other, nodeAt? document before = some other → Sound other

lemma explicitOperator_eq_error_iff {operator : Option Value} {fault : DocumentFault} :
    explicitOperator operator = .error fault ↔
      ∃ value, operator = some value ∧ Compound value ∧ fault = .operatorNotWord value.kind := by
  constructor
  · intro h
    cases operator with
    | none => simp [explicitOperator] at h
    | some value =>
      cases value with
      | list items => exact ⟨_, rfl, .list items, (Except.error.inj h).symm⟩
      | object fields => exact ⟨_, rfl, .object fields, (Except.error.inj h).symm⟩
      | text word => simp [explicitOperator_text] at h
      | _ => simp [explicitOperator, Value.isText] at h
  · rintro ⟨_, rfl, _ | _, rfl⟩
    · rfl
    · rfl

lemma explicitAlternatives_eq_error_iff {fields : Fields} {fault : DocumentFault} :
    explicitAlternatives fields = .error fault ↔
      fault = .alternativesOperator ∧
        ∃ operator, fields.lookup "operator" = some operator ∧
          operator ≠ .text Operand.separator := by
  unfold explicitAlternatives
  cases Fields.lookup fields "operator" with
  | none => simp [Value.isText]
  | some operator =>
    by_cases h : operator = .text Operand.separator
    · simp [h]
    · simp [h, eq_comm (a := fault)]

lemma faulty_iff_of_not_object {node : Value} {fault : DocumentFault}
    (other : ∀ fields : Fields, node ≠ .object fields) :
    Faulty node fault ↔ fault = .nodeNotObject := by
  constructor
  · intro h
    cases h with
    | notObject => rfl
    | _ => exact absurd rfl (other _)
  · rintro rfl
    exact .notObject other

lemma faulty_iff_of_not_list {fields : Fields} {value : Value} {fault : DocumentFault}
    (children : fields.lookup "children" = some value) (other : ∀ items, value ≠ .list items) :
    Faulty (.object fields) fault ↔ fault = .childrenNotList := by
  constructor
  · intro h
    cases h with
    | notObject hnot => exact absurd rfl (hnot fields)
    | childrenNotList => rfl
    | operatorNotWord list =>
      exact absurd (Option.some.inj (children.symm.trans list)) (other _)
    | alternativesOperator childless => simp [children] at childless
  · rintro rfl
    exact .childrenNotList children other

lemma faulty_iff_of_list {fields : Fields} {items : List Value} {fault : DocumentFault}
    (list : fields.lookup "children" = some (.list items)) :
    Faulty (.object fields) fault ↔
      explicitOperator (fields.lookup "operator") = .error fault := by
  rw [explicitOperator_eq_error_iff]
  constructor
  · intro h
    cases h with
    | notObject other => exact absurd rfl (other fields)
    | childrenNotList children other =>
      obtain rfl := Option.some.inj (list.symm.trans children)
      exact absurd rfl (other items)
    | operatorNotWord _ given compound => exact ⟨_, given, compound, rfl⟩
    | alternativesOperator childless => simp [list] at childless
  · rintro ⟨operator, hgiven, hcompound, rfl⟩
    exact .operatorNotWord list hgiven hcompound

lemma faulty_iff_of_childless {fields : Fields} {fault : DocumentFault}
    (childless : fields.lookup "children" = none) :
    Faulty (.object fields) fault ↔ explicitCondition fields = .error fault := by
  have hinner : explicitCondition fields = .error fault ↔
      ∃ inner : Fields, fields.lookup "value" = some (.object inner) ∧
        explicitAlternatives inner = .error fault := by
    unfold explicitCondition
    cases Fields.lookup fields "value" with
    | none => simp
    | some value =>
      cases value with
      | object inner => cases hcase : explicitAlternatives inner <;> simp [Except.map, hcase]
      | _ => simp
  simp only [hinner, explicitAlternatives_eq_error_iff]
  constructor
  · intro h
    cases h with
    | notObject other => exact absurd rfl (other fields)
    | childrenNotList children => simp [childless] at children
    | operatorNotWord list => simp [childless] at list
    | alternativesOperator _ value given other => exact ⟨_, value, rfl, _, given, other⟩
  · rintro ⟨inner, hvalue, rfl, operator, hgiven, hother⟩
    exact .alternativesOperator childless hvalue hgiven hother

/-- At a node that lists no children the pass finds the fault of the node itself. -/
lemma explicitNode_eq_error_iff_of_not_list {node : Value} {fault : DocumentFault}
    (h : ∀ (fields : Fields) items, node = .object fields →
      fields.lookup "children" ≠ some (.list items)) :
    explicitNode node = .error fault ↔ Faulty node fault := by
  cases node with
  | object fields =>
    cases hchildren : Fields.lookup fields "children" with
    | none => rw [explicitNode_of_childless hchildren, faulty_iff_of_childless hchildren]
    | some value =>
      have hother : ∀ items, value ≠ .list items := by
        rintro items rfl
        exact h fields items rfl hchildren
      have hfails : explicitGroup (Fields.lookup fields "operator") value =
          .error .childrenNotList := by
        cases value with
        | list items => exact absurd rfl (hother items)
        | _ => rfl
      rw [explicitNode_of_children hchildren, hfails, faulty_iff_of_not_list hchildren hother,
        Except.error.injEq, eq_comm]
  | _ =>
    rw [faulty_iff_of_not_object (by simp), explicitNode.eq_def, Except.error.injEq, eq_comm]

/-- At a group the pass finds the fault of the group itself, and if there is none that of its
children. -/
lemma explicitNode_eq_error_iff_of_list {fields : Fields} {items : List Value}
    {fault : DocumentFault} (list : fields.lookup "children" = some (.list items)) :
    explicitNode (.object fields) = .error fault ↔
      Faulty (.object fields) fault ∨
        Sound (.object fields) ∧ items.mapM explicitNode = .error fault := by
  rw [explicitNode_of_children list, explicitGroup, ← explicitItems_eq_mapM,
    faulty_iff_of_list list]
  cases hoperator : explicitOperator (fields.lookup "operator") with
  | error other =>
    have hunsound : ¬ Sound (.object fields) := fun hsound =>
      hsound other ((faulty_iff_of_list list).mpr hoperator)
    simp [Except.error_bind, hunsound]
  | ok sign =>
    have hsound : Sound (.object fields) := fun other hother => by
      rw [faulty_iff_of_list list, hoperator] at hother
      cases hother
    rw [Except.ok_bind]
    cases explicitItems items <;> simp [Except.ok_bind, Except.error_bind, Except.pure_eq, hsound]

/-- **One node.**  The pass fails at a node with the fault of the node itself, or else with that of
the first child at which it fails. -/
theorem explicitNode_eq_error_iff {node : Value} {fault : DocumentFault} :
    explicitNode node = .error fault ↔
      Faulty node fault ∨ Sound node ∧ ∃ before item after, listed node = before ++ item :: after ∧
        (∀ other ∈ before, ∃ explicit, explicitNode other = .ok explicit) ∧
        explicitNode item = .error fault := by
  by_cases hlists : ∃ (fields : Fields) (items : List Value), node = .object fields ∧
      fields.lookup "children" = some (.list items)
  · obtain ⟨fields, items, rfl, hlist⟩ := hlists
    rw [explicitNode_eq_error_iff_of_list hlist, listed_of_list hlist, List.mapM_eq_error_iff]
  · have hnone : ∀ (fields : Fields) items, node = .object fields →
        fields.lookup "children" ≠ some (.list items) :=
      fun fields items hnode hlist => hlists ⟨fields, items, hnode, hlist⟩
    have hempty : listed node = [] := by
      by_contra hne
      obtain ⟨item, hitem⟩ := List.exists_mem_of_ne_nil _ hne
      obtain ⟨fields, hnode, hlist⟩ := exists_list_of_mem_listed hitem
      exact hnone fields _ hnode hlist
    rw [explicitNode_eq_error_iff_of_not_list hnone]
    simp [hempty]

/-! ## The first fault -/

/-- Where the pass goes through, no node is at fault. -/
lemma flawless_of_explicitNode {document explicit : Value}
    (h : explicitNode document = .ok explicit) :
    Flawless document := by
  intro path
  induction path generalizing document explicit with
  | nil =>
    intro node hnode fault hfault
    obtain rfl := Option.some.inj hnode
    rw [explicitNode_eq_error_iff.mpr (.inl hfault)] at h
    cases h
  | cons i path ih =>
    intro node hnode
    obtain ⟨child, hchild, hbelow⟩ := nodeAt?_cons_eq_some.mp hnode
    have hmem : child ∈ listed document := List.mem_of_getElem? hchild
    obtain ⟨fields, rfl, hlist⟩ := exists_list_of_mem_listed hmem
    rw [explicitNode_of_children hlist, explicitGroup_eq_ok_iff] at h
    obtain ⟨items, sign, children, hitems, -, heach, -⟩ := h
    obtain hsame : listed (.object fields) = items := Value.list.inj hitems
    rw [explicitItems_eq_mapM, List.mapM_eq_ok_iff, ← hsame] at heach
    obtain ⟨explicitChild, hexplicit⟩ : ∃ e, explicitNode child = .ok e := by
      have hall := List.exists_forall₂_iff.mp ⟨children, heach⟩
      exact hall child hmem
    exact ih hexplicit node hbelow

/-- A node at fault comes before all that is below it. -/
lemma Faulty.firstFault {node : Value} {fault : DocumentFault} (h : Faulty node fault) :
    FirstFault node [] node fault :=
  ⟨rfl, h, fun before hbefore => absurd hbefore (List.not_lt_nil before)⟩

/-- The first fault of a child is that of the node, if the node itself and the children before it
have none. -/
lemma FirstFault.below {node item found : Value} {before after : List Value} {path : List Nat}
    {fault : DocumentFault} (hsound : Sound node) (hlisted : listed node = before ++ item :: after)
    (hbefore : ∀ other ∈ before, Flawless other) (h : FirstFault item path found fault) :
    FirstFault node (before.length :: path) found fault := by
  have hchild : (listed node)[before.length]? = some item := by simp [hlisted]
  refine ⟨nodeAt?_cons_eq_some.mpr ⟨item, hchild, h.isThere⟩, h.faulty, ?_⟩
  intro earlier hearlier other hother
  cases earlier with
  | nil =>
    obtain rfl := Option.some.inj hother
    exact hsound
  | cons i earlier =>
    obtain ⟨child, hi, hbelow⟩ := nodeAt?_cons_eq_some.mp hother
    obtain hlt | ⟨rfl, hlt⟩ := List.cons_lt_cons_iff.mp hearlier
    · rw [hlisted, List.getElem?_append_left hlt] at hi
      exact hbefore child (List.mem_of_getElem? hi) earlier other hbelow
    · obtain rfl : child = item := Option.some.inj (hi.symm.trans hchild)
      exact h.first earlier hlt other hbelow

/-- Where the pass fails, there is a first fault, and it is reported. -/
lemma exists_firstFault {document : Value} {fault : DocumentFault}
    (h : explicitNode document = .error fault) :
    ∃ path node, FirstFault document path node fault := by
  induction document using document_induction with
  | node node ih =>
    obtain hown | ⟨hsound, before, item, after, hlisted, hbefore, hitem⟩ :=
      explicitNode_eq_error_iff.mp h
    · exact ⟨[], node, hown.firstFault⟩
    · have hmem : item ∈ listed node := by simp [hlisted]
      obtain ⟨path, found, hfirst⟩ := ih item hmem hitem
      have hflawless : ∀ other ∈ before, Flawless other := fun other hother => by
        obtain ⟨explicit, hexplicit⟩ := hbefore other hother
        exact flawless_of_explicitNode hexplicit
      exact ⟨before.length :: path, found, hfirst.below hsound hlisted hflawless⟩

lemma Faulty.unique {node : Value} {fault fault' : DocumentFault} (h : Faulty node fault)
    (h' : Faulty node fault') : fault = fault' := by
  have hfails := explicitNode_eq_error_iff.mpr (.inl h)
  rw [explicitNode_eq_error_iff.mpr (.inl h')] at hfails
  exact (Except.error.inj hfails).symm

lemma FirstFault.unique {document node node' : Value} {path path' : List Nat}
    {fault fault' : DocumentFault} (h : FirstFault document path node fault)
    (h' : FirstFault document path' node' fault') : fault = fault' := by
  obtain hlt | rfl | hlt := Std.lt_trichotomy path path'
  · exact absurd h.faulty (h'.first path hlt node h.isThere fault)
  · have hsame : node = node' := Option.some.inj (h.isThere.symm.trans h'.isThere)
    exact h.faulty.unique (hsame ▸ h'.faulty)
  · exact absurd h'.faulty (h.first path' hlt node' h'.isThere fault')

/-- **The first fault.**  The pass over a document reports its first fault. -/
theorem FirstFault.explicitNode_eq {document node : Value} {path : List Nat} {fault : DocumentFault}
    (h : FirstFault document path node fault) : explicitNode document = .error fault := by
  cases hresult : explicitNode document with
  | ok explicit =>
    exact absurd h.faulty (flawless_of_explicitNode hresult path node h.isThere fault)
  | error other =>
    obtain ⟨path', node', hfirst⟩ := exists_firstFault hresult
    rw [h.unique hfirst]

/-- Where any node is at fault, there is a first one. -/
lemma exists_firstFault_of_faulty {document node : Value} {path : List Nat} {fault : DocumentFault}
    (hnode : nodeAt? document path = some node) (hfault : Faulty node fault) :
    ∃ path node fault, FirstFault document path node fault := by
  cases hresult : explicitNode document with
  | ok explicit => exact absurd hfault (flawless_of_explicitNode hresult path node hnode fault)
  | error other =>
    obtain ⟨path', node', hfirst⟩ := exists_firstFault hresult
    exact ⟨path', node', other, hfirst⟩

lemma FirstFault.isGroup {root node : Value} {path : List Nat} {kind : String}
    (h : FirstFault root path node (.operatorNotWord kind)) :
    ∃ fields : Fields, root = .object fields ∧ (fields.lookup "children").isSome := by
  cases path with
  | nil =>
    obtain rfl : root = node := Option.some.inj h.isThere
    cases h.faulty with
    | operatorNotWord list => exact ⟨_, rfl, by rw [list]; rfl⟩
  | cons i path =>
    obtain ⟨child, hchild, -⟩ := nodeAt?_cons_eq_some.mp h.isThere
    obtain ⟨fields, rfl, hlist⟩ := exists_list_of_mem_listed (List.mem_of_getElem? hchild)
    exact ⟨fields, rfl, by rw [hlist]; rfl⟩

end SiteStats.Filter
