import SiteStats.Proofs.Filter.Faults

/-!
# Which fault is reported

The first fault of a document is the one that is reported, and what comes after it in the document
makes no difference.  To say so, two documents are compared position by position: `AgreesUntil` asks
for the same node at one position and for nothing behind it, and before it a node may be changed in
any way that makes no fault (`Harmless`).  What a node lists is not part of either comparison, since
its children are nodes at positions of their own.  For the same reason nothing has to be proved by
induction here: the first fault of the one document is that of the other as soon as single nodes are
compared.

What the second pass finds wrong is reported only where the first pass goes through, and that is
where no node is at fault (`Group.ofDocument_first_fault`).
-/

namespace SiteStats.Filter

open SiteStats.Schema

/-! ## Documents that agree up to a position -/

/-- A change of a node that makes no fault, whatever becomes of its children: any fields may be
added, dropped or changed, as long as the node stays what it is, the operator of a group becomes
neither a list nor an object, and the value of a condition becomes no object. -/
inductive Harmless : Value → Value → Prop
  | condition {fields fields' : Fields}
      (childless : fields.lookup "children" = none) (childless' : fields'.lookup "children" = none)
      (value : fields'.lookup "value" = fields.lookup "value" ∨
        ∀ inner : Fields, fields'.lookup "value" ≠ some (.object inner)) :
      Harmless (.object fields) (.object fields')
  | group {fields fields' : Fields} {items items' : List Value}
      (list : fields.lookup "children" = some (.list items))
      (list' : fields'.lookup "children" = some (.list items'))
      (operator : fields'.lookup "operator" = fields.lookup "operator" ∨
        ∀ given, fields'.lookup "operator" = some given → ¬ Compound given) :
      Harmless (.object fields) (.object fields')

/-- The same node, but for what it may list. -/
inductive SameButChildren : Value → Value → Prop
  | same (node : Value) : SameButChildren node node
  | group {fields fields' : Fields} {items items' : List Value}
      (list : fields.lookup "children" = some (.list items))
      (list' : fields'.lookup "children" = some (.list items'))
      (operator : fields'.lookup "operator" = fields.lookup "operator") :
      SameButChildren (.object fields) (.object fields')

/-- Two documents that agree up to a position: before it nodes have changed without harm, at it the
node is the same, and nothing is said about what comes later, which includes the children of that
node. -/
structure AgreesUntil (path : List Nat) (document document' : Value) : Prop where
  before : ∀ earlier, earlier < path →
    Option.Rel Harmless (nodeAt? document earlier) (nodeAt? document' earlier)
  here : Option.Rel SameButChildren (nodeAt? document path) (nodeAt? document' path)

lemma AgreesUntil.top {node node' : Value} (h : SameButChildren node node') :
    AgreesUntil [] node node' :=
  ⟨fun earlier hlt => absurd hlt (List.not_lt_nil earlier), .some h⟩

/-- Documents agree up to a position below a child when the children do and nothing before them has
changed with harm.  The children after them may be any. -/
lemma AgreesUntil.below {node node' item item' : Value} {before before' after after' : List Value}
    {path : List Nat} (hnode : Harmless node node')
    (hlisted : listed node = before ++ item :: after)
    (hlisted' : listed node' = before' ++ item' :: after')
    (hbefore : List.Forall₂ (fun other other' => ∀ path,
      Option.Rel Harmless (nodeAt? other path) (nodeAt? other' path)) before before')
    (h : AgreesUntil path item item') : AgreesUntil (before.length :: path) node node' := by
  have hlength : before.length = before'.length := hbefore.length_eq
  have hat : ∀ below, nodeAt? node (before.length :: below) = nodeAt? item below := fun below => by
    simp [nodeAt?, hlisted]
  have hat' : ∀ below, nodeAt? node' (before.length :: below) = nodeAt? item' below :=
    fun below => by
    simp [nodeAt?, hlisted', hlength]
  refine ⟨fun earlier hearlier => ?_, by rw [hat, hat']; exact h.here⟩
  cases earlier with
  | nil => exact .some hnode
  | cons i earlier =>
    obtain hlt | ⟨rfl, hlt⟩ := List.cons_lt_cons_iff.mp hearlier
    · have hlt' : i < before'.length := hlength ▸ hlt
      have hrelated := hbefore.get hlt hlt' earlier
      have hchild : (listed node)[i]? = some before[i] := by
        rw [hlisted, List.getElem?_append_left hlt, List.getElem?_eq_getElem hlt]
      have hchild' : (listed node')[i]? = some before'[i] := by
        rw [hlisted', List.getElem?_append_left hlt', List.getElem?_eq_getElem hlt']
      rw [nodeAt?, nodeAt?, hchild, hchild']
      exact hrelated
    · rw [hat, hat']
      exact h.before earlier hlt

lemma Harmless.sound {node node' : Value} (h : Harmless node node') (hsound : Sound node) :
    Sound node' := by
  intro fault hfault
  cases h with
  | condition childless childless' value =>
    cases hfault with
    | notObject other => exact other _ rfl
    | childrenNotList children => simp [childless'] at children
    | operatorNotWord list => simp [childless'] at list
    | alternativesOperator _ held given other =>
      obtain hsame | hnone := value
      · exact hsound _ (.alternativesOperator childless (hsame ▸ held) given other)
      · exact hnone _ held
  | group list list' operator =>
    rw [faulty_iff_of_list list', explicitOperator_eq_error_iff] at hfault
    obtain ⟨given, hgiven, hcompound, -⟩ := hfault
    obtain hsame | hnone := operator
    · exact hsound _ (.operatorNotWord list (hsame ▸ hgiven) hcompound)
    · exact hnone given hgiven hcompound

lemma SameButChildren.faulty {node node' : Value} {fault : DocumentFault}
    (h : SameButChildren node node') (hfault : Faulty node fault) : Faulty node' fault := by
  cases h with
  | same => exact hfault
  | group list list' operator =>
    rw [faulty_iff_of_list list] at hfault
    rw [faulty_iff_of_list list', operator]
    exact hfault

/-- Documents that agree up to the first fault of the one have that fault in common. -/
lemma FirstFault.of_agreesUntil {document document' node : Value} {path : List Nat}
    {fault : DocumentFault} (h : FirstFault document path node fault)
    (hagree : AgreesUntil path document document') :
    ∃ node', FirstFault document' path node' fault := by
  obtain ⟨node', hnode', hsame⟩ : ∃ node', nodeAt? document' path = some node' ∧
      SameButChildren node node' := by
    have hhere := hagree.here
    rw [h.isThere] at hhere
    generalize nodeAt? document' path = there at hhere ⊢
    cases hhere with
    | some hsame => exact ⟨_, rfl, hsame⟩
  refine ⟨node', hnode', hsame.faulty h.faulty, fun earlier hlt other hother => ?_⟩
  have hbefore := hagree.before earlier hlt
  rw [hother] at hbefore
  generalize hwas : nodeAt? document earlier = was at hbefore
  cases hbefore with
  | some hharmless => exact hharmless.sound (h.first earlier hlt _ hwas)

lemma AgreesUntil.hasChildren {path : List Nat} {fields : Fields} {document' : Value}
    (hagree : AgreesUntil path (.object fields) document')
    (hchildren : (fields.lookup "children").isSome) :
    ∃ fields' : Fields, document' = .object fields' ∧ (fields'.lookup "children").isSome := by
  cases path with
  | nil =>
    cases hagree.here with
    | some hsame =>
      cases hsame with
      | same => exact ⟨fields, rfl, hchildren⟩
      | group _ list' => exact ⟨_, rfl, by rw [list']; rfl⟩
  | cons i path =>
    cases hagree.before [] (List.nil_lt_cons i path) with
    | some hharmless =>
      cases hharmless with
      | condition childless => simp [childless] at hchildren
      | group _ list' => exact ⟨_, rfl, by rw [list']; rfl⟩

/-- A node at fault is the first fault of the document that has it as its only child. -/
lemma Faulty.firstFault_alone {node : Value} {fault : DocumentFault} (h : Faulty node fault) :
    FirstFault (.object [("children", .list [node])]) [0] node fault := by
  have hsound : Sound (.object [("children", .list [node])]) := fun other hother => by
    rw [faulty_iff_of_list rfl] at hother
    cases hother
  have hlisted : listed (.object [("children", .list [node])]) = [] ++ node :: [] :=
    listed_of_list rfl
  exact h.firstFault.below hsound hlisted (by simp)

/-! ## Documents -/

section

variable [Json.Room]

/-- An object with children is read in two passes. -/
lemma Group.ofDocument_of_children {fields : Fields} (h : (fields.lookup "children").isSome) :
    Group.ofDocument (.object fields) =
      (explicitNode (.object fields)).bind fun explicit =>
        (Group.check explicit).mapError .invalid := by
  have hnot : (fields.lookup "children").isNone = false := by
    rw [Option.isNone_eq_false_iff]
    exact h
  rw [Group.ofDocument_of_not_text (by simp), Group.ofObject]
  simp only [hnot]
  cases explicitNode (.object fields) <;> rfl

lemma Group.ofDocument_eq_error_iff_of_children {fields : Fields} {fault : DocumentFault}
    (h : (fields.lookup "children").isSome) :
    Group.ofDocument (.object fields) = .error fault ↔
      explicitNode (.object fields) = .error fault ∨
        ∃ explicit rejection, explicitNode (.object fields) = .ok explicit ∧
          Group.check explicit = .error rejection ∧ fault = .invalid rejection := by
  rw [Group.ofDocument_of_children h]
  cases explicitNode (.object fields) with
  | error found => simp [Except.bind]
  | ok explicit =>
    cases hcheck : Group.check explicit with
    | ok g => simp [Except.bind, Except.mapError, hcheck]
    | error rejection => simp [Except.bind, Except.mapError, hcheck, eq_comm]

lemma FirstFault.ofDocument_eq {fields : Fields} {path : List Nat} {node : Value}
    {fault : DocumentFault} (hchildren : (fields.lookup "children").isSome)
    (h : FirstFault (.object fields) path node fault) :
    Group.ofDocument (.object fields) = .error fault := by
  rw [Group.ofDocument_of_children hchildren, h.explicitNode_eq]
  rfl

/-- **Which fault is reported.**  If any node of a document is at fault there is a first one, and
reading the document fails as it would if that node were the only child of a group; it fails in the
same way for every document that agrees with it up to there.  The fields of an explicit form are
found invalid exactly when no node is at fault and the explicit form is not accepted. -/
theorem Group.ofDocument_first_fault {fields : Fields} (h : (fields.lookup "children").isSome) :
    let document : Value := .object fields
    ((∃ path node fault, nodeAt? document path = some node ∧ Faulty node fault) →
      ∃ path node fault, FirstFault document path node fault) ∧
    (∀ path node fault, FirstFault document path node fault →
      Group.ofDocument document = .error fault ∧
      Group.ofDocument (.object [("children", .list [node])]) = .error fault ∧
      ∀ document', AgreesUntil path document document' →
        Group.ofDocument document' = .error fault) ∧
    ∀ issues, Group.ofDocument document = .error (.invalid (.flawed issues)) ↔
      Flawless document ∧ ∃ explicit, explicitNode document = .ok explicit ∧
        Group.check explicit = .error (.flawed issues) := by
  intro document
  refine ⟨?_, fun path node fault hfirst => ⟨hfirst.ofDocument_eq h, ?_, ?_⟩, fun issues => ?_⟩
  · rintro ⟨path, node, fault, hnode, hfault⟩
    exact exists_firstFault_of_faulty hnode hfault
  · exact hfirst.faulty.firstFault_alone.ofDocument_eq rfl
  · intro document' hagree
    obtain ⟨fields', rfl, hchildren⟩ := hagree.hasChildren h
    obtain ⟨node', hfirst'⟩ := hfirst.of_agreesUntil hagree
    exact hfirst'.ofDocument_eq hchildren
  · rw [Group.ofDocument_eq_error_iff_of_children h]
    constructor
    · rintro (hfails | ⟨explicit, rejection, hexplicit, hcheck, hfault⟩)
      · -- the fault of a node is not one of those that are found in the explicit form
        obtain ⟨_, _, hfirst⟩ := exists_firstFault hfails
        cases hfirst.faulty
      · obtain rfl := DocumentFault.invalid.inj hfault
        exact ⟨flawless_of_explicitNode hexplicit, explicit, hexplicit, hcheck⟩
    · rintro ⟨-, explicit, hexplicit, hcheck⟩
      exact .inr ⟨explicit, _, hexplicit, hcheck, rfl⟩

end

/-- A group with an operator that is none has a condition of a property that is none, a group with a
list for its operator, and a number.  The list is reported, and it still is when the first two
faults are taken away and what comes after the list is replaced. -/
theorem Group.ofDocument_first_fault_between :
    let _room : Json.Room := ⟨900⟩
    let stopping (below : List Value) : Value :=
      .object [("operator", .list []), ("children", .list below)]
    let fields : Fields := [("operator", .text "xor"), ("children", .list
      [.object [("property", .text "nowhere"), ("value", .int 3)], stopping [.null], .int 7])]
    let document' : Value := .object [("note", .null), ("operator", .int 5), ("children", .list
      [.object [("property", .text "event:page"), ("value", .text "/")], stopping []])]
    (fields.lookup "children").isSome ∧
      FirstFault (.object fields) [1] (stopping [.null]) (.operatorNotWord "list") ∧
      AgreesUntil [1] (.object fields) document' ∧
      Group.ofDocument document' = .error (.operatorNotWord "list") := by
  intro _room stopping fields document'
  let condition : Fields := [("property", .text "nowhere"), ("value", .int 3)]
  let condition' : Fields := [("property", .text "event:page"), ("value", .text "/")]
  have hfilled : (fields.lookup "children").isSome := rfl
  have hlisted : listed (.object fields) = [.object condition] ++ stopping [.null] :: [.int 7] :=
    listed_of_list rfl
  have hlisted' : listed document' = [.object condition'] ++ stopping [] :: [] := listed_of_list rfl
  have hfaulty : Faulty (stopping [.null]) (.operatorNotWord "list") :=
    .operatorNotWord rfl rfl (.list [])
  have hsound : Sound (.object fields) := fun fault hfault => by
    rw [faulty_iff_of_list rfl] at hfault
    cases hfault
  have hbefore : ∀ other ∈ [Value.object condition], Flawless other := by
    intro other hother
    obtain rfl := List.mem_singleton.mp hother
    have hexplicit : ∃ explicit, explicitNode (.object condition) = .ok explicit := ⟨_, rfl⟩
    obtain ⟨explicit, h⟩ := hexplicit
    exact flawless_of_explicitNode h
  have hfirst : FirstFault (.object fields) [1] (stopping [.null]) (.operatorNotWord "list") :=
    hfaulty.firstFault.below hsound hlisted hbefore
  have hchanged : ∀ path, Option.Rel Harmless (nodeAt? (.object condition) path)
      (nodeAt? (.object condition') path) := by
    intro path
    cases path with
    | nil => exact .some (.condition rfl rfl (.inr fun inner h => by cases h))
    | cons i path => exact .none
  have hroot : Harmless (.object fields) document' := by
    refine .group rfl rfl (.inr fun given hgiven hcompound => ?_)
    obtain rfl : Value.int 5 = given := Option.some.inj hgiven
    cases hcompound
  have hagree : AgreesUntil [1] (.object fields) document' :=
    .below hroot hlisted hlisted' (.cons hchanged .nil) (.top (.group rfl rfl rfl))
  obtain ⟨-, hreported, -⟩ := Group.ofDocument_first_fault hfilled
  obtain ⟨-, -, hsame⟩ := hreported [1] _ _ hfirst
  exact ⟨hfilled, hfirst, hagree, hsame document' hagree⟩

end SiteStats.Filter
