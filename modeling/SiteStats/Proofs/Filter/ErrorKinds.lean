import SiteStats.Proofs.Filter.Explanations
import SiteStats.Proofs.Filter.Reporting

/-!
# The kinds of error

A document that is no filter is refused with an error that speaks of the document, with two
exceptions. The operator of a group is looked up among the names of the combinators before anything
is known about it, and for a list or an object it is the look-up that fails, with an error of its
own.  These documents are those whose first fault is such an operator (`StopsAtOperator`), since
where another node comes first the look-up is never reached.  And a text can lie beyond the limits
of the reader (`BeyondLimits`), whose error is passed on.

What is reported of a document is settled once and for all documents, texts included, by
`Group.ofDocument_eq_error_iff`.  Which kind of error can come out is then a matter of looking
through the cases of `Reported`; an error of the calendar is in none of them.  The documents among
which all this is true are values of any form, parts of filters that are built already among them:
such a group is no document to read, but it is compiled.
-/

namespace SiteStats.Filter

open SiteStats.Schema

section Room

variable [Json.Room]

/-! ## Documents that are refused -/

/-- What is looked at of a document: what a text says in JSON, and any other document as it stands.
-/
def opened : Value → Except Json.ReadFault Value
  | .text t => Json.read t
  | document => .ok document

lemma Group.ofDocument_eq_bind (document : Value) :
    Group.ofDocument document = ((opened document).mapError .ofRead).bind Group.ofObject := by
  cases document <;> rfl

/-- What is wrong with a document: it is a text that is not JSON or lies beyond a limit of the
reader, or what it holds is no object or has no children, or one of its nodes is at fault, or its
explicit form has flaws. -/
inductive Reported (document : Value) : DocumentFault → Prop
  | unreadable {fault : Json.LocatedFault} (read : opened document = .error (.malformed fault)) :
    Reported document (.unreadable fault)
  | beyond {limit : Json.Limit} (read : opened document = .error (.beyond limit)) :
    Reported document (.beyond limit)
  | notObject {root : Value} (read : opened document = .ok root)
      (other : ∀ fields : Fields, root ≠ .object fields) : Reported document .rootNotObject
  | notGroup {fields : Fields} (read : opened document = .ok (.object fields))
      (childless : fields.lookup "children" = none) : Reported document .rootNotGroup
  | node {fields : Fields} {path : List Nat} {node : Value} {fault : DocumentFault}
      (read : opened document = .ok (.object fields))
      (children : (fields.lookup "children").isSome)
      (first : FirstFault (.object fields) path node fault) : Reported document fault
  | explicit {fields : Fields} {explicit : Value} {issues : List Issue}
      (read : opened document = .ok (.object fields))
      (children : (fields.lookup "children").isSome)
      (tagged : explicitNode (.object fields) = .ok explicit)
      (check : Group.check explicit = .error (.flawed issues)) :
      Reported document (.invalid (.flawed issues))

lemma Group.ofDocument_of_opened {document : Value} {fields : Fields}
    (h : opened document = .ok (.object fields)) :
    Group.ofDocument document = Group.ofDocument (.object fields) := by
  rw [Group.ofDocument_eq_bind, h, Group.ofDocument_of_not_text (by simp)]
  rfl

/-- A document that holds an object and is refused has no children, or a node of it is at fault, or
its explicit form has flaws. -/
lemma Reported.of_opened {document : Value} {fields : Fields} {fault : DocumentFault}
    (read : opened document = .ok (.object fields))
    (h : Group.ofDocument (.object fields) = .error fault) : Reported document fault := by
  by_cases hchildren : (fields.lookup "children").isSome
  · obtain hfails | ⟨explicit, rejection, hexplicit, hcheck, rfl⟩ :=
      (Group.ofDocument_eq_error_iff_of_children hchildren).mp h
    · obtain ⟨path, node, hfirst⟩ := exists_firstFault hfails
      exact .node read hchildren hfirst
    · obtain ⟨-, rfl⟩ :=
        (Checked.eq_error_iff_of_explained (Group.check_explained explicit)).mp hcheck
      exact .explicit read hchildren hexplicit hcheck
  · have hnone : fields.lookup "children" = none := Option.not_isSome_iff_eq_none.mp hchildren
    rw [Group.ofDocument_of_not_text (by simp)] at h
    simp only [Group.ofObject, hnone, Option.isNone_none, if_true] at h
    obtain rfl := Except.error.inj h
    exact .notGroup read hnone

/-- **What is reported.**  A document is refused with what is wrong with it. -/
theorem Group.ofDocument_eq_error_iff {document : Value} {fault : DocumentFault} :
    Group.ofDocument document = .error fault ↔ Reported document fault := by
  constructor
  · intro h
    cases hopened : opened document with
    | error stop =>
      rw [Group.ofDocument_eq_bind, hopened] at h
      obtain rfl := Except.error.inj h
      cases stop with
      | malformed found => exact .unreadable hopened
      | beyond limit => exact .beyond hopened
    | ok root =>
      cases root with
      | object fields =>
        rw [Group.ofDocument_of_opened hopened] at h
        exact .of_opened hopened h
      | _ =>
        rw [Group.ofDocument_eq_bind, hopened] at h
        obtain rfl := Except.error.inj h
        exact .notObject hopened (by simp)
  · intro h
    cases h with
    | unreadable read =>
      rw [Group.ofDocument_eq_bind, read]
      rfl
    | beyond read =>
      rw [Group.ofDocument_eq_bind, read]
      rfl
    | @notObject root read other =>
      rw [Group.ofDocument_eq_bind, read]
      cases root with
      | object fields => exact absurd rfl (other fields)
      | _ => rfl
    | notGroup read childless =>
      rw [Group.ofDocument_eq_bind, read]
      simp [Except.mapError, Except.bind, Group.ofObject, childless]
    | node read children first =>
      rw [Group.ofDocument_of_opened read]
      exact first.ofDocument_eq children
    | explicit read children tagged check =>
      rw [Group.ofDocument_of_opened read, Group.ofDocument_eq_error_iff_of_children children]
      exact .inr ⟨_, _, tagged, check, rfl⟩

/-! ## Kinds of error -/

/-- The first fault of the document is that the operator of a group is a list or an object. -/
def StopsAtOperator (document : Value) : Prop :=
  ∃ root path node kind, opened document = .ok root ∧
    FirstFault root path node (.operatorNotWord kind)

/-- The document is a text that cannot be read within the limits of the reader. -/
def BeyondLimits (document : Value) : Prop :=
  ∃ limit, opened document = .error (.beyond limit)

/-- The document is compiled to the text of a filter: of the one that it is read as, or of the one
that it is already, which is no document to read. -/
def Accepted (document : Value) : Prop :=
  ∃ g : Group, compile document = .ok g.text ∧
    (Group.ofDocument document = .ok g ∨
      document = .part (.node g.node) ∧ Group.ofDocument document = .error .rootNotObject)

/-- The document is refused with an error of that kind, whether it is read or compiled. -/
def RefusedAs (document : Value) (kind : ErrorKind) : Prop :=
  ∃ fault, Group.ofDocument document = .error fault ∧ compile document = .error fault ∧
    fault.errorKind = kind

lemma stopsAtOperator_iff {document : Value} :
    StopsAtOperator document ↔
      ∃ kind, Group.ofDocument document = .error (.operatorNotWord kind) := by
  simp only [Group.ofDocument_eq_error_iff]
  constructor
  · rintro ⟨root, path, node, kind, hopened, hfirst⟩
    obtain ⟨fields, rfl, hchildren⟩ := hfirst.isGroup
    exact ⟨kind, .node hopened hchildren hfirst⟩
  · rintro ⟨kind, hreported⟩
    cases hreported with
    | node read _ first => exact ⟨_, _, _, kind, read, first⟩

lemma Group.ofDocument_ne_outOfCalendar (document : Value) :
    Group.ofDocument document ≠ .error (.invalid .outOfCalendar) := by
  rw [ne_eq, Group.ofDocument_eq_error_iff]
  intro hreported
  cases hreported with
  | node _ _ first => cases first.faulty

lemma compile_cases (document : Value) :
    (∃ g : Group, document = .part (.node g.node)) ∨
      compile document = (Group.ofDocument document).map Group.text := by
  cases document with
  | part built =>
    rcases built with values | (leaf | ⟨combinator, children⟩)
    · exact .inr rfl
    · exact .inr rfl
    · exact .inl ⟨⟨combinator, children⟩, rfl⟩
  | _ => exact .inr rfl

/-- There is no third outcome besides accepting a document and refusing it. -/
lemma accepted_or_refusedAs (document : Value) :
    Accepted document ∨ ∃ fault, Group.ofDocument document = .error fault ∧
      RefusedAs document fault.errorKind := by
  obtain ⟨g, rfl⟩ | hcompile := compile_cases document
  · exact .inl ⟨g, rfl, .inr ⟨rfl, rfl⟩⟩
  · cases hresult : Group.ofDocument document with
    | ok g => exact .inl ⟨g, by rw [hcompile, hresult]; rfl, .inl hresult⟩
    | error fault => exact .inr ⟨fault, rfl, fault, hresult, by rw [hcompile, hresult]; rfl, rfl⟩

lemma RefusedAs.unique {document : Value} {kind kind' : ErrorKind} (h : RefusedAs document kind)
    (h' : RefusedAs document kind') : kind = kind' := by
  obtain ⟨fault, hfails, -, rfl⟩ := h
  obtain ⟨fault', hfails', -, rfl⟩ := h'
  rw [Except.error.inj (hfails.symm.trans hfails')]

lemma RefusedAs.not_accepted {document : Value} {kind : ErrorKind} (h : RefusedAs document kind) :
    ¬ Accepted document := by
  obtain ⟨fault, -, hcompiles, -⟩ := h
  rintro ⟨g, hreturns, -⟩
  cases hcompiles.symm.trans hreturns

/-- Whether a document is refused with an error of another kind than the common one depends on what
is reported when it is read. -/
lemma refusedAs_iff_of_ne_compilation {document : Value} {kind : ErrorKind}
    (h : kind ≠ .compilation) :
    RefusedAs document kind ↔
      ∃ fault, Group.ofDocument document = .error fault ∧ fault.errorKind = kind := by
  constructor
  · rintro ⟨fault, hfails, -, hkind⟩
    exact ⟨fault, hfails, hkind⟩
  · rintro ⟨fault, hfails, rfl⟩
    obtain ⟨g, -, hreads | ⟨-, hbuilt⟩⟩ | ⟨fault', hfails', hrefused⟩ :=
      accepted_or_refusedAs document
    · cases hfails.symm.trans hreads
    · obtain rfl := Except.error.inj (hfails.symm.trans hbuilt)
      exact absurd rfl h
    · obtain rfl := Except.error.inj (hfails.symm.trans hfails')
      exact hrefused

lemma refusedAs_unhashable_iff {document : Value} :
    RefusedAs document .unhashable ↔ StopsAtOperator document := by
  rw [stopsAtOperator_iff, refusedAs_iff_of_ne_compilation (by decide)]
  constructor
  · rintro ⟨fault, hfails, hkind⟩
    cases fault with
    | operatorNotWord kind => exact ⟨kind, hfails⟩
    | invalid rejection => cases rejection <;> cases hkind
    | _ => cases hkind
  · rintro ⟨kind, hfails⟩
    exact ⟨_, hfails, rfl⟩

lemma refusedAs_limit_iff {document : Value} :
    RefusedAs document .limit ↔ BeyondLimits document := by
  rw [refusedAs_iff_of_ne_compilation (by decide)]
  simp only [Group.ofDocument_eq_error_iff]
  constructor
  · rintro ⟨fault, hreported, hkind⟩
    cases hreported with
    | beyond read => exact ⟨_, read⟩
    | node _ _ first => cases first.faulty <;> cases hkind
    | _ => cases hkind
  · rintro ⟨limit, hopened⟩
    exact ⟨_, .beyond hopened, rfl⟩

lemma not_refusedAs_overflow (document : Value) : ¬ RefusedAs document .overflow := by
  rintro ⟨fault, hfails, -, hkind⟩
  cases fault with
  | invalid rejection =>
    cases rejection with
    | flawed issues => cases hkind
    | outOfCalendar => exact Group.ofDocument_ne_outOfCalendar document hfails
  | _ => cases hkind

/-- **The kinds of error.**  Every value and every text is accepted, or refused with an error that
speaks of it, unless its first fault is an operator that is a list or an object, or it is a text
beyond the limits of the reader.  Then, and only then, the error is that of the look-up or of the
reader. -/
theorem Group.ofDocument_error_kind (document : Value) :
    (¬ StopsAtOperator document ∧ ¬ BeyondLimits document ↔
      Accepted document ∨ RefusedAs document .compilation) ∧
      (StopsAtOperator document ↔ RefusedAs document .unhashable) ∧
      (BeyondLimits document ↔ RefusedAs document .limit) := by
  refine ⟨⟨fun ⟨hstops, hlimits⟩ => ?_, fun h => ⟨fun hstops => ?_, fun hlimits => ?_⟩⟩,
    refusedAs_unhashable_iff.symm, refusedAs_limit_iff.symm⟩
  · obtain haccepted | ⟨fault, -, hrefused⟩ := accepted_or_refusedAs document
    · exact .inl haccepted
    · cases hkind : fault.errorKind with
      | compilation => exact .inr (hkind ▸ hrefused)
      | unhashable => exact absurd (refusedAs_unhashable_iff.mp (hkind ▸ hrefused)) hstops
      | limit => exact absurd (refusedAs_limit_iff.mp (hkind ▸ hrefused)) hlimits
      | overflow => exact absurd (hkind ▸ hrefused) (not_refusedAs_overflow document)
  · have hrefused : RefusedAs document .unhashable := refusedAs_unhashable_iff.mpr hstops
    obtain haccepted | hcompilation := h
    · exact hrefused.not_accepted haccepted
    · cases hrefused.unique hcompilation
  · have hrefused : RefusedAs document .limit := refusedAs_limit_iff.mpr hlimits
    obtain haccepted | hcompilation := h
    · exact hrefused.not_accepted haccepted
    · cases hrefused.unique hcompilation

end Room

/-- A list in the place of an operator, in a document that is in order otherwise. -/
theorem Group.ofDocument_error_kind_list :
    let _room : Json.Room := ⟨900⟩
    let document : Value := .object [("operator", .list []), ("children", .list
      [.object [("property", .text "event:page"), ("value", .text "/")]])]
    ¬ (Accepted document ∨ RefusedAs document .compilation) ∧
      compile document = .error (.operatorNotWord "list") := by
  intro _room document
  have hfails : compile document = .error (.operatorNotWord "list") := by
    show (Group.ofDocument document).map Group.text = _
    rfl
  have hrefused : RefusedAs document .unhashable := ⟨_, rfl, hfails, rfl⟩
  refine ⟨?_, hfails⟩
  rintro (haccepted | hcompilation)
  · exact hrefused.not_accepted haccepted
  · cases hrefused.unique hcompilation

end SiteStats.Filter
