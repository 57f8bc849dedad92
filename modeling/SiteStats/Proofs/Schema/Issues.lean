import SiteStats.Proofs.Common
import SiteStats.Schema.Scalar

/-!
# What a check finds

A check that accepts nothing says why, with one exception: a moment outside the calendar ends it
without a word about the rest.  Where that cannot happen a check is `Explained`, and then it is
known by its result and its issues alone (`Checked.eq_error_iff_of_explained`).  The issues of parts
side by side are those of the one part followed by those of the other, whatever becomes of the whole
(`Checked.issues_combine`); this fails without explanations, since a part outside the calendar takes
the issues of the other part away.
-/

namespace SiteStats.Schema

namespace Checked

variable {α β γ : Type} {checked : Checked α} {f : α → β}

/-- The issues of what is not accepted. -/
def issues : Checked α → List Issue
  | .error (.flawed issues) => issues
  | _ => []

/-- What is not accepted has issues. -/
def Explained (checked : Checked α) : Prop :=
  checked.issues = [] → ∃ a, checked = .ok a

lemma explained_ok (a : α) : Explained (.ok a : Checked α) :=
  fun _ => ⟨a, rfl⟩

lemma explained_flaw (reason : Flaw) : Explained (flaw reason : Checked α) :=
  fun h => nomatch h

@[simp] lemma issues_map : (checked.map f).issues = checked.issues := by
  rcases checked with (_ | _) | a <;> rfl

@[simp] lemma issues_under (step : Step) :
    (checked.under step).issues = checked.issues.map (Issue.under step) := by
  rcases checked with (_ | _) | a <;> rfl

/-- What an explained check rejects, it rejects for its issues. -/
lemma eq_error_iff_of_explained (h : checked.Explained) {rejection : Rejection} :
    checked = .error rejection ↔ checked.issues ≠ [] ∧ rejection = .flawed checked.issues := by
  rcases checked with (found | _) | a
  · have hne : found ≠ [] := by
      rintro rfl
      obtain ⟨a, ha⟩ := h rfl
      cases ha
    simp [issues, hne, eq_comm]
  · obtain ⟨a, ha⟩ := h rfl
    cases ha
  · simp [issues]

/-- A rejection is explained or not whatever was expected instead of it. -/
lemma Explained.recast {rejection : Rejection} (h : Explained (.error rejection : Checked α)) :
    Explained (.error rejection : Checked β) := by
  intro hnone
  have hnone' : issues (.error rejection : Checked α) = [] := by
    cases rejection with
    | flawed found => exact hnone
    | outOfCalendar => rfl
  obtain ⟨a, ha⟩ := h hnone'
  cases ha

lemma Explained.map (h : checked.Explained) : (checked.map f).Explained := by
  intro hnone
  rw [issues_map] at hnone
  obtain ⟨a, rfl⟩ := h hnone
  exact ⟨f a, rfl⟩

lemma Explained.under (h : checked.Explained) (step : Step) : (checked.under step).Explained := by
  intro hnone
  rw [issues_under, List.map_eq_nil_iff] at hnone
  obtain ⟨a, rfl⟩ := h hnone
  exact ⟨a, rfl⟩

lemma Explained.nullable {check : Value → Checked α} {value : Value} (h : (check value).Explained) :
    (nullable check value).Explained := by
  cases value with
  | null => exact explained_ok none
  | bool _ | int _ | float _ | text _ | list _ | object _ | day _ | moment _ | part _ =>
    exact Explained.map (f := some) h

lemma issues_both {a : Checked α} {b : Checked β} (ha : a.Explained) (hb : b.Explained) :
    (a.both b).issues = a.issues ++ b.issues := by
  rcases a with (_ | _) | a
  · rcases b with (_ | _) | b
    · rfl
    · obtain ⟨_, h⟩ := hb rfl
      cases h
    · exact (List.append_nil _).symm
  · obtain ⟨_, h⟩ := ha rfl
    cases h
  · rcases b with (_ | _) | b <;> rfl

lemma issues_combine {a : Checked α} {b : Checked β} (ha : a.Explained) (hb : b.Explained)
    (f : α → β → γ) : (a.combine f b).issues = a.issues ++ b.issues := by
  rw [combine, issues_map, issues_both ha hb]

lemma Explained.both {a : Checked α} {b : Checked β} (ha : a.Explained) (hb : b.Explained) :
    (a.both b).Explained := by
  intro hnone
  rw [issues_both ha hb, List.append_eq_nil_iff] at hnone
  obtain ⟨x, rfl⟩ := ha hnone.1
  obtain ⟨y, rfl⟩ := hb hnone.2
  exact ⟨(x, y), rfl⟩

lemma Explained.combine {a : Checked α} {b : Checked β} (ha : a.Explained) (hb : b.Explained)
    (f : α → β → γ) : (a.combine f b).Explained :=
  (ha.both hb).map

lemma Explained.obeying (h : checked.Explained) (rule : Rule) (holds : α → Bool) :
    (checked.obeying rule holds).Explained := by
  cases checked with
  | ok a =>
    by_cases hholds : holds a = true
    · simpa [Checked.obeying, Except.bind, hholds] using explained_ok a
    · simpa [Checked.obeying, Except.bind, hholds] using explained_flaw _
  | error rejection => exact fun hnone => absurd (h hnone) (by simp)

section Fields

variable {check : Value → Checked α} {name : String} {fields : Fields}

lemma Explained.required (h : ∀ value, fields.lookup name = some value → (check value).Explained) :
    (required name check fields).Explained := by
  unfold Checked.required
  cases hfield : fields.lookup name with
  | none => exact (explained_flaw _).under _
  | some value => exact (h value hfield).under _

lemma Explained.defaulted (h : ∀ value, (check value).Explained) (default : α) :
    (defaulted name default check fields).Explained := by
  unfold Checked.defaulted
  cases fields.lookup name with
  | none => exact explained_ok default
  | some value => exact (h value).under _

end Fields

lemma Explained.each {check : Value → Checked α} {items : List Value}
    (h : ∀ item ∈ items, (check item).Explained) (position : Nat) :
    (each check position items).Explained := by
  induction items generalizing position with
  | nil => exact explained_ok []
  | cons item rest ih =>
    obtain ⟨hitem, hrest⟩ := List.forall_mem_cons.mp h
    exact (hitem.under _).combine (ih hrest _) _

end Checked

/-! ## Single values -/

lemma text_explained (value : Value) : (text value).Explained := by
  cases value with
  | text s => exact Checked.explained_ok s
  | _ => exact Checked.explained_flaw _

lemma whole_explained {α : Type} (t : Text) {read : String → Checked α}
    (h : ∀ s, (read s).Explained) : (whole t read).Explained := by
  rw [whole]
  cases t.string? with
  | none => exact Checked.explained_flaw _
  | some s => exact h s

lemma member_explained (α : Type) [Vocabulary α] (value : Value) : (member α value).Explained := by
  cases value with
  | text t =>
    refine whole_explained t fun word => ?_
    cases Vocabulary.ofText? (α := α) word with
    | none => exact Checked.explained_flaw _
    | some found => exact Checked.explained_ok found
  | _ => exact Checked.explained_flaw _

lemma tag_explained (word : String) (value : Value) : (tag word value).Explained := by
  cases value with
  | text t =>
    refine whole_explained t fun s => ?_
    split
    · exact Checked.explained_ok ()
    · exact Checked.explained_flaw _
  | _ => exact Checked.explained_flaw _

lemma double_explained (value : Value) : (double value).Explained := by
  cases value with
  | float x => exact Checked.explained_ok x
  | bool b => exact Checked.explained_ok _
  | int n =>
    rw [double]
    cases Binary64.ofInt? n with
    | none => exact Checked.explained_flaw _
    | some x => exact Checked.explained_ok x
  | text t =>
    refine whole_explained t fun s => ?_
    cases doubleOfText? s.toList with
    | none => exact Checked.explained_flaw _
    | some x => exact Checked.explained_ok x
  | null | list _ | object _ | day _ | moment _ | part _ => exact Checked.explained_flaw _

end SiteStats.Schema
