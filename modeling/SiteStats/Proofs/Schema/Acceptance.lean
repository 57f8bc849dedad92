import SiteStats.Proofs.Common
import SiteStats.Schema.Scalar

/-!
# What checks accept

A check says much about values that it refuses and little about those that it accepts.  The lemmas
below say for each way to put checks together when the result is right and what it then is; no
argument about accepted values has to open the checks themselves.  A list is checked item by item,
which `List.Forall₂` states without positions.
-/

namespace SiteStats

@[simp] lemma Value.isText_iff {word : Text} {value : Value} :
    value.isText word = true ↔ value = .text word := by
  cases value <;> simp [Value.isText]

lemma Fields.set_of_lookup {name : Text} {value : Value} {fields : Fields}
    (h : fields.lookup name = some value) : fields.set name value = fields := by
  induction fields with
  | nil => simp at h
  | cons field rest ih =>
    obtain ⟨first, held⟩ := field
    by_cases hname : first = name
    · subst hname
      simp_all [Fields.set]
    · have hbeq : (name == first) = false := by simpa using Ne.symm hname
      rw [Fields.lookup, List.lookup_cons, hbeq] at h
      simp [Fields.set, hname, ih h]

namespace Schema

open Checked

variable {α β : Type}

@[simp] lemma Checked.flaw_ne_ok {f : Flaw} {a : α} : (flaw f : Checked α) ≠ .ok a := by
  simp [flaw]

@[simp] lemma Checked.both_eq_ok_iff {a : Checked α} {b : Checked β} {x : α} {y : β} :
    a.both b = .ok (x, y) ↔ a = .ok x ∧ b = .ok y := by
  rcases a with e | a <;> rcases b with e' | b
  · cases e <;> cases e' <;> simp [both]
  all_goals simp [both]

lemma Checked.required_eq_ok_iff {name : String} {check : Value → Checked α} {fields : Fields}
    {a : α} :
    required name check fields = .ok a ↔
      ∃ value, fields.lookup name = some value ∧ check value = .ok a := by
  unfold required
  cases fields.lookup name <;> simp

lemma Checked.defaulted_eq_ok_iff {name : String} {default : α} {check : Value → Checked α}
    {fields : Fields} {a : α} :
    defaulted name default check fields = .ok a ↔
      (fields.lookup name = none ∧ default = a) ∨
        ∃ value, fields.lookup name = some value ∧ check value = .ok a := by
  unfold defaulted
  cases fields.lookup name <;> simp

lemma Checked.nullable_eq_ok_iff {check : Value → Checked α} {value : Value} {a : Option α} :
    nullable check value = .ok a ↔
      (value = .null ∧ a = none) ∨ (value ≠ .null ∧ ∃ b, check value = .ok b ∧ a = some b) := by
  cases value <;> simp [nullable, eq_comm (a := a)]

lemma Checked.each_eq_ok_iff {check : Value → Checked α} {position : Nat} {items : List Value}
    {as : List α} :
    each check position items = .ok as ↔
      List.Forall₂ (fun item a => check item = .ok a) items as := by
  induction items generalizing position as with
  | nil => simp [each, eq_comm]
  | cons item rest ih =>
    simp only [each, combine_eq_ok_iff, under_eq_ok_iff, ih, List.forall₂_cons_left_iff]
    constructor
    · rintro ⟨a, as, ha, has, rfl⟩
      exact ⟨a, as, ha, has, rfl⟩
    · rintro ⟨a, as, ha, has, rfl⟩
      exact ⟨a, as, ha, has, rfl⟩

@[simp] lemma tag_eq_ok_iff {word : String} {value : Value} :
    tag word value = .ok () ↔ value = .text word := by
  cases value with
  | text t =>
    have hword : ∀ s : String, (if s = word then .ok () else flaw (.notTag word)) = .ok () ↔
        s = word := by
      intro s
      by_cases h : s = word <;> simp [flaw, h]
    simp [tag, whole_eq_ok_iff, hword]
  | _ => simp [tag]

lemma each_text_eq_ok_iff {position : Nat} {items : List Value} {values : List Text} :
    each text position items = .ok values ↔ items = values.map Value.text := by
  simp only [each_eq_ok_iff, text_eq_ok_iff]
  induction items generalizing values with
  | nil => cases values <;> simp
  | cons item rest ih => cases values <;> simp [ih]

end Schema

end SiteStats
