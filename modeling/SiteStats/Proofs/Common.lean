import Mathlib.Data.List.Forall2
import Mathlib.Data.List.Induction
import Mathlib.Tactic.Common

/-!
# Results and lists

What later arguments need of the two types that nearly all reading goes through.  A step that may
fail is taken apart from its end: the `_eq_ok_iff` lemmas say what must have gone before if the
result is right, and nothing about what happens otherwise.  Lists are read item by item, and the
lemmas on them are for inductions on what is read, where the claim is known for the members of the
second list only.
-/

namespace Except

variable {ε ε' α β : Type}

lemma map_eq_ok_iff {f : α → β} {result : Except ε α} {b : β} :
    result.map f = .ok b ↔ ∃ a, result = .ok a ∧ f a = b := by
  cases result <;> simp [Except.map]

lemma mapError_eq_ok_iff {f : ε → ε'} {result : Except ε α} {a : α} :
    result.mapError f = .ok a ↔ result = .ok a := by
  cases result <;> simp [Except.mapError]

lemma bind_eq_ok_iff {f : α → Except ε β} {result : Except ε α} {b : β} :
    result.bind f = .ok b ↔ ∃ a, result = .ok a ∧ f a = .ok b := by
  cases result <;> simp [Except.bind]

lemma ok_bind (a : α) (f : α → Except ε β) : (.ok a >>= f) = f a :=
  rfl

lemma error_bind (fault : ε) (f : α → Except ε β) : (.error fault >>= f) = .error fault :=
  rfl

lemma throw_eq (fault : ε) : (throw fault : Except ε α) = .error fault :=
  rfl

lemma pure_eq (a : α) : (pure a : Except ε α) = .ok a :=
  rfl

end Except

lemma List.Forall₂.imp_of_mem {α β : Type} {R S : α → β → Prop} {as : List α} {bs : List β}
    (h : List.Forall₂ R as bs) (himp : ∀ b ∈ bs, ∀ a, R a b → S a b) : List.Forall₂ S as bs := by
  induction h with
  | nil => exact .nil
  | @cons a b as bs hfirst _ ih =>
    refine .cons (himp b List.mem_cons_self a hfirst) (ih fun b' hb' => ?_)
    exact himp b' (List.mem_cons_of_mem b hb')

lemma List.Forall₂.exists_of_mem {α β : Type} {R : α → β → Prop} {as : List α} {bs : List β}
    (h : List.Forall₂ R as bs) {b : β} (hb : b ∈ bs) : ∃ a ∈ as, R a b := by
  induction h with
  | nil => simp at hb
  | @cons a first as bs hfirst _ ih =>
    obtain rfl | hrest := List.mem_cons.mp hb
    · exact ⟨a, List.mem_cons_self, hfirst⟩
    · obtain ⟨a', ha', hR⟩ := ih hrest
      exact ⟨a', List.mem_cons_of_mem a ha', hR⟩

lemma List.Forall₂.congr_of_mem {α β : Type} {R : α → α → Prop} {S : α → β → Prop}
    {as as' : List α} (h : List.Forall₂ R as as') {bs : List β}
    (hcongr : ∀ b ∈ bs, ∀ a a', R a a' → (S a b ↔ S a' b)) :
    List.Forall₂ S as bs ↔ List.Forall₂ S as' bs := by
  induction h generalizing bs with
  | nil => rfl
  | @cons a a' as as' hfirst _ ih =>
    cases bs with
    | nil => simp
    | cons b bs =>
      have hrest := ih fun b' hb' => hcongr b' (List.mem_cons_of_mem b hb')
      rw [List.forall₂_cons, List.forall₂_cons, hcongr b List.mem_cons_self a a' hfirst, hrest]

/-- Where one relation amounts for related items to a condition on the first of them, it holds item
by item when the condition holds of each item of the first list. -/
lemma List.Forall₂.iff_forall {α β : Type} {R S : α → β → Prop} {P : α → Prop} {as : List α}
    {bs : List β} (h : List.Forall₂ R as bs)
    (hiff : ∀ a ∈ as, ∀ b ∈ bs, R a b → (S a b ↔ P a)) :
    List.Forall₂ S as bs ↔ ∀ a ∈ as, P a := by
  induction h with
  | nil => simp
  | @cons a b as bs hfirst _ ih =>
    have hrest := ih fun a' ha' b' hb' =>
      hiff a' (List.mem_cons_of_mem a ha') b' (List.mem_cons_of_mem b hb')
    rw [List.forall₂_cons, List.forall_mem_cons, hrest,
      hiff a List.mem_cons_self b List.mem_cons_self hfirst]

lemma List.eraseDups_of_nodup {α : Type} [BEq α] [LawfulBEq α] {items : List α}
    (h : items.Nodup) : items.eraseDups = items := by
  induction items with
  | nil => rfl
  | cons item items ih =>
    obtain ⟨hitem, hitems⟩ := List.nodup_cons.mp h
    have hfilter : items.filter (fun other => !other == item) = items := by
      refine List.filter_eq_self.mpr fun other hother => ?_
      have hne : other ≠ item := fun heq => hitem (heq ▸ hother)
      simp [hne]
    rw [List.eraseDups_cons, hfilter, ih hitems]

section Distinct

variable {α β : Type} [BEq α] [LawfulBEq α]

lemma List.eraseDups_concat_of_mem {items : List α} {a : α} (h : a ∈ items) :
    (items ++ [a]).eraseDups = items.eraseDups := by
  have hnone : [a].removeAll items = [] := by simp [List.removeAll, h]
  rw [List.eraseDups_append, hnone, List.eraseDups_nil, List.append_nil]

lemma List.eraseDups_concat_of_notMem {items : List α} {a : α} (h : a ∉ items) :
    (items ++ [a]).eraseDups = items.eraseDups ++ [a] := by
  have hall : [a].removeAll items = [a] := by simp [List.removeAll, h]
  rw [List.eraseDups_append, hall, List.eraseDups_cons, List.filter_nil, List.eraseDups_nil]

/-- What is left comes in the order in which it came first. -/
lemma List.pairwise_idxOf_eraseDups (items : List α) :
    items.eraseDups.Pairwise fun a b => items.idxOf a < items.idxOf b := by
  induction items using List.reverseRecOn with
  | nil => simp
  | append_singleton items item ih =>
    have hkept : items.eraseDups.Pairwise fun a b =>
        (items ++ [item]).idxOf a < (items ++ [item]).idxOf b := by
      refine List.Pairwise.imp_of_mem (fun ha hb hlt => ?_) ih
      rw [List.mem_eraseDups] at ha hb
      rwa [List.idxOf_append_of_mem ha, List.idxOf_append_of_mem hb]
    by_cases hitem : item ∈ items
    · rw [List.eraseDups_concat_of_mem hitem]
      exact hkept
    · rw [List.eraseDups_concat_of_notMem hitem, List.pairwise_append]
      refine ⟨hkept, List.pairwise_singleton _ _, fun a ha b hb => ?_⟩
      obtain rfl := List.mem_singleton.mp hb
      rw [List.mem_eraseDups] at ha
      rw [List.idxOf_append_of_mem ha, List.idxOf_append_of_notMem hitem]
      have hlt : items.idxOf a < items.length := List.idxOf_lt_length_of_mem ha
      omega

/-- What comes later does not depend on repetitions before it. -/
lemma List.eraseDups_append_congr {items items' : List α} (h : items.eraseDups = items'.eraseDups)
    (later : List α) : (items ++ later).eraseDups = (items' ++ later).eraseDups := by
  have hmem : ∀ a, a ∈ items ↔ a ∈ items' := fun a => by
    rw [← List.mem_eraseDups, h, List.mem_eraseDups]
  have hlater : later.removeAll items = later.removeAll items' := by
    refine List.filter_congr fun a _ => ?_
    simp [hmem a]
  rw [List.eraseDups_append, List.eraseDups_append, h, hlater]

/-- Repetitions in a later part can be left out beforehand. -/
lemma List.eraseDups_append_eraseDups (earlier items : List α) :
    (earlier ++ items.eraseDups).eraseDups = (earlier ++ items).eraseDups := by
  induction items using List.reverseRecOn with
  | nil => simp
  | append_singleton items item ih =>
    rw [← List.append_assoc]
    by_cases hitem : item ∈ items
    · have hwhole : item ∈ earlier ++ items := List.mem_append_right earlier hitem
      rw [List.eraseDups_concat_of_mem hitem, List.eraseDups_concat_of_mem hwhole, ih]
    · rw [List.eraseDups_concat_of_notMem hitem, ← List.append_assoc]
      exact List.eraseDups_append_congr ih [item]

/-- So can the repetitions in each of many parts. -/
lemma List.eraseDups_flatMap_eraseDups (items : List β) (f : β → List α) :
    (items.flatMap fun item => (f item).eraseDups).eraseDups = (items.flatMap f).eraseDups := by
  have hbehind : ∀ earlier : List α,
      (earlier ++ items.flatMap fun item => (f item).eraseDups).eraseDups =
        (earlier ++ items.flatMap f).eraseDups := by
    induction items with
    | nil => intro earlier; rfl
    | cons item rest ih =>
      intro earlier
      rw [List.flatMap_cons, List.flatMap_cons, ← List.append_assoc, ih, ← List.append_assoc]
      exact List.eraseDups_append_congr (List.eraseDups_append_eraseDups earlier (f item)) _
  exact hbehind []

end Distinct

lemma List.exists_forall₂_iff {α β : Type} {R : α → β → Prop} {as : List α} :
    (∃ bs, List.Forall₂ R as bs) ↔ ∀ a ∈ as, ∃ b, R a b := by
  induction as with
  | nil => simp
  | cons a as ih =>
    rw [List.forall_mem_cons, ← ih]
    constructor
    · rintro ⟨_, h⟩
      obtain ⟨b, bs, hfirst, hrest, -⟩ := List.forall₂_cons_left_iff.mp h
      exact ⟨⟨b, hfirst⟩, bs, hrest⟩
    · rintro ⟨⟨b, hfirst⟩, bs, hrest⟩
      exact ⟨b :: bs, .cons hfirst hrest⟩

section InOrder

variable {ε α β : Type} {f : α → Except ε β}

lemma List.mapM_eq_ok_iff {as : List α} {bs : List β} :
    as.mapM f = .ok bs ↔ List.Forall₂ (fun a b => f a = .ok b) as bs := by
  induction as generalizing bs with
  | nil => simp [Except.pure_eq, eq_comm]
  | cons a as ih =>
    rw [List.mapM_cons, List.forall₂_cons_left_iff]
    cases hfirst : f a with
    | error fault => simp [Except.error_bind]
    | ok b =>
      cases hrest : as.mapM f with
      | error fault =>
        have hnone : ∀ bs, ¬ List.Forall₂ (fun a b => f a = .ok b) as bs := by
          intro bs h
          rw [ih.mpr h] at hrest
          cases hrest
        simp [Except.ok_bind, hnone]
      | ok rest =>
        have hsome : ∀ bs, List.Forall₂ (fun a b => f a = .ok b) as bs ↔ rest = bs := by
          intro bs
          rw [← ih, hrest, Except.ok.injEq]
        simp [Except.ok_bind, Except.pure_eq, hsome, eq_comm]

/-- Whether an item comes after others in a list, seen from the front. -/
lemma List.exists_after_cons_iff {P Q : α → Prop} {a : α} {as : List α} :
    (∃ before item after,
        a :: as = before ++ item :: after ∧ (∀ other ∈ before, P other) ∧ Q item) ↔
      Q a ∨ P a ∧ ∃ before item after,
        as = before ++ item :: after ∧ (∀ other ∈ before, P other) ∧ Q item := by
  constructor
  · rintro ⟨before, item, after, hsplit, hbefore, hitem⟩
    cases before with
    | nil =>
      obtain ⟨rfl, -⟩ := List.cons.inj hsplit
      exact .inl hitem
    | cons head before =>
      obtain ⟨rfl, rfl⟩ := List.cons.inj hsplit
      obtain ⟨hhead, hbefore⟩ := List.forall_mem_cons.mp hbefore
      exact .inr ⟨hhead, before, item, after, rfl, hbefore, hitem⟩
  · rintro (ha | ⟨ha, before, item, after, rfl, hbefore, hitem⟩)
    · exact ⟨[], a, as, rfl, by simp, ha⟩
    · exact ⟨a :: before, item, after, rfl, List.forall_mem_cons.mpr ⟨ha, hbefore⟩, hitem⟩

/-- What is done with each item of a list in turn goes wrong as it does for the first item for which
it does. -/
lemma List.mapM_eq_error_iff {as : List α} {fault : ε} :
    as.mapM f = .error fault ↔ ∃ before a after, as = before ++ a :: after ∧
      (∀ other ∈ before, ∃ b, f other = .ok b) ∧ f a = .error fault := by
  induction as with
  | nil => simp [Except.pure_eq]
  | cons a as ih =>
    rw [List.mapM_cons, List.exists_after_cons_iff, ← ih]
    cases hfirst : f a with
    | error other => simp [Except.error_bind]
    | ok b =>
      -- Nothing that comes later can undo a failure, and a right first item leaves it to the
      -- others.
      cases as.mapM f <;> simp [Except.ok_bind, Except.error_bind, Except.pure_eq]

end InOrder
