import Mathlib.Algebra.GroupWithZero.Nat
import SiteStats.Proofs.Text.Joined

/-!
# Parentheses in texts

A text is `Balanced` when every parenthesis that closes one was opened before and none stays open.
That is a statement about counts, and it does not say where the separators of the text are.
`Nested P` does: it builds the same texts from single characters and from texts in parentheses, and
asks `P` of the characters outside of all parentheses only.  Both what is balanced and what is split
follow from it by induction.

`partsOutside` splits a text at the separators outside of all parentheses.  Texts that are nested
and have no separator outside come back from it when they are joined (`partsOutside_intercalate`).
The lemma that carries this, `Nested.splitOutside_append`, is about any number of open parentheses:
inside of them a separator is a character like any other.
-/

namespace SiteStats.Text

/-! ## Texts that are balanced -/

/-- Parentheses are closed as often as they are opened, and at no place more often so far. -/
structure Balanced (s : List Point) : Prop where
  closed : s.count (.char ')') = s.count (.char '(')
  opened : ∀ before, before <+: s → before.count (.char ')') ≤ before.count (.char '(')

/-- Texts in which parentheses stand in pairs, and in which all that is outside of them satisfies
`P`. -/
inductive Nested : (Point → Prop) → List Point → Prop
  | nil {P : Point → Prop} : Nested P []
  | plain {P : Point → Prop} {c : Point} {rest : List Point} (outside : P c)
      (notOpen : c ≠ .char '(') (notClose : c ≠ .char ')') (tail : Nested P rest) :
      Nested P (c :: rest)
  | parens {P : Point → Prop} {inner rest : List Point} (inside : Nested (fun _ => True) inner)
      (tail : Nested P rest) : Nested P (.char '(' :: (inner ++ .char ')' :: rest))

namespace Nested

variable {P Q : Point → Prop} {s t : List Point}

lemma append (hs : Nested P s) (ht : Nested P t) : Nested P (s ++ t) := by
  induction hs with
  | nil => exact ht
  | plain outside notOpen notClose _ ih => exact .plain outside notOpen notClose (ih ht)
  | @parens P inner rest inside _ _ ih =>
    have hwhole : Nested P (.char '(' :: (inner ++ .char ')' :: (rest ++ t))) :=
      .parens inside (ih ht)
    simpa using hwhole

lemma mono (hPQ : ∀ c, P c → Q c) (hs : Nested P s) : Nested Q s := by
  induction hs with
  | nil => exact .nil
  | plain outside notOpen notClose _ ih => exact .plain (hPQ _ outside) notOpen notClose (ih hPQ)
  | parens inside _ _ ih => exact .parens inside (ih hPQ)

lemma of_clear (hopen : .char '(' ∉ s) (hclose : .char ')' ∉ s) (hP : ∀ c ∈ s, P c) :
    Nested P s := by
  induction s with
  | nil => exact .nil
  | cons c s ih =>
    rw [List.mem_cons, not_or] at hopen hclose
    rw [List.forall_mem_cons] at hP
    exact .plain hP.1 (Ne.symm hopen.1) (Ne.symm hclose.1) (ih hopen.2 hclose.2 hP.2)

/-- A nested text can be put in parentheses, and then nothing of it is outside. -/
lemma wrapped (hs : Nested Q s) : Nested P (.char '(' :: (s ++ [.char ')'])) :=
  .parens (hs.mono fun _ _ => trivial) .nil

lemma intercalate {separator : List Point} {parts : List (List Point)}
    (hseparator : Nested P separator) (hparts : ∀ part ∈ parts, Nested P part) :
    Nested P (separator.intercalate parts) := by
  induction parts with
  | nil => exact .nil
  | cons part rest ih =>
    rw [List.forall_mem_cons] at hparts
    obtain ⟨hpart, hrest⟩ := hparts
    cases rest with
    | nil => simpa using hpart
    | cons next rest =>
      rw [List.intercalate_cons_cons]
      exact (hpart.append hseparator).append (ih hrest)

lemma count_open_pair (inner rest : List Point) :
    (.char '(' :: (inner ++ .char ')' :: rest)).count (.char '(') =
      inner.count (.char '(') + rest.count (.char '(') + 1 := by
  have hne : (.char ')' : Point) ≠ .char '(' := by decide
  rw [List.count_cons_self, List.count_append, List.count_cons_of_ne hne]

lemma count_close_pair (inner rest : List Point) :
    (.char '(' :: (inner ++ .char ')' :: rest)).count (.char ')') =
      inner.count (.char ')') + rest.count (.char ')') + 1 := by
  have hne : (.char '(' : Point) ≠ .char ')' := by decide
  rw [List.count_cons_of_ne hne, List.count_append, List.count_cons_self, Nat.add_assoc]

lemma count_eq (hs : Nested P s) : s.count (.char ')') = s.count (.char '(') := by
  induction hs with
  | nil => rfl
  | plain _ notOpen notClose _ ih =>
    rw [List.count_cons_of_ne notClose, List.count_cons_of_ne notOpen, ih]
  | parens _ _ ihinner ihrest =>
    rw [count_open_pair, count_close_pair, ihinner, ihrest]

lemma count_take_le (hs : Nested P s) (n : Nat) :
    (s.take n).count (.char ')') ≤ (s.take n).count (.char '(') := by
  induction hs generalizing n with
  | nil => simp
  | plain _ notOpen notClose _ ih =>
    cases n with
    | zero => simp
    | succ n =>
      rw [List.take_succ_cons, List.count_cons_of_ne notClose, List.count_cons_of_ne notOpen]
      exact ih n
  | @parens _ inner rest inside _ ihinner ihrest =>
    cases n with
    | zero => simp
    | succ n =>
      -- the place is inside the pair, or behind it where the pair is counted in full
      rw [List.take_succ_cons, List.take_append]
      cases hbehind : n - inner.length with
      | zero =>
        have hne : (.char '(' : Point) ≠ .char ')' := by decide
        have hinner := ihinner n
        rw [List.take_zero, List.append_nil, List.count_cons_of_ne hne, List.count_cons_self]
        omega
      | succ m =>
        have hall : inner.take n = inner := List.take_of_length_le (by omega)
        have hpaired := inside.count_eq
        have hrest := ihrest m
        rw [hall, List.take_succ_cons, count_open_pair, count_close_pair]
        omega

lemma balanced (hs : Nested P s) : Balanced s where
  closed := hs.count_eq
  opened before hbefore := by
    rw [List.prefix_iff_eq_take.mp hbefore]
    exact hs.count_take_le before.length

end Nested

/-! ## Splitting outside of parentheses -/

/-- How many parentheses are open after one more character. -/
def depthAfter (depth : Nat) (c : Point) : Nat :=
  if c = .char '(' then depth + 1 else if c = .char ')' then depth - 1 else depth

/-- The parts of a text between the separators at which no parenthesis is open, if `depth` are open
where the text begins. -/
def splitOutside (separator : Point) : Nat → List Point → List (List Point)
  | _, [] => [[]]
  | depth, c :: rest =>
    if c = separator ∧ depth = 0 then [] :: splitOutside separator depth rest
    else (splitOutside separator (depthAfter depth c) rest).modifyHead (c :: ·)

/-- The parts of a text between the separators outside of all parentheses. -/
def partsOutside (separator : Point) (s : Text) : List Text :=
  (splitOutside separator 0 s.toList).map Text.mk

section Split

variable {separator : Point} {P : Point → Prop} {s : List Point}

lemma splitOutside_cons {depth : Nat} {c : Point} (h : ¬ (c = separator ∧ depth = 0))
    (rest : List Point) : splitOutside separator depth (c :: rest) =
      (splitOutside separator (depthAfter depth c) rest).modifyHead (c :: ·) := by
  rw [splitOutside, if_neg h]

/-- A nested text stays in one part, if no separator is in it outside of all parentheses. -/
lemma Nested.splitOutside_append (hopen : separator ≠ .char '(') (hclose : separator ≠ .char ')')
    (hs : Nested P s) {depth : Nat} (hclear : depth = 0 → ∀ c, P c → c ≠ separator)
    (rest : List Point) : splitOutside separator depth (s ++ rest) =
      (splitOutside separator depth rest).modifyHead (s ++ ·) := by
  induction hs generalizing depth rest with
  | nil =>
    show splitOutside separator depth rest = (splitOutside separator depth rest).modifyHead id
    rw [List.modifyHead_id, id]
  | @plain P c s outside notOpen notClose _ ih =>
    have hnot : ¬ (c = separator ∧ depth = 0) := fun h => hclear h.2 c outside h.1
    have hdepth : depthAfter depth c = depth := by rw [depthAfter, if_neg notOpen, if_neg notClose]
    rw [List.cons_append, splitOutside_cons hnot, hdepth, ih hclear, List.modifyHead_modifyHead]
    rfl
  | @parens P inner s inside _ ihinner ihrest =>
    have hfirst : ¬ (.char '(' = separator ∧ depth = 0) := fun h => hopen h.1.symm
    have hlast : ¬ (.char ')' = separator ∧ depth + 1 = 0) := fun h => hclose h.1.symm
    have hshape : .char '(' :: (inner ++ .char ')' :: s) ++ rest =
        .char '(' :: (inner ++ .char ')' :: (s ++ rest)) := by simp
    have hback : depthAfter (depth + 1) (.char ')') = depth := rfl
    rw [hshape, splitOutside_cons hfirst]
    show (splitOutside separator (depth + 1) (inner ++ .char ')' :: (s ++ rest))).modifyHead _ = _
    rw [ihinner (fun h => absurd h (Nat.succ_ne_zero depth)), splitOutside_cons hlast, hback,
      ihrest hclear, List.modifyHead_modifyHead, List.modifyHead_modifyHead,
      List.modifyHead_modifyHead]
    congr 1
    funext part
    simp

/-- Joined texts are split into what was joined. -/
lemma splitOutside_intercalate (hopen : separator ≠ .char '(') (hclose : separator ≠ .char ')')
    {parts : List (List Point)} (hne : parts ≠ [])
    (hparts : ∀ part ∈ parts, Nested (· ≠ separator) part) :
    splitOutside separator 0 ([separator].intercalate parts) = parts := by
  induction parts with
  | nil => exact absurd rfl hne
  | cons part rest ih =>
    rw [List.forall_mem_cons] at hparts
    obtain ⟨hpart, hrest⟩ := hparts
    have hsplit : ∀ rest, splitOutside separator 0 (part ++ rest) =
        (splitOutside separator 0 rest).modifyHead (part ++ ·) :=
      hpart.splitOutside_append hopen hclose fun _ _ hc => hc
    cases rest with
    | nil =>
      have hend := hsplit []
      rw [List.append_nil] at hend
      rw [List.intercalate_singleton, hend]
      simp [splitOutside]
    | cons next rest =>
      have hmore := ih (List.cons_ne_nil next rest) hrest
      rw [List.intercalate_cons_cons, List.append_assoc, hsplit, List.singleton_append,
        splitOutside, if_pos ⟨rfl, rfl⟩, hmore]
      simp

theorem partsOutside_intercalate (hopen : separator ≠ .char '(') (hclose : separator ≠ .char ')')
    {sign : Text} (hsign : sign.toList = [separator]) {parts : List Text} (hne : parts ≠ [])
    (hparts : ∀ part ∈ parts, Nested (· ≠ separator) part.toList) :
    partsOutside separator (sign.intercalate parts) = parts := by
  have hlists : ∀ part ∈ parts.map toList, Nested (· ≠ separator) part := by
    simpa using hparts
  have hfilled : parts.map toList ≠ [] := by simpa using hne
  rw [partsOutside, toList_intercalate, hsign,
    splitOutside_intercalate hopen hclose hfilled hlists, List.map_map]
  simp [Function.comp_def]

end Split

/-! ## Counting -/

lemma count_intercalate {separator : List Point} {a : Point} (ha : a ∉ separator)
    (parts : List (List Point)) :
    (separator.intercalate parts).count a = (parts.map (List.count a)).sum := by
  induction parts with
  | nil => rfl
  | cons part rest ih =>
    cases rest with
    | nil => simp
    | cons next rest =>
      have hnone : separator.count a = 0 := List.count_eq_zero.mpr ha
      rw [List.intercalate_cons_cons, List.count_append, List.count_append, hnone, ih]
      simp

end SiteStats.Text
