import SiteStats.Number.Whole
import SiteStats.Schema.Checked
import SiteStats.Vocabulary

/-!
# Checking single values

What a field accepts that holds no other fields. Texts and words have to be given as such. Numbers,
truth values and days are also read from texts and from each other where nothing is lost: a whole
double counts as a whole number, zero and one count as truth values, and so on.
-/

namespace SiteStats.Schema

open Checked (flaw)

/-- A text. -/
def text : Value → Checked Text
  | .text value => .ok value
  | _ => flaw .notText

/-- A text as the string that it is, from which something is read. -/
def whole {α : Type} (t : Text) (read : String → Checked α) : Checked α :=
  match t.string? with
  | some s => read s
  | none => flaw .notUnicode

/-- A text that is not empty, and without halves. -/
def filledText (value : Value) : Checked String :=
  (text value).bind fun t => whole t fun s => if s = "" then flaw .emptyText else .ok s

/-- A word of a vocabulary. -/
def member (α : Type) [Vocabulary α] : Value → Checked α
  | .text t =>
    whole t fun word =>
      match Vocabulary.ofText? word with
      | some found => .ok found
      | none => flaw (.notMember (Vocabulary.words α))
  | _ => flaw (.notMember (Vocabulary.words α))

/-- The one word that a field can hold. -/
def tag (word : String) : Value → Checked Unit
  | .text t => whole t fun s => if s = word then .ok () else flaw (.notTag word)
  | _ => flaw (.notTag word)

/-- The words that stand for a truth value, in lower case. -/
def truthWords : List (String × Bool) :=
  [("1", true), ("t", true), ("true", true), ("y", true), ("yes", true), ("on", true),
    ("0", false), ("f", false), ("false", false), ("n", false), ("no", false), ("off", false)]

/-- The range of the numbers that fit into 64 bits. -/
def fitsWord (n : Int) : Bool :=
  -Instant.wordLimit ≤ n && n < Instant.wordLimit

/-- The range of the whole doubles that are read as numbers of 64 bits, which leaves out the least
one. -/
def fitsWordStrictly (n : Int) : Bool :=
  -Instant.wordLimit < n && n < Instant.wordLimit

/-- A truth value: one of its words in any case, zero or one. Other whole numbers are unreadable,
unless they are too large to be looked at. -/
def boolean : Value → Checked Bool
  | .bool value => .ok value
  | .text t =>
    whole t fun word =>
      match truthWords.lookup (word.map Char.toLower) with
      | some value => .ok value
      | none => flaw .unreadBoolean
  | .int n => if fitsWord n then ofInt n else flaw .notBoolean
  | .float x =>
    match Binary64.toInt? x with
    | some n => if fitsWordStrictly n then ofInt n else flaw .notBoolean
    | none => flaw .notBoolean
  | _ => flaw .notBoolean
where
  /-- Zero is false and one is true. -/
  ofInt (n : Int) : Checked Bool :=
    if n = 0 then .ok false else if n = 1 then .ok true else flaw .unreadBoolean

/-- A whole number. -/
def integer : Value → Checked Int
  | .int n => .ok n
  | .bool value => .ok (if value then 1 else 0)
  | .float x =>
    match Binary64.ratio? x, Binary64.toInt? x with
    | none, _ => flaw .notFinite
    | _, none => flaw .fractional
    | _, some n => if fitsWordStrictly n then .ok n else flaw .oversized
  | .text t =>
    whole t fun s =>
      match Numeral.whole s.toList with
      | .ok n => .ok n
      | .error .oversized => flaw .oversized
      | .error .unread => flaw .unreadInteger
  | _ => flaw .notInteger

/-- A whole number from one on. -/
def positiveInteger (value : Value) : Checked Int :=
  (integer value).bind fun n => if n < 1 then flaw .belowOne else .ok n

/-- The double that a text stands for: a numeral with blanks around it, or one that is left when
single underscores are taken out, wherever they stand between its ends. -/
def doubleOfText? (s : List Char) : Option Float :=
  (Numeral.toDouble? (Text.trim Text.isBlank s)).or
    ((Numeral.dropSingleUnderscores? s).bind Numeral.toDouble?)

/-- A double. -/
def double : Value → Checked Float
  | .float x => .ok x
  | .bool value => .ok (if value then 1 else 0)
  | .int n =>
    match Binary64.ofInt? n with
    | some x => .ok x
    | none => flaw .notNumber
  | .text t =>
    whole t fun s =>
      match doubleOfText? s.toList with
      | some x => .ok x
      | none => flaw .unreadNumber
  | _ => flaw .notNumber

/-- A double above zero, which *not a number* is not. -/
def positiveDouble (value : Value) : Checked Float :=
  (double value).bind fun x => if Binary64.isPositive x then .ok x else flaw .notPositive

/-- A day. A moment counts as its day in UTC. -/
def day : Value → Checked Day
  | .day value => .ok value
  | .moment value =>
    match value.utcDay? with
    | some day => .ok day
    | none => .error .outOfCalendar
  | .text t => whole t fun s => ofRead (Day.ofText s)
  | .int n => ofRead (Day.ofInt n)
  | .float x => ofRead (Day.ofDouble x)
  | _ => flaw (.notDay .notDay)
where
  /-- A day as it was read. -/
  ofRead : Except DayFault Day → Checked Day
    | .ok day => .ok day
    | .error fault => flaw (.notDay fault)

@[simp] theorem whole_ofString {α : Type} (s : String) (read : String → Checked α) :
    whole s read = read s := by
  simp [whole]

theorem whole_eq_ok_iff {α : Type} {t : Text} {read : String → Checked α} {value : α} :
    whole t read = .ok value ↔ ∃ s : String, t = s ∧ read s = .ok value := by
  unfold whole
  split
  · rename_i s hs
    rw [Text.string?_eq_some_iff] at hs
    subst hs
    simp
  · rename_i hnone
    simp only [flaw, reduceCtorEq, false_iff, not_exists, not_and]
    rintro s rfl
    simp at hnone

theorem member_eq_ok_iff {α : Type} [Vocabulary α] {value : Value} {found : α} :
    member α value = .ok found ↔ value = .text (Vocabulary.text found) := by
  cases value with
  | text t =>
    simp only [member, whole_eq_ok_iff, Value.text.injEq]
    constructor
    · rintro ⟨word, rfl, hread⟩
      cases hword : Vocabulary.ofText? (α := α) word <;> simp [hword, flaw] at hread
      rw [← hread, Vocabulary.text_of_ofText? hword]
    · rintro rfl
      exact ⟨_, rfl, by rw [Vocabulary.ofText?_text]⟩
  | _ => simp [member, flaw]

@[simp] theorem text_eq_ok_iff {value : Value} {t : Text} :
    text value = .ok t ↔ value = .text t := by
  cases value <;> simp [text, flaw]

end SiteStats.Schema
