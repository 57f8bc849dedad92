import Mathlib.Tactic.Common
import SiteStats.Json.Reader
import SiteStats.Json.Writer

/-!
# The ways to write a value in JSON

A value has many JSON texts: blanks may stand between any two parts of it, and each character of a
string may be written in up to four ways.  `Spells v s` says that `s` is one of the texts of `v`. It
is the grammar of JSON, written down without regard to how the reader goes about it, for the values
that consist of texts, lists and objects with distinct names.  How deep these stand in each other
(`nesting`) is what a reader has to have room for.

`spells_write` says that the shortest way to write a value is one of its ways.  That the reader gets
the value back from each of them is the subject of `SiteStats.Proofs.Json.Reading`.
-/

namespace SiteStats.Json

/-! ## Strings -/

/-- The ways to write a code point between quotes: as it stands, by a backslash and one character,
by its number, and beyond U+FFFF by the numbers of the two halves of its surrogate pair.  A half
alone has no number here, because next to another it would be taken for part of a pair. -/
inductive SpellsPoint : Point → List Point → Prop
  | plain {point : Point} (printable : 0x20 ≤ point.toNat) (quote : point ≠ .char '"')
      (backslash : point ≠ .char '\\') : SpellsPoint point [point]
  | short {c e : Char} (stands : escaped? e = some c) :
      SpellsPoint (.char c) [.char '\\', .char e]
  | number {c : Char} {w x y z : Point} (digits : hexNumber? [w, x, y, z] = some c.toNat) :
      SpellsPoint (.char c) [.char '\\', .char 'u', w, x, y, z]
  | pair {c : Char} {w x y z w' x' y' z' : Point} {high low : Nat}
      (first : hexNumber? [w, x, y, z] = some high) (isHigh : 0xD800 ≤ high ∧ high < 0xDC00)
      (second : hexNumber? [w', x', y', z'] = some low) (isLow : 0xDC00 ≤ low ∧ low < 0xE000)
      (sum : 0x10000 + (high - 0xD800) * 0x400 + (low - 0xDC00) = c.toNat) :
      SpellsPoint (.char c)
        [.char '\\', .char 'u', w, x, y, z, .char '\\', .char 'u', w', x', y', z']

/-- The ways to write code points one after the other. -/
inductive SpellsPoints : List Point → List Point → Prop
  | nil : SpellsPoints [] []
  | cons {point : Point} {points first rest : List Point} (head : SpellsPoint point first)
      (tail : SpellsPoints points rest) : SpellsPoints (point :: points) (first ++ rest)

/-- The ways to write a string. -/
inductive SpellsString (s : Text) : List Point → Prop
  | quoted {body : List Point} (points : SpellsPoints s.toList body) :
      SpellsString s (.char '"' :: body ++ [.char '"'])

/-! ## Values -/

/-- Nothing but blanks. -/
def Blank (s : List Point) : Prop :=
  ∀ c ∈ s, isBlank c = true

mutual

/-- The ways to write a value that consists of texts, lists and objects. -/
inductive Spells : Value → List Point → Prop
  | text {s : Text} {t : List Point} (string : SpellsString s t) : Spells (.text s) t
  | noItems {gap : List Point} (blank : Blank gap) :
      Spells (.list []) (.char '[' :: gap ++ [.char ']'])
  | list {items : List Value} {body : List Point} (each : SpellsItems items body) :
      Spells (.list items) (.char '[' :: body ++ [.char ']'])
  | noFields {gap : List Point} (blank : Blank gap) :
      Spells (.object []) (.char '\x7b' :: gap ++ [.char '\x7d'])
  | object {fields : Fields} {body : List Point} (each : SpellsFields fields body)
      (distinct : (fields.map Prod.fst).Nodup) :
      Spells (.object fields) (.char '\x7b' :: body ++ [.char '\x7d'])

/-- The ways to write the items of a list that has some, with the commas between them. -/
inductive SpellsItems : List Value → List Point → Prop
  | last {item : Value} {before t after : List Point} (blank : Blank before)
      (written : Spells item t) (blank' : Blank after) : SpellsItems [item] (before ++ t ++ after)
  | more {item : Value} {items : List Value} {before t after rest : List Point}
      (blank : Blank before) (written : Spells item t) (blank' : Blank after)
      (others : SpellsItems items rest) :
      SpellsItems (item :: items) (before ++ t ++ after ++ .char ',' :: rest)

/-- The ways to write the fields of an object that has some, with the commas between them. -/
inductive SpellsFields : Fields → List Point → Prop
  | last {field : Text × Value} {t : List Point} (written : SpellsField field t) :
      SpellsFields [field] t
  | more {field : Text × Value} {fields : Fields} {t rest : List Point}
      (written : SpellsField field t) (others : SpellsFields fields rest) :
      SpellsFields (field :: fields) (t ++ .char ',' :: rest)

/-- The ways to write one field, with the blanks around it. -/
inductive SpellsField : Text × Value → List Point → Prop
  | pair {name : Text} {value : Value} {before n gap gap' t after : List Point}
      (blank : Blank before) (string : SpellsString name n) (inner : Blank gap)
      (inner' : Blank gap') (written : Spells value t) (blank' : Blank after) :
      SpellsField (name, value) (before ++ n ++ gap ++ .char ':' :: gap' ++ t ++ after)

end

mutual

/-- How many lists and objects stand in each other in a value. -/
def nesting : Value → Nat
  | .list items => nestingOfItems items + 1
  | .object fields => nestingOfFields fields + 1
  | _ => 0

/-- The same for items, of which the deepest counts. -/
def nestingOfItems : List Value → Nat
  | [] => 0
  | item :: rest => max (nesting item) (nestingOfItems rest)

/-- The same for fields. -/
def nestingOfFields : List (Text × Value) → Nat
  | [] => 0
  | (_, value) :: rest => max (nesting value) (nestingOfFields rest)

end

@[simp] lemma nesting_text (t : Text) : nesting (.text t) = 0 := rfl

lemma nestingOfItems_le_iff {items : List Value} {levels : Nat} :
    nestingOfItems items ≤ levels ↔ ∀ item ∈ items, nesting item ≤ levels := by
  induction items with
  | nil => simp [nestingOfItems]
  | cons item rest ih => rw [nestingOfItems, Nat.max_le, ih, List.forall_mem_cons]

lemma nestingOfFields_le_iff {fields : Fields} {levels : Nat} :
    nestingOfFields fields ≤ levels ↔ ∀ field ∈ fields, nesting field.2 ≤ levels := by
  induction fields with
  | nil => simp [nestingOfFields]
  | cons field rest ih => rw [nestingOfFields, Nat.max_le, ih, List.forall_mem_cons]

/-- A list fits into a room when there is a level for itself and its items fit below. -/
lemma nesting_list_le_iff {items : List Value} {levels : Nat} :
    nesting (.list items) ≤ levels ↔
      ∃ below, levels = below + 1 ∧ ∀ item ∈ items, nesting item ≤ below := by
  simp only [← nestingOfItems_le_iff, nesting]
  constructor
  · exact fun h => ⟨levels - 1, by omega, by omega⟩
  · rintro ⟨below, rfl, h⟩
    omega

lemma nesting_object_le_iff {fields : Fields} {levels : Nat} :
    nesting (.object fields) ≤ levels ↔
      ∃ below, levels = below + 1 ∧ ∀ field ∈ fields, nesting field.2 ≤ below := by
  simp only [← nestingOfFields_le_iff, nesting]
  constructor
  · exact fun h => ⟨levels - 1, by omega, by omega⟩
  · rintro ⟨below, rfl, h⟩
    omega

/-! ## The shortest way -/

lemma hexNumber?_hex_of_control :
    ∀ n < 0x20, hexNumber? ((Text.hex 4 n).map .char) = some n := by
  decide

lemma spellsPoint_writePoint (point : Point) : SpellsPoint point (writePoint point) := by
  cases point with
  | half offset => exact .plain (by simp only [Point.toNat]; omega) (by simp) (by simp)
  | char c =>
    show SpellsPoint (.char c) ((writeChar c).map .char)
    unfold writeChar
    split_ifs with hquote hbackslash hn hr ht hb hf hcontrol
    case pos | pos | pos | pos | pos | pos | pos => subst c; exact .short rfl
    · exact .number (hexNumber?_hex_of_control c.toNat hcontrol)
    · exact .plain (Nat.le_of_not_lt hcontrol) (by simpa using hquote) (by simpa using hbackslash)

lemma spellsPoints_writePoint (points : List Point) :
    SpellsPoints points (points.flatMap writePoint) := by
  induction points with
  | nil => exact .nil
  | cons point points ih => exact .cons (spellsPoint_writePoint point) ih

lemma spellsString_writeString (s : Text) : SpellsString s (writeString s) :=
  .quoted (spellsPoints_writePoint s.toList)

lemma blank_nil : Blank [] := by
  simp [Blank]

lemma spellsItems_write {items : List Value} (hne : items ≠ [])
    (h : ∀ item ∈ items, Spells item (write item)) :
    SpellsItems items ([.char ','].intercalate (writeItems items)) := by
  induction items with
  | nil => exact absurd rfl hne
  | cons item rest ih =>
    have hitem := h item List.mem_cons_self
    cases rest with
    | nil => simpa [writeItems] using SpellsItems.last blank_nil hitem blank_nil
    | cons next others =>
      have hrest := ih (by simp) fun other hother => h other (List.mem_cons_of_mem _ hother)
      simpa [writeItems] using SpellsItems.more blank_nil hitem blank_nil hrest

lemma spellsFields_write {fields : Fields} (hne : fields ≠ [])
    (h : ∀ field ∈ fields, Spells field.2 (write field.2)) :
    SpellsFields fields ([.char ','].intercalate (writeFields fields)) := by
  induction fields with
  | nil => exact absurd rfl hne
  | cons field rest ih =>
    obtain ⟨name, value⟩ := field
    have hvalue : SpellsField (name, value)
        ([] ++ writeString name ++ [] ++ .char ':' :: [] ++ write value ++ []) :=
      .pair blank_nil (spellsString_writeString name) blank_nil blank_nil (h _ List.mem_cons_self)
        blank_nil
    simp only [List.nil_append, List.append_nil, List.append_assoc, List.cons_append] at hvalue
    cases rest with
    | nil => simpa [writeFields] using SpellsFields.last hvalue
    | cons next others =>
      have hrest := ih (by simp) fun other hother => h other (List.mem_cons_of_mem _ hother)
      simpa [writeFields] using SpellsFields.more hvalue hrest

/-- **The shortest text of a list** is one of its texts when that is so for its items. -/
theorem spells_write_list {items : List Value} (h : ∀ item ∈ items, Spells item (write item)) :
    Spells (.list items) (write (.list items)) := by
  rw [write]
  cases items with
  | nil => exact .noItems blank_nil
  | cons item rest => exact .list (spellsItems_write (by simp) h)

/-- **The shortest text of an object** is one of its texts when that is so for what it holds. -/
theorem spells_write_object {fields : Fields} (distinct : (fields.map Prod.fst).Nodup)
    (h : ∀ field ∈ fields, Spells field.2 (write field.2)) :
    Spells (.object fields) (write (.object fields)) := by
  rw [write]
  cases fields with
  | nil => exact .noFields blank_nil
  | cons field rest => exact .object (spellsFields_write (by simp) h) distinct

/-- The shortest text of a text is one of its texts. -/
lemma spells_write_text (s : Text) : Spells (.text s) (write (.text s)) := by
  rw [write]
  exact .text (spellsString_writeString s)

end SiteStats.Json
