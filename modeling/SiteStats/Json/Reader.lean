import SiteStats.Json.Number
import SiteStats.Json.Text
import SiteStats.Value.Basic

/-!
# Reading JSON texts

A reader takes a value from the front of a text and returns what is left. Each step leaves a shorter
text, and this bounds the recursion. Besides what JSON allows, `NaN`, `Infinity` and `-Infinity` are
values, and a name may come twice in one object: it stays in its first place and has its last value.
How deep arrays and objects may stand in each other depends on the room that is left for the reader.
-/

namespace SiteStats.Json

/-- The room that a reader has: how many arrays and objects it can be inside of at a time. -/
class Room where
  levels : Nat

/-- What a reader returns for the text `s`: a result and the shorter text that is left. -/
abbrev Reading (s : List Point) (α : Type) := Except Fault (α × Shorter s)

/-- The characters that may stand between any two parts of a text. -/
def isBlank : Point → Bool
  | .char c => c == ' ' || c == '\t' || c == '\n' || c == '\r'
  | .half _ => false

/-- The text without the blanks it starts with. -/
def skipBlanks (s : List Point) : List Point :=
  s.dropWhile isBlank

theorem length_skipBlanks (s : List Point) : (skipBlanks s).length ≤ s.length :=
  (List.dropWhile_suffix isBlank).length_le

theorem length_le_of_skipBlanks {s t : List Point} (h : skipBlanks s = t) : t.length ≤ s.length :=
  h ▸ length_skipBlanks s

theorem length_lt_of_skipBlanks {s rest : List Point} {c : Point} (h : skipBlanks s = c :: rest) :
    rest.length < s.length :=
  length_le_of_skipBlanks h

/-- The words that are values, with their values. -/
def words : List (Text × Value) :=
  [("null", .null), ("true", .bool true), ("false", .bool false), ("NaN", .float (0.0 / 0.0)),
    ("Infinity", .float (1.0 / 0.0)), ("-Infinity", .float (-1.0 / 0.0))]

/-- The word at the start of the text, if there is one, as a value, and what follows it. -/
def word? (s : List Point) : Option (Value × List Point) :=
  words.findSome? fun (word, value) =>
    if word.toList.isPrefixOf s then some (value, s.drop word.toList.length) else none

theorem length_of_word? {s : List Point} {r : Value × List Point} (h : word? s = some r) :
    r.2.length < s.length := by
  obtain ⟨⟨word, value⟩, hmem, hw⟩ := List.exists_of_findSome?_eq_some h
  simp only [Option.ite_none_right_eq_some, Option.some.injEq] at hw
  obtain ⟨hpre, rfl⟩ := hw
  have hle : word.toList.length ≤ s.length := (List.isPrefixOf_iff_prefix.mp hpre).length_le
  have hpos : 0 < word.toList.length := by
    revert hmem
    simp only [words, List.mem_cons, Prod.mk.injEq, List.not_mem_nil, or_false]
    rintro (⟨rfl, _⟩ | ⟨rfl, _⟩ | ⟨rfl, _⟩ | ⟨rfl, _⟩ | ⟨rfl, _⟩ | ⟨rfl, _⟩) <;> decide
  simp only [List.length_drop]
  omega

/-- A number. -/
def number (s : List Point) : Reading s Value :=
  match h : number? (numerals s) with
  | some (.ok value, rest) =>
    .ok (value, ⟨s.drop ((numerals s).length - rest.length), by
      have hrest : rest.length < (numerals s).length := length_of_number? h
      have := length_numerals s
      simp only [List.length_drop]
      omega⟩)
  | some (.error limit, _) => .error (.beyond limit)
  | none => .error (.malformed .noValue s)

/-- A word or a number. -/
def scalar (s : List Point) : Reading s Value :=
  match h : word? s with
  | some (value, rest) => .ok (value, ⟨rest, length_of_word? h⟩)
  | none => number s

/-- The colon between a name and its value, with the blanks around it. -/
def colon (s : List Point) : Reading s Unit :=
  match h : skipBlanks s with
  | .char ':' :: rest =>
    .ok ((), ⟨skipBlanks rest,
      Nat.lt_of_le_of_lt (length_skipBlanks rest) (length_lt_of_skipBlanks h)⟩)
  | rest => .error (.malformed .noColon rest)

/-- Forgets how much shorter the rest is. -/
def Reading.widen {s t : List Point} {α : Type} (h : t.length ≤ s.length) :
    Reading t α → Reading s α
  | .ok (value, ⟨rest, hr⟩) => .ok (value, ⟨rest, Nat.lt_of_lt_of_le hr h⟩)
  | .error fault => .error fault

/-- A quoted name and the colon after it. -/
def name (s : List Point) : Reading s Text :=
  match s with
  | .char '"' :: rest =>
    match string (.char '"' :: rest) rest with
    | .ok (points, ⟨rest', h⟩) =>
      match colon rest' with
      | .ok ((), ⟨rest'', h'⟩) => .ok (⟨points⟩, ⟨rest'', Nat.lt_succ_of_lt (Nat.lt_trans h' h)⟩)
      | .error fault => .error fault
    | .error fault => .error fault
  | s => .error (.malformed .noName s)

mutual

/-- The value at the start of a text, with room for so many levels. -/
def value (levels : Nat) (s : List Point) : Reading s Value :=
  match s with
  | .char '"' :: rest =>
    match string (.char '"' :: rest) rest with
    | .ok (points, ⟨rest', h⟩) => .ok (.text ⟨points⟩, ⟨rest', Nat.lt_succ_of_lt h⟩)
    | .error fault => .error fault
  | .char '[' :: rest =>
    match levels with
    | 0 => .error (.beyond (.nesting .array))
    | levels + 1 =>
      match hs : skipBlanks rest with
      | .char ']' :: rest' =>
        .ok (.list [], ⟨rest', Nat.lt_succ_of_lt (length_lt_of_skipBlanks hs)⟩)
      | first =>
        match items levels [] first with
        | .ok (values, ⟨rest', h⟩) =>
          .ok (.list values,
            ⟨rest', Nat.lt_succ_of_lt (Nat.lt_of_lt_of_le h (length_le_of_skipBlanks hs))⟩)
        | .error fault => .error fault
  | .char '\x7b' :: rest =>
    match levels with
    | 0 => .error (.beyond (.nesting .object))
    | levels + 1 =>
      match hs : skipBlanks rest with
      | .char '\x7d' :: rest' =>
        .ok (.object [], ⟨rest', Nat.lt_succ_of_lt (length_lt_of_skipBlanks hs)⟩)
      | first =>
        match fields levels [] first with
        | .ok (pairs, ⟨rest', h⟩) =>
          .ok (.object (Fields.ofPairs pairs),
            ⟨rest', Nat.lt_succ_of_lt (Nat.lt_of_lt_of_le h (length_le_of_skipBlanks hs))⟩)
        | .error fault => .error fault
  | s => scalar s
termination_by (s.length, 0)
decreasing_by
  all_goals exact Prod.Lex.left _ _ (Nat.lt_succ_of_le (length_le_of_skipBlanks hs))

/-- The items of a list up to its end, after those that have been read and are given in reverse. -/
def items (levels : Nat) (done : List Value) (s : List Point) : Reading s (List Value) :=
  match value levels s with
  | .ok (item, ⟨rest, h⟩) =>
    match hs : skipBlanks rest with
    | .char ',' :: rest' =>
      have hlt : (skipBlanks rest').length < s.length :=
        Nat.lt_of_le_of_lt (length_skipBlanks rest')
          (Nat.lt_trans (length_lt_of_skipBlanks hs) h)
      (items levels (item :: done) (skipBlanks rest')).widen (Nat.le_of_lt hlt)
    | .char ']' :: rest' =>
      .ok ((item :: done).reverse, ⟨rest', Nat.lt_trans (length_lt_of_skipBlanks hs) h⟩)
    | rest' => .error (.malformed .noComma rest')
  | .error fault => .error fault
termination_by (s.length, 1)
decreasing_by
  · exact Prod.Lex.right _ Nat.zero_lt_one
  · exact Prod.Lex.left _ _ hlt

/-- The pairs of an object up to its end, after those that have been read and are given in reverse.
-/
def fields (levels : Nat) (done : List (Text × Value)) (s : List Point) :
    Reading s (List (Text × Value)) :=
  match name s with
  | .ok (name, ⟨rest, h⟩) =>
    match value levels rest with
    | .ok (item, ⟨rest', h'⟩) =>
      match hs : skipBlanks rest' with
      | .char ',' :: rest'' =>
        have hlt : (skipBlanks rest'').length < s.length :=
          Nat.lt_of_le_of_lt (length_skipBlanks rest'')
            (Nat.lt_trans (length_lt_of_skipBlanks hs) (Nat.lt_trans h' h))
        (fields levels ((name, item) :: done) (skipBlanks rest'')).widen (Nat.le_of_lt hlt)
      | .char '\x7d' :: rest'' =>
        .ok (((name, item) :: done).reverse,
          ⟨rest'', Nat.lt_trans (length_lt_of_skipBlanks hs) (Nat.lt_trans h' h)⟩)
      | rest'' => .error (.malformed .noComma rest'')
    | .error fault => .error fault
  | .error fault => .error fault
termination_by (s.length, 1)
decreasing_by
  · exact Prod.Lex.left _ _ h
  · exact Prod.Lex.left _ _ hlt

end

/-- Reads a whole text as one value. -/
def whole (levels : Nat) (text : List Point) : Except Fault Value :=
  match value levels (skipBlanks text) with
  | .ok (result, ⟨rest, _⟩) =>
    match skipBlanks rest with
    | [] => .ok result
    | extra => .error (.malformed .extraData extra)
  | .error fault => .error fault

variable [room : Room]

/-- Reads code points as one value. -/
def readPoints (points : List Point) : Except ReadFault Value :=
  (whole room.levels points).mapError (Fault.locate points)

/-- Reads a text as one value. A byte order mark at the start of a text that is not made of octets
is a fault of its own. -/
def read (text : Text) : Except ReadFault Value :=
  if text.toList.head? = some (.char '\ufeff') then
    .error (Fault.locate text.toList (.malformed .byteOrderMark text.toList))
  else readPoints text.toList

end SiteStats.Json
