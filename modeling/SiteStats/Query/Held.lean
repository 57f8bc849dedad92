import SiteStats.Result
import SiteStats.DateRange

/-!
# What an option holds

An option can be given a value without any check, and then it holds whatever that value is. Of such
a value only this is known: what comes of each of the few expressions that look at it. Most of them
expect a value of one kind and raise a complaint about any other; `Held` lists them with what comes
of them, and each of them can raise something.

What a value is asked for is the same each time. And the word that it stands for, if there is one,
can be put into running text, even if it cannot be shown or sent. Both are all that is asked of the
value.
-/

namespace SiteStats

/-- What puts an end to a question: one of the known causes of failure, a part of a list of texts
that is no text, or whatever else a value answers when it is asked for something. -/
inductive Raised where
  | known (failure : Failure)
  | notText (position : Nat) (kind : String)
  | foreign (kind : String) (message : Text)

/-- The text that goes with it. -/
def Raised.message : Raised → Text
  | known failure => failure.message
  | notText position kind =>
    s!"sequence item {position}: expected str instance, {kind} found"
  | foreign _ message => message

namespace Query

/-- A value on its way into a parameter: its kind, the form in which its kind can be seen, the form
in which it is put into running text, the form in which it is sent, and the text that it is, if it
is one. -/
structure Content where
  kind : String
  shown : Except Raised String
  display : Except Raised Text
  sent : Except Raised Text
  text? : Option Text

/-- The text that a plain value is. -/
def Content.textOf? : Value → Option Text
  | .text value => some value
  | _ => none

/-- A plain value has all its forms if it can be written out. -/
def Content.ofValue (value : Value) : Content where
  kind := value.kind
  shown := (Failure.written value Value.shown).mapError .known
  display := (Failure.written value Value.display).mapError .known
  sent := (Failure.written value Value.sent).mapError .known
  text? := textOf? value

/-- A text. -/
def Content.text (text : Text) : Content :=
  .ofValue (.text text)

/-- What an option holds: whether it is null, whether it counts as true, the word that it stands
for, the words that the things in it stand for one after the other, its text, its text as a filter
and as a range of days, and the row that an item of a response is if the option names its column. -/
structure Held where
  isNull : Bool
  truth : Except Raised Bool
  word : Except Raised Content
  words : Except Raised (List Content)
  text : Except Raised Content
  filter : Except Raised Content
  dates : Except Raised Content
  row : Value → Except Raised BreakdownRow
  displayed : ∀ content, word = .ok content → ∃ text, content.display = .ok text

namespace Held

/-- A value of that kind lacks a part. -/
def lacks {α : Type} (kind part : String) : Except Raised α :=
  .error (.known (.noAttribute kind part))

/-- A value that counts as true and of which nothing but its kind and its text is known. -/
def plain (kind : String) (text : Except Raised Text) : Held where
  isNull := false
  truth := .ok true
  word := lacks kind "value"
  words := .error (.known (.notIterable kind))
  text := text.map .text
  filter := lacks kind "children"
  dates := lacks kind "from_date"
  row _ := lacks kind "key"
  displayed := by rintro _ ⟨⟩

/-- Nothing. -/
def null : Held :=
  { plain Value.null.kind (.ok Value.null.shown) with isNull := true, truth := .ok false }

/-- What the operand of a comparison is when it is taken for a word. -/
def operand : Filter.Operand → Content
  | .one value => .text value
  | .anyOf values => .ofValue (.part (.alternatives values))

/-- Neither a text nor alternatives hold any number. -/
theorem display_operand (value : Filter.Operand) :
    ∃ text, (operand value).display = .ok text := by
  cases value <;> exact ⟨_, rfl⟩

/-- A part of a filter: a comparison has an operand, which is what its word would be, and a group
has a text. -/
def part (part : Filter.Part) : Held :=
  let parts := { plain part.title (.ok part.display) with words := lacks "tuple" "value" }
  match part with
  | .alternatives _ => parts
  | .node (.condition leaf) =>
    { parts with
      word := .ok (operand leaf.operand)
      displayed := by rintro _ ⟨⟩; exact display_operand leaf.operand }
  | .node (.group combinator children) =>
    { parts with filter := .ok (.text (Filter.Group.mk combinator children).text) }

/-- The word that a plain value stands for, which only comparisons have. -/
def wordOf : Value → Except Raised Content
  | .part value => (part value).word
  | value => lacks value.kind "value"

/-- Any plain value. -/
def ofValue : Value → Held
  | .null => null
  | .part value => part value
  | value =>
    { plain value.kind ((Failure.written value Value.display).mapError .known) with
      truth := .ok value.truthy
      words :=
        match value.elements? with
        | some elements => elements.mapM wordOf
        | none => .error (.known (.notIterable value.kind)) }

/-- A member of a vocabulary stands for its word, and is itself a text. -/
def member {α : Type} [Vocabulary α] (value : α) : Held :=
  { plain (Vocabulary.title α)
      (.ok (Vocabulary.title α ++ "." ++ Vocabulary.constant value : String)) with
    word := .ok (.text (Vocabulary.text value))
    words := lacks (Value.text "").kind "value"
    displayed := by rintro _ ⟨⟩; exact ⟨_, rfl⟩ }

/-- A property is the only thing that names a column. -/
def property (value : Property) : Held :=
  { member value with row := fun item => (BreakdownRow.ofItem value item).mapError .known }

/-- A list of metrics. -/
def metrics (values : List Metric) : Held :=
  { plain (Value.list []).kind
      (.ok ("[" ++ ", ".intercalate (values.map Vocabulary.shown) ++ "]" : String)) with
    truth := .ok !values.isEmpty
    words := .ok (values.map fun value => .text value.text) }

/-- The text of a range of days by its ends. -/
def rangeText (range : LooseRange) : Except Failure Text := do
  let first ← Failure.written range.first Value.shown
  let last ← Failure.written range.last Value.shown
  return (s!"from_date={first} to_date={last}" : String)

/-- A range of days, whose ends may be anything. -/
def range (range : LooseRange) : Held :=
  { plain DateRange.title ((rangeText range).mapError .known) with
    words := lacks "tuple" "value"
    dates := (range.text.map fun text => .text text).mapError .known }

/-- What is held by an option that is not set or holds a value of its own kind. -/
def orNull {α : Type} (held : α → Held) : Option α → Held
  | none => null
  | some value => held value

end Held

end Query

end SiteStats
