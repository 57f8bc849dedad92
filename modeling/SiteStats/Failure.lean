import SiteStats.Filter.Document
import SiteStats.Http.Message
import SiteStats.Http.Reference
import SiteStats.Json.Encoding

/-!
# Failures

Everything that can go wrong when a caller uses the library, by its cause, and the text that goes
with each cause.
-/

namespace SiteStats

open SiteStats.Schema

/-- The causes of failure. -/
inductive Failure where
  /-- A model with this title was not valid. -/
  | invalid (title : String) (issues : List Issue)
  /-- A filter document was no filter. -/
  | document (fault : Filter.DocumentFault)
  /-- The UTC day of a moment lies outside the calendar. -/
  | outOfCalendar
  /-- The numbers of a day or a moment do not fit together. -/
  | calendar (fault : CalendarFault)
  /-- A value is not in the vocabulary with this title. -/
  | notMember (title : String) (value : String)
  /-- A value of this kind has nothing to go through one by one. -/
  | notIterable (kind : String)
  /-- A value of this kind does not have a part of that name. -/
  | noAttribute (kind name : String)
  /-- A model with this title does not have the field. -/
  | noField (title field : String)
  /-- A name that all models share cannot be given the value. -/
  | reserved (fault : ReservedFault)
  /-- An object does not have the field. -/
  | missingKey (name : String)
  /-- A whole number has too many digits to be written out. -/
  | tooManyDigits
  /-- A text is no number. -/
  | notDouble (text : String)
  /-- A double is no whole number because it is no number, or too large to be one. -/
  | notInteger (infinite : Bool)
  /-- What came back as the number of visitors is no number. -/
  | unexpectedPayload (value : Value)
  /-- A response holds no results. -/
  | missingResults
  /-- Variables that have to be set are not. -/
  | missingEnvironment (names : List String)
  /-- A variable cannot be set. -/
  | environment (message : String)
  /-- The response is an error message. -/
  | api (message : Value) (status : Int)
  /-- The address of a request is no address. -/
  | url (fault : Http.UrlFault)
  /-- The address in a redirect is no address. -/
  | redirect (fault : Http.UrlFault)
  /-- The address in a redirect cannot be put together with that of the request. -/
  | reference (fault : Http.ReferenceFault)
  /-- The host of an address is written in Punycode but is no name. -/
  | domain (fault : Http.Domain.Fault)
  /-- The address of a request has no scheme. -/
  | noScheme (address : String)
  /-- A text cannot be encoded as where it stands demands. -/
  | unencodable (fault : Text.Unencodable)
  /-- The codings of a body cannot be taken off. -/
  | coding (fault : Deflate.Fault)
  /-- The transport broke down. -/
  | breakdown (cause : Http.Breakdown)
  /-- The status of a response is not a success. -/
  | status (fault : Http.StatusFault)
  /-- The body of a response is no JSON value. -/
  | body (fault : Json.BodyFault)

namespace Failure

/-- What is said of variables that are not set. -/
def missingEnvironmentText : String := "missing required environment variable"

/-- What is said of a number of visitors that is none. -/
def unexpectedPayloadText : String := "unexpected realtime visitors payload"

/-- The text of a failure. What is wrong with a model is not put into the text, which only says that
there is a list of issues. -/
def message : Failure → Text
  | invalid _ _ => "<ValidationError>"
  | document fault => fault.message
  | outOfCalendar => "date value out of range"
  | calendar fault => fault.message
  | notMember title value => s!"{value} is not a valid {title}"
  | notIterable kind => s!"'{kind}' object is not iterable"
  | noAttribute kind name => s!"'{kind}' object has no attribute '{name}'"
  | noField title field => s!"\"{title}\" object has no field \"{field}\""
  | reserved fault => fault.message
  | missingKey name => Text.quoted name
  | tooManyDigits =>
    s!"Exceeds the limit ({Numeral.maxDigits} digits) for integer string conversion; " ++
      "use sys.set_int_max_str_digits() to increase the limit"
  | notDouble text =>
    let shown := Text.quoted text
    s!"could not convert string to float: {shown}"
  | notInteger infinite =>
    if infinite then "cannot convert float infinity to integer"
    else "cannot convert float NaN to integer"
  | unexpectedPayload value => unexpectedPayloadText ++ ": " ++ value.shown
  | missingResults => "response does not contain results"
  | missingEnvironment names =>
    missingEnvironmentText ++ ": " ++ ", ".intercalate names
  | environment message => message
  | api message _ => message.display
  | url fault => fault.message
  | redirect fault => s!"Invalid URL in location header: {fault.message}."
  | reference fault => fault.message
  | domain fault => fault.message
  | noScheme address =>
    let shown := Text.quoted address
    s!"unknown url type: {shown}"
  | unencodable fault => fault.message
  | coding fault => fault.message
  | breakdown cause => cause.message
  | status fault => fault.message
  | body fault => fault.message

/-- A rejected model as a failure. -/
def ofRejection (title : String) : Rejection → Failure
  | .flawed issues => invalid title issues
  | .outOfCalendar => outOfCalendar

/-- What is written of a value, if its numbers can be written out. -/
def written {α : Type} (value : Value) (form : Value → α) : Except Failure α :=
  if value.isWritable then .ok (form value) else .error tooManyDigits

/-- A value of a vocabulary that is named by another value. -/
def readMember (α : Type) [Vocabulary α] (value : Value) : Except Failure α :=
  match member α value with
  | .ok found => .ok found
  | .error _ => (written value Value.shown).bind fun shown =>
      .error (notMember (Vocabulary.title α) shown)

end Failure

/-- The result of checking a model with that title. -/
def Schema.Checked.titled {α : Type} (title : String) (checked : Checked α) : Except Failure α :=
  checked.mapError (Failure.ofRejection title)

end SiteStats
