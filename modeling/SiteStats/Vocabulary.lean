/-!
# Words of the wire

A stats query is written with words from small fixed lists: metrics, properties, periods and so on.
`Vocabulary` is what these lists have in common, and `Vocabulary.ofText?` reads a word back by
looking it up in its list. `Wire` holds the words that belong to no list: the paths that are asked
for, the names of parameters and headers, and the fields of what comes back.
-/

namespace SiteStats

/-! ## Closed vocabularies -/

/-- A closed list of words. `title` names the list in messages, `members` gives it in order, `text`
is the word that stands for a member on the wire and `constant` the member's name as a constant.
Every member is in the list and is the first whose word is its own. -/
class Vocabulary (α : Type) where
  title : String
  members : List α
  text : α → String
  constant : α → String
  find_text : ∀ member, (members.find? fun other => text other == text member) = some member

namespace Vocabulary

variable {α : Type} [Vocabulary α]

/-- The member whose word is exactly `word`. -/
def ofText? (word : String) : Option α :=
  (members (α := α)).find? fun member => text member == word

/-- All words of the vocabulary, in the order of its members. -/
def words (α : Type) [Vocabulary α] : List String :=
  (members (α := α)).map text

theorem ofText?_text (member : α) : ofText? (text member) = some member :=
  find_text member

theorem text_of_ofText? {word : String} {member : α} (h : ofText? word = some member) :
    text member = word := by
  have := List.find?_some h
  simpa using this

theorem mem_members (member : α) : member ∈ members :=
  List.mem_of_find?_eq_some (find_text member)

theorem text_injective {a b : α} (h : text a = text b) : a = b :=
  Option.some.inj <| by rw [← ofText?_text a, h, ofText?_text]

end Vocabulary

/-! ## Metrics

What a query measures. A metric's constant name is its word in capitals. -/

/-- The metrics that a query can ask for. -/
inductive Metric where
  | visitors | visits | pageviews | viewsPerVisit | bounceRate | visitDuration | events
  | conversionRate | timeOnPage
deriving DecidableEq, Repr

namespace Metric

/-- Every metric, in the order in which they are listed. -/
def all : List Metric :=
  [visitors, visits, pageviews, viewsPerVisit, bounceRate, visitDuration, events, conversionRate,
    timeOnPage]

/-- The word of a metric. -/
def text : Metric → String
  | visitors => "visitors"
  | visits => "visits"
  | pageviews => "pageviews"
  | viewsPerVisit => "views_per_visit"
  | bounceRate => "bounce_rate"
  | visitDuration => "visit_duration"
  | events => "events"
  | conversionRate => "conversion_rate"
  | timeOnPage => "time_on_page"

instance : Vocabulary Metric where
  title := "Metric"
  members := all
  text := text
  constant m := m.text.toUpper
  find_text member := by cases member <;> decide

end Metric

/-! ## Properties

A property is what visits and events are filtered and grouped by. Its word on the wire is its scope
and its key with a colon between them, as in `event:page`; the key alone is the name of the column
that a breakdown by this property returns. -/

/-- The properties that a filter or a breakdown can name. -/
inductive Property where
  | goal | page | hostname
  | entryPage | exitPage | source | referrer
  | utmMedium | utmSource | utmCampaign | utmContent | utmTerm
  | device | browser | browserVersion | os | osVersion
  | country | region | city
deriving DecidableEq, Repr

namespace Property

/-- Every property, in the order in which they are listed. -/
def all : List Property :=
  [goal, page, hostname, entryPage, exitPage, source, referrer, utmMedium, utmSource, utmCampaign,
    utmContent, utmTerm, device, browser, browserVersion, os, osVersion, country, region, city]

/-- What a property belongs to: a single event, or the whole visit. -/
def scope : Property → String
  | goal | page | hostname => "event"
  | _ => "visit"

/-- The name of the column that a breakdown by this property returns. -/
def key : Property → String
  | goal => "goal"
  | page => "page"
  | hostname => "hostname"
  | entryPage => "entry_page"
  | exitPage => "exit_page"
  | source => "source"
  | referrer => "referrer"
  | utmMedium => "utm_medium"
  | utmSource => "utm_source"
  | utmCampaign => "utm_campaign"
  | utmContent => "utm_content"
  | utmTerm => "utm_term"
  | device => "device"
  | browser => "browser"
  | browserVersion => "browser_version"
  | os => "os"
  | osVersion => "os_version"
  | country => "country"
  | region => "region"
  | city => "city"

/-- What stands between the scope and the key of a property. -/
def separator : String := ":"

/-- The word of a property: scope, colon, key. -/
def text (p : Property) : String :=
  p.scope ++ separator ++ p.key

/-- The constant name of a property: scope and key in capitals, joined by an underscore. -/
def constant (p : Property) : String :=
  p.scope.toUpper ++ "_" ++ p.key.toUpper

instance : Vocabulary Property where
  title := "StatsProperty"
  members := all
  text := text
  constant := constant
  find_text member := by cases member <;> decide

end Property

/-! ## Periods and intervals

A query covers a period: one of the predefined ones, or `custom`, which goes with a range of days.
A timeseries is cut into buckets of one interval. -/

/-- The periods that a query can cover. -/
inductive Period where
  | twelveMonths | sixMonths | month | thirtyDays | sevenDays | day | custom
deriving DecidableEq, Repr

namespace Period

/-- Every period, in the order in which they are listed. -/
def all : List Period := [twelveMonths, sixMonths, month, thirtyDays, sevenDays, day, custom]

/-- The word of a period. -/
def text : Period → String
  | twelveMonths => "12mo"
  | sixMonths => "6mo"
  | month => "month"
  | thirtyDays => "30d"
  | sevenDays => "7d"
  | day => "day"
  | custom => "custom"

/-- The constant name of a period, spelled out. -/
def constant : Period → String
  | twelveMonths => "TWELVE_MONTHS"
  | sixMonths => "SIX_MONTHS"
  | month => "MONTH"
  | thirtyDays => "THIRTY_DAYS"
  | sevenDays => "SEVEN_DAYS"
  | day => "DAY"
  | custom => "CUSTOM"

instance : Vocabulary Period where
  title := "Period"
  members := all
  text := text
  constant := constant
  find_text member := by cases member <;> decide

end Period

/-- The buckets that a timeseries can be cut into. -/
inductive Interval where
  | date | month
deriving DecidableEq, Repr

namespace Interval

/-- Every interval, in the order in which they are listed. -/
def all : List Interval := [date, month]

/-- The word of an interval. -/
def text : Interval → String
  | date => "date"
  | month => "month"

instance : Vocabulary Interval where
  title := "Interval"
  members := all
  text := text
  constant i := i.text.toUpper
  find_text member := by cases member <;> decide

end Interval

/-! ## Names -/

namespace Wire

/-! ### Paths -/

def realtimePath : String := "api/v1/stats/realtime/visitors"
def aggregatePath : String := "api/v1/stats/aggregate"
def timeseriesPath : String := "api/v1/stats/timeseries"
def breakdownPath : String := "api/v1/stats/breakdown"

/-! ### Parameters -/

def siteId : String := "site_id"
def period : String := "period"
def metrics : String := "metrics"
def compare : String := "compare"
def filters : String := "filters"
def date : String := "date"
def interval : String := "interval"
def property : String := "property"
def limit : String := "limit"
def page : String := "page"

/-- What totals are compared with when they are compared. -/
def previousPeriod : String := "previous_period"

/-- What stands between the members of a list in one parameter. -/
def listSeparator : String := ","

/-! ### Fields of a response -/

def results : String := "results"
def error : String := "error"
def value : String := "value"
def change : String := "change"

/-! ### Headers -/

def authorization : String := "Authorization"
def contentType : String := "Content-Type"
def json : String := "application/json"

end Wire

end SiteStats
