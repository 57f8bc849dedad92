import Mathlib.Data.Option.Basic
import SiteStats.Proofs.Calendar.Text
import SiteStats.Proofs.Query.Acceptance
import SiteStats.Query.Params

/-!
# The parameters of queries

Each kind of query writes down its options in an order of its own.  `Kind.parameters` gives the
orders, and `sentText?` says for each parameter, on its own, whether it is sent and with which text.
A query that has been read has the parameters that the two together say (`params_eq_listed`), unless
it holds a number with too many digits to be written out, and everything else follows from that: no
name comes twice, because no order holds a parameter twice; and two lists of parameters are equal
when their entries are, one by one.

An entry says what its option is.  Options are left out when they do not count as true, and by
`Coherent` only those that are not set do not; for the others it remains to see that their texts
differ.  Filters are the exception: of them no more can be seen than their text.
-/

namespace SiteStats.Query

/-! ## Parameters one by one -/

/-- What can be sent for a query. -/
inductive Parameter where
  | period | metrics | compare | filters | date | interval | property | limit | page
deriving DecidableEq, Repr

/-- The name under which a parameter is sent. -/
def Parameter.name : Parameter → String
  | period => Wire.period
  | metrics => Wire.metrics
  | compare => Wire.compare
  | filters => Wire.filters
  | date => Wire.date
  | interval => Wire.interval
  | property => Wire.property
  | limit => Wire.limit
  | page => Wire.page

lemma Parameter.name_injective {p q : Parameter} (h : p.name = q.name) : p = q := by
  revert h; cases p <;> cases q <;> decide

lemma Parameter.name_ne_siteId (p : Parameter) : p.name ≠ Wire.siteId := by
  cases p <;> decide

/-- The parameters of a kind of query, in the order in which they are sent. -/
def Kind.parameters : Kind → List Parameter
  | aggregate => [.period, .metrics, .compare, .filters, .date]
  | timeseries => [.period, .filters, .metrics, .interval, .date]
  | breakdown => [.property, .period, .metrics, .limit, .page, .filters, .date]

lemma Kind.nodup_names (kind : Kind) : (kind.parameters.map Parameter.name).Nodup := by
  cases kind <;> decide

/-- The parameters that all kinds of query have. -/
def commonParameters : List Parameter := [.period, .metrics, .filters, .date]

/-- The parameters that a kind of query has besides. -/
def Kind.ownParameters : Kind → List Parameter
  | aggregate => [.compare]
  | timeseries => [.interval]
  | breakdown => [.property, .limit, .page]

lemma Kind.mem_parameters {kind : Kind} {p : Parameter} :
    p ∈ kind.parameters ↔ p ∈ commonParameters ∨ p ∈ kind.ownParameters := by
  cases kind <;> cases p <;> decide

/-- The option behind a parameter is set. -/
def Sets : Query → Parameter → Prop
  | query, .period => ∃ period, query.options.period = some period
  | query, .metrics => ∃ metrics, query.options.metrics = some metrics ∧ metrics ≠ []
  | query, .filters => ∃ group, query.options.filters = some group
  | query, .date => ∃ range, query.options.date = some range
  | aggregate query, .compare => query.compare = .bool true
  | timeseries query, .interval => ∃ interval, query.interval = some interval
  | breakdown query, .property => ∃ property, query.property = some property
  | breakdown query, .limit => query.limit ≠ .null
  | breakdown query, .page => query.page ≠ .null
  | _, _ => False

/-- The metrics as one text, if any are asked for. -/
def Options.metricsText? (options : Options) : Option Text :=
  match options.metrics with
  | none | some [] => none
  | some metrics => some (Wire.listSeparator.intercalate (metrics.map Metric.text))

/-- The text of a value that counts as true. -/
def truthyText? (value : Value) : Option Text :=
  if value.truthy then some value.display else none

/-- What is sent for a parameter, if anything is. -/
def sentText? : Query → Parameter → Option Text
  | query, .period => query.options.period.map fun period => period.text
  | query, .metrics => query.options.metricsText?
  | query, .filters => query.options.filters.map Filter.Group.text
  | query, .date => query.options.date.map fun range => range.text
  | aggregate query, .compare => if query.compare.truthy then some Wire.previousPeriod else none
  | timeseries query, .interval => query.interval.map fun interval => interval.text
  | breakdown query, .property => query.property.map fun property => property.text
  | breakdown query, .limit => truthyText? query.limit
  | breakdown query, .page => truthyText? query.page
  | _, _ => none

/-- The numbers that a query holds can be written out. -/
def isWritable : Query → Bool
  | breakdown query => query.limit.isWritable && query.page.isWritable
  | _ => true

/-! ## Lists of entries -/

/-- The entries that there are, each under its name. -/
def listed (order : List Parameter) (sentText? : Parameter → Option Text) : Params :=
  order.flatMap fun p => ((sentText? p).map fun text => (p.name, text)).toList

variable {order : List Parameter} {e e' : Parameter → Option Text}

lemma mem_listed {p : Parameter} {text : Text} :
    (p.name, text) ∈ listed order e ↔ p ∈ order ∧ e p = some text := by
  simp only [listed, List.mem_flatMap, Option.mem_toList, Option.map_eq_some_iff, Prod.mk.injEq]
  constructor
  · rintro ⟨q, hq, text', htext, hname, rfl⟩
    obtain rfl := Parameter.name_injective hname
    exact ⟨hq, htext⟩
  · rintro ⟨hp, htext⟩
    exact ⟨p, hp, text, htext, rfl, rfl⟩

lemma map_fst_listed :
    (listed order e).map Prod.fst = (order.filter fun p => (e p).isSome).map Parameter.name := by
  induction order with
  | nil => rfl
  | cons p rest ih =>
    have hsplit : listed (p :: rest) e =
        ((e p).map fun text => (p.name, text)).toList ++ listed rest e := rfl
    rw [hsplit, List.map_append, ih]
    cases hentry : e p with
    | none => simp [hentry]
    | some text => simp [hentry]

lemma param_eq {α : Type} (name : String) (text : α → Text) (option : Option α) :
    param name text option = ((option.map text).map fun text => (name, text)).toList := by
  cases option <;> rfl

lemma Options.metricsParam_eq (options : Options) :
    options.metricsParam = (options.metricsText?.map fun text => (Wire.metrics, text)).toList := by
  unfold metricsParam metricsText?
  rcases options.metrics with _ | _ | ⟨metric, rest⟩ <;> rfl

lemma Aggregate.compareParam_eq (query : Aggregate) :
    query.compareParam = (((aggregate query).sentText? .compare).map
      fun text => (Wire.compare, text)).toList := by
  by_cases h : query.compare.truthy <;> simp [compareParam, sentText?, h]

lemma writtenParam_of_isWritable {name : String} {value : Value} (h : value.isWritable = true) :
    writtenParam name value = .ok ((truthyText? value).map fun text => (name, text)).toList := by
  by_cases htruthy : value.truthy <;>
    simp [writtenParam, truthyText?, Failure.written, Except.map, h, htruthy]

/-- Numbers other than zero count as true, and so do those that cannot be written out. -/
lemma writtenParam_of_not_isWritable {name : String} {value : Value} (hcount : IsCount value)
    (h : value.isWritable = false) : writtenParam name value = .error .tooManyDigits := by
  cases value with
  | int n =>
    have hpos : (1 : Int) ≤ n := hcount
    have htruthy : (Value.int n).truthy = true := by
      have hne : n ≠ 0 := by omega
      simpa [Value.truthy] using hne
    simp [writtenParam, htruthy, Failure.written, Except.map, h]
  | null => cases h
  | _ => exact hcount.elim

/-- The parameters of a query are its entries, in the order of its kind, if it can be written out.
-/
theorem params_eq_listed {query : Query} (h : query.Coherent) :
    query.params =
      if query.isWritable then .ok (listed query.kind.parameters query.sentText?)
      else .error .tooManyDigits := by
  cases query with
  | aggregate query =>
    simp [params, Aggregate.params, Options.periodParam, Options.metricsParam_eq,
      Options.filtersParam, Options.dateParam, param_eq, Aggregate.compareParam_eq, listed, kind,
      Kind.parameters, sentText?, Parameter.name, options, isWritable]
  | timeseries query =>
    simp [params, Timeseries.params, Options.periodParam, Options.metricsParam_eq,
      Options.filtersParam, Options.dateParam, param_eq, listed, kind, Kind.parameters, sentText?,
      Parameter.name, options, isWritable]
  | breakdown query =>
    obtain ⟨-, ⟨property, hproperty⟩, hlimit, hpage⟩ := h
    have hparams : (breakdown query).params = query.params := rfl
    rw [hparams, Breakdown.params, hproperty]
    cases hl : query.limit.isWritable with
    | false => simp [isWritable, hl, writtenParam_of_not_isWritable hlimit hl, Except.error_bind]
    | true =>
      cases hp : query.page.isWritable with
      | false =>
        simp [isWritable, hl, hp, writtenParam_of_isWritable hl,
          writtenParam_of_not_isWritable hpage hp, Except.ok_bind]
      | true =>
        simp [isWritable, hl, hp, writtenParam_of_isWritable, Except.ok_bind, Except.pure_eq,
          hproperty, Options.periodParam, Options.metricsParam_eq, Options.filtersParam,
          Options.dateParam, param_eq, listed, kind, Kind.parameters, sentText?, Parameter.name,
          options]

/-! ## What entries say -/

lemma Coherent.options {query : Query} (h : query.Coherent) : query.options.Coherent := by
  cases query with
  | aggregate query => exact h.1
  | timeseries query => exact h
  | breakdown query => exact h.1

/-- A count is left out only when it is not set, and otherwise its text says which it is. -/
lemma IsCount.truthyText?_eq {value : Value} (h : IsCount value) :
    (value = .null ∧ truthyText? value = none) ∨
      ∃ n : Nat, value = .int n ∧ truthyText? value = some (.ofString (toString n)) := by
  cases value with
  | null => exact .inl ⟨rfl, rfl⟩
  | int n =>
    have hpos : (1 : Int) ≤ n := h
    obtain ⟨n, rfl⟩ := Int.eq_ofNat_of_zero_le (show 0 ≤ n by omega)
    have hne : (n : Int) ≠ 0 := by omega
    have htruthy : (Value.int n).truthy = true := by simpa [Value.truthy] using hne
    have htext : (Value.int n).display = .ofString (toString n) := rfl
    refine .inr ⟨n, rfl, ?_⟩
    rw [truthyText?, if_pos htruthy, htext]
  | _ => exact h.elim

lemma map_text_inj {α : Type} [Vocabulary α] {a b : Option α}
    (h : (a.map fun word => (Vocabulary.text word : Text)) =
      b.map fun word => (Vocabulary.text word : Text)) : a = b :=
  Option.map_injective (fun _ _ h => Vocabulary.text_injective (Text.ofString_inj.mp h)) h

/-! ## Agreement -/

/-- An option is set exactly when its parameter is one of the kind and there is something to send
for it. -/
lemma sets_iff {query : Query} (h : query.Coherent) (p : Parameter) :
    query.Sets p ↔ p ∈ query.kind.parameters ∧ (query.sentText? p).isSome := by
  have hmetrics : (∃ metrics, query.options.metrics = some metrics ∧ metrics ≠ []) ↔
      query.options.metricsText?.isSome := by
    obtain ⟨metrics, hsome⟩ := h.options.metrics
    cases metrics <;> simp [hsome, Options.metricsText?]
  have hcount : ∀ value, IsCount value → (value ≠ .null ↔ (truthyText? value).isSome) := by
    intro value hvalue
    obtain ⟨rfl, hnone⟩ | ⟨n, rfl, hsome⟩ := hvalue.truthyText?_eq
    · simp [hnone]
    · simp [hsome]
  cases query with
  | aggregate query =>
    obtain ⟨-, b, hb⟩ := h
    cases p <;> cases b <;>
      simp_all [Sets, sentText?, kind, Kind.parameters, Option.isSome_iff_exists, Value.truthy]
  | timeseries query =>
    cases p <;> simp_all [Sets, sentText?, kind, Kind.parameters, Option.isSome_iff_exists]
  | breakdown query =>
    obtain ⟨-, -, hlimit, hpage⟩ := h
    cases p <;> simp_all [Sets, sentText?, kind, Kind.parameters, Option.isSome_iff_exists]

/-- What can be said of the parameters of a query without knowing it: their names follow the order
of the kind of query, none comes twice, the site is not among them, a name is there exactly when its
option is set, and days are there exactly with the custom period. -/
structure Canonical (query : Query) (params : Params) : Prop where
  ordered : (params.map Prod.fst).Sublist (query.kind.parameters.map Parameter.name)
  distinct : (params.map Prod.fst).Nodup
  site_notMem : Wire.siteId ∉ params.map Prod.fst
  mem_iff : ∀ p : Parameter, p.name ∈ params.map Prod.fst ↔ query.Sets p
  custom_iff : Wire.date ∈ params.map Prod.fst ↔ (Wire.period, (Period.custom.text : Text)) ∈ params

lemma name_mem_listed {p : Parameter} :
    p.name ∈ (listed order e).map Prod.fst ↔ p ∈ order ∧ (e p).isSome := by
  rw [map_fst_listed, List.mem_map]
  constructor
  · rintro ⟨q, hq, hname⟩
    obtain rfl := Parameter.name_injective hname
    exact List.mem_filter.mp hq
  · intro hp
    exact ⟨p, List.mem_filter.mpr hp, rfl⟩

lemma canonical_listed {query : Query} (h : query.Coherent) :
    Canonical query (listed query.kind.parameters query.sentText?) := by
  have hordered : ((listed query.kind.parameters query.sentText?).map Prod.fst).Sublist
      (query.kind.parameters.map Parameter.name) := by
    rw [map_fst_listed]
    exact List.filter_sublist.map Parameter.name
  refine ⟨hordered, query.kind.nodup_names.sublist hordered, fun hsite => ?_, fun p => ?_, ?_⟩
  · obtain ⟨p, -, hp⟩ := List.mem_map.mp (hordered.subset hsite)
    exact p.name_ne_siteId hp
  · rw [name_mem_listed, sets_iff h]
  · have hdate : Parameter.date ∈ query.kind.parameters :=
      Kind.mem_parameters.mpr (.inl (by decide))
    have hperiod : Parameter.period ∈ query.kind.parameters :=
      Kind.mem_parameters.mpr (.inl (by decide))
    have hdays : Wire.date ∈ (listed query.kind.parameters query.sentText?).map Prod.fst ↔
        query.options.date.isSome := by
      refine (name_mem_listed (p := .date)).trans ?_
      simp [hdate, sentText?]
    have hcustom : (Wire.period, (Period.custom.text : Text)) ∈
        listed query.kind.parameters query.sentText? ↔ query.options.period = some .custom := by
      refine (mem_listed (p := .period)).trans ?_
      simp only [hperiod, true_and, sentText?]
      exact ⟨fun heq => map_text_inj (b := some Period.custom) heq, fun heq => by rw [heq]; rfl⟩
    rw [hdays, hcustom, h.options.custom_iff]

/-- A query that has been read has no other parameters than its entries. -/
lemma params_eq_ok_iff {query : Query} {params : Params} (h : query.Coherent) :
    query.params = .ok params ↔
      query.isWritable ∧ listed query.kind.parameters query.sentText? = params := by
  rw [params_eq_listed h]
  cases query.isWritable <;> simp

end SiteStats.Query
