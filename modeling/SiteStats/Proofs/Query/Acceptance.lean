import SiteStats.Proofs.Schema.Acceptance
import SiteStats.Query.Schema

/-!
# Queries that are accepted

What the checks of queries accept.  Each of the options that all queries have is what its own field
was accepted as (`checkOptions_eq_ok_iff`), whatever the kind of the query (`options_of_read`), and
what the options of a query have to do with each other is `Coherent`.

The types of queries admit more, because an option that is set later is not looked at again; that
is why `coherent_of_read` is a theorem and no part of a type.  It asks nothing of the filters that
the value may hold already.
-/

namespace SiteStats.Query

open SiteStats.Schema

lemma checkOptions_eq_ok_iff {fields : Fields} {options : Options} :
    checkOptions fields = .ok options ↔
      Checked.defaulted "period" none (Checked.nullable (member Period)) fields =
          .ok options.period ∧
        (∃ metrics, Checked.defaulted "metrics" [] checkOptions.metrics fields = .ok metrics ∧
          options.metrics = some metrics) ∧
        Checked.defaulted "filters" none (Checked.nullable Filter.Group.check) fields =
          .ok options.filters ∧
        Checked.defaulted "date" none (Checked.nullable DateRange.check) fields =
          .ok options.date := by
  rw [checkOptions, Checked.combine_eq_ok_iff]
  constructor
  · rintro ⟨⟨period, metrics⟩, ⟨filters, date⟩, hfirst, hsecond, rfl⟩
    obtain ⟨hperiod, hmetrics⟩ := Checked.both_eq_ok_iff.mp hfirst
    obtain ⟨hfilters, hdate⟩ := Checked.both_eq_ok_iff.mp hsecond
    exact ⟨hperiod, ⟨metrics, hmetrics, rfl⟩, hfilters, hdate⟩
  · obtain ⟨period, given, filters, date⟩ := options
    rintro ⟨hperiod, ⟨metrics, hmetrics, rfl⟩, hfilters, hdate⟩
    exact ⟨(period, metrics), (filters, date), Checked.both_eq_ok_iff.mpr ⟨hperiod, hmetrics⟩,
      Checked.both_eq_ok_iff.mpr ⟨hfilters, hdate⟩, rfl⟩

/-- What obeys the rules on the period was right before, and has days exactly for a custom period.
-/
lemma obeyingPeriod_eq_ok_iff {α : Type} {options : α → Options} {checked : Checked α} {query : α} :
    obeyingPeriod options checked = .ok query ↔
      checked = .ok query ∧
        ((options query).period = some .custom ↔ (options query).date.isSome) := by
  rw [obeyingPeriod, Checked.obeying_eq_ok_iff, Checked.obeying_eq_ok_iff, and_assoc]
  refine and_congr_right fun _ => ?_
  cases hdate : (options query).date with
  | none => simp
  | some range => simp

lemma ok_of_obeyingPeriod {α : Type} {options : α → Options} {checked : Checked α} {query : α}
    (h : obeyingPeriod options checked = .ok query) : checked = .ok query :=
  (obeyingPeriod_eq_ok_iff.mp h).1

/-- A query that has been read has the common options that its fields were accepted as. -/
theorem options_of_read {kind : Kind} {value : Value} {query : Query}
    (h : read kind value = .ok query) :
    ∃ fields : Fields, value = .object fields ∧ checkOptions fields = .ok query.options := by
  have hcheck : check kind value = .ok query := Except.mapError_eq_ok_iff.mp h
  cases value with
  | object fields =>
    refine ⟨fields, rfl, ?_⟩
    cases kind with
    | aggregate =>
      obtain ⟨q, hq, rfl⟩ := Checked.map_eq_ok_iff.mp hcheck
      obtain ⟨options, _, hoptions, -, rfl⟩ := Checked.combine_eq_ok_iff.mp (ok_of_obeyingPeriod hq)
      exact hoptions
    | timeseries =>
      obtain ⟨q, hq, rfl⟩ := Checked.map_eq_ok_iff.mp hcheck
      obtain ⟨options, _, hoptions, -, rfl⟩ := Checked.combine_eq_ok_iff.mp (ok_of_obeyingPeriod hq)
      exact hoptions
    | breakdown =>
      obtain ⟨q, hq, rfl⟩ := Checked.map_eq_ok_iff.mp hcheck
      obtain ⟨⟨options, property⟩, _, hboth, -, rfl⟩ :=
        Checked.combine_eq_ok_iff.mp (ok_of_obeyingPeriod hq)
      exact (Checked.both_eq_ok_iff.mp hboth).1
  | _ => simp [check] at hcheck

/-! ## Options that fit together -/

/-- Days are given exactly for a custom period, and there is a list of metrics, even if it is empty.
-/
structure Options.Coherent (options : Options) : Prop where
  custom_iff : options.period = some .custom ↔ options.date.isSome
  metrics : ∃ metrics, options.metrics = some metrics

/-- The options of a query fit together and have the form that their names promise: comparison is a
truth value, a property is given, and limit and page are counts. -/
def Coherent : Query → Prop
  | aggregate query => query.options.Coherent ∧ ∃ b, query.compare = .bool b
  | timeseries query => query.options.Coherent
  | breakdown query =>
    query.options.Coherent ∧ (∃ property, query.property = some property) ∧ IsCount query.limit ∧
      IsCount query.page

lemma one_le_of_positiveInteger {value : Value} {n : Int} (h : positiveInteger value = .ok n) :
    1 ≤ n := by
  obtain ⟨m, -, hm⟩ := Except.bind_eq_ok_iff.mp h
  split at hm
  · simp at hm
  · obtain rfl : m = n := Except.ok.inj hm
    omega

lemma isCount_of_check {name : String} {fields : Fields} {count : Option Int}
    (h : Checked.defaulted name none (Checked.nullable positiveInteger) fields = .ok count) :
    IsCount (countValue count) := by
  rw [Checked.defaulted_eq_ok_iff] at h
  obtain ⟨-, rfl⟩ | ⟨value, -, hvalue⟩ := h
  · trivial
  · obtain ⟨-, rfl⟩ | ⟨-, n, hn, rfl⟩ := Checked.nullable_eq_ok_iff.mp hvalue
    · trivial
    · exact one_le_of_positiveInteger hn

/-- Common options that are accepted and obey the rules on the period fit together. -/
lemma Options.coherent_of_check {fields : Fields} {options : Options}
    (h : checkOptions fields = .ok options)
    (hperiod : options.period = some .custom ↔ options.date.isSome) : options.Coherent := by
  obtain ⟨-, ⟨metrics, -, hmetrics⟩, -, -⟩ := checkOptions_eq_ok_iff.mp h
  exact ⟨hperiod, metrics, hmetrics⟩

/-- **Queries.**  A query that has been read is of the kind that was asked for, and its options fit
together. -/
theorem coherent_of_read {kind : Kind} {value : Value} {query : Query}
    (h : read kind value = .ok query) : query.kind = kind ∧ query.Coherent := by
  have hcheck : check kind value = .ok query := Except.mapError_eq_ok_iff.mp h
  cases value with
  | object fields =>
    cases kind with
    | aggregate =>
      obtain ⟨q, hq, rfl⟩ := Checked.map_eq_ok_iff.mp hcheck
      obtain ⟨hok, hperiod⟩ := obeyingPeriod_eq_ok_iff.mp hq
      obtain ⟨options, b, hoptions, -, rfl⟩ := Checked.combine_eq_ok_iff.mp hok
      exact ⟨rfl, Options.coherent_of_check hoptions hperiod, b, rfl⟩
    | timeseries =>
      obtain ⟨q, hq, rfl⟩ := Checked.map_eq_ok_iff.mp hcheck
      obtain ⟨hok, hperiod⟩ := obeyingPeriod_eq_ok_iff.mp hq
      obtain ⟨options, _, hoptions, -, rfl⟩ := Checked.combine_eq_ok_iff.mp hok
      exact ⟨rfl, Options.coherent_of_check hoptions hperiod⟩
    | breakdown =>
      obtain ⟨q, hq, rfl⟩ := Checked.map_eq_ok_iff.mp hcheck
      obtain ⟨hok, hperiod⟩ := obeyingPeriod_eq_ok_iff.mp hq
      obtain ⟨⟨options, property⟩, ⟨limit, page⟩, hfirst, hsecond, rfl⟩ :=
        Checked.combine_eq_ok_iff.mp hok
      obtain ⟨hoptions, -⟩ := Checked.both_eq_ok_iff.mp hfirst
      obtain ⟨hlimit, hpage⟩ := Checked.both_eq_ok_iff.mp hsecond
      exact ⟨rfl, Options.coherent_of_check hoptions hperiod, ⟨property, rfl⟩,
        isCount_of_check hlimit, isCount_of_check hpage⟩
  | _ => simp [check] at hcheck

/-! ## Filters -/

/-- **Filters of queries.**  The filters of a query that has been read are what its field of that
name was accepted as. -/
theorem filters_of_read {kind : Kind} {value : Value} {query : Query} {g : Filter.Group}
    (h : read kind value = .ok query) (hfilters : query.options.filters = some g) :
    ∃ (fields : Fields) (filters : Value), value = .object fields ∧
      fields.lookup "filters" = some filters ∧
      Filter.Group.check filters = .ok g := by
  obtain ⟨fields, rfl, hoptions⟩ := options_of_read h
  obtain ⟨-, -, hfield, -⟩ := checkOptions_eq_ok_iff.mp hoptions
  rw [hfilters, Checked.defaulted_eq_ok_iff] at hfield
  obtain ⟨-, ⟨⟩⟩ | ⟨filters, hlookup, hcheck⟩ := hfield
  obtain ⟨-, ⟨⟩⟩ | ⟨-, group, hgroup, ⟨⟩⟩ := Checked.nullable_eq_ok_iff.mp hcheck
  exact ⟨fields, filters, rfl, hlookup, hgroup⟩

end SiteStats.Query
