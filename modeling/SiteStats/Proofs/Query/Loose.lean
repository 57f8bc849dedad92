import SiteStats.Proofs.Common
import SiteStats.Proofs.Query.Acceptance
import SiteStats.Proofs.Text.Joined
import SiteStats.Query.Loose
import SiteStats.Query.Params

/-!
# Queries of known form among the loose ones

A query whose options hold values of their own kinds is a loose query like any other, and as such it
has the same parameters (`Loose.params_of_aggregate` and its companions): each option is looked at
in the way that its own kind can answer, so that none of them raises anything.  The exceptions are a
property that is not set, and a limit or a page that cannot be written out.
-/

namespace SiteStats.Query.Loose

/-- Parameters of texts. -/
def Params.ofTexts (params : Query.Params) : Params :=
  params.map fun param => (param.1, .text param.2)

lemma Params.ofTexts_append (params others : Query.Params) :
    ofTexts (params ++ others) = ofTexts params ++ ofTexts others :=
  List.map_append

lemma Params.mapM_ofTexts {α : Type} {form : Content → Except Raised α} {of : Text → α}
    (h : ∀ text, form (.text text) = .ok (of text)) (params : Query.Params) :
    (ofTexts params).mapM form = .ok (params.map fun param => (param.1, of param.2)) := by
  rw [Params.mapM, List.mapM_eq_ok_iff, ofTexts, List.forall₂_map_left_iff,
    List.forall₂_map_right_iff]
  refine List.forall₂_same.mpr fun param _ => ?_
  rw [h]
  rfl

/-! ## Options -/

lemma truthyParam_member {α : Type} [Vocabulary α] (name : String) (value : Option α) :
    truthyParam name Held.word (Held.orNull Held.member value) =
      .ok (.ofTexts (param name (fun value => (Vocabulary.text value : Text)) value)) := by
  cases value <;> rfl

lemma textsOf_texts (texts : List Text) (position : Nat) :
    textsOf position (texts.map Content.text) = .ok texts := by
  induction texts generalizing position with
  | nil => rfl
  | cons text texts ih =>
    rw [List.map_cons, textsOf, ih]
    rfl

lemma intercalate_ofString (separator : String) (parts : List String) :
    Text.intercalate separator (parts.map Text.ofString) = separator.intercalate parts := by
  refine Text.ext_toList ?_
  rw [Text.toList_intercalate, Text.toList_ofString, Text.toList_ofString,
    String.toList_intercalate, List.map_map]
  induction parts with
  | nil => rfl
  | cons first rest ih =>
    simp [Text.intercalate_cons, List.map_flatMap, List.flatMap_map, Function.comp_def]

lemma metricsParam_metrics (options : Query.Options) :
    metricsParam (Held.orNull Held.metrics options.metrics) =
      .ok (.ofTexts options.metricsParam) := by
  rw [Query.Options.metricsParam]
  obtain _ | _ | ⟨first, rest⟩ := options.metrics
  · rfl
  · rfl
  · -- the words are joined to a text that is not empty, as the first of them is not
    have hwords : (Held.metrics (first :: rest)).words =
        .ok ((((first :: rest).map Metric.text).map Text.ofString).map .text) := by
      rw [Held.metrics, List.map_map, List.map_map]
      rfl
    have htruth : (Held.metrics (first :: rest)).truth = .ok true := rfl
    have hfilled :
        (Wire.listSeparator.intercalate ((first :: rest).map Metric.text) : Text) ≠ "" := by
      rw [← intercalate_ofString, ← Text.toList_inj.ne, List.map_cons, List.map_cons,
        Text.toList_intercalate_cons]
      cases first <;> simp [Metric.text]
    simp only [Held.orNull, metricsParam, htruth, hwords, textsOf_texts, Except.ok_bind,
      intercalate_ofString, if_neg hfilled]
    rfl

lemma setParam_filters (options : Query.Options) :
    setParam Wire.filters Held.filter
        (Held.orNull (fun group : Filter.Group => Held.part (.node group.node)) options.filters) =
      .ok (.ofTexts options.filtersParam) := by
  rw [Query.Options.filtersParam]
  cases options.filters <;> rfl

lemma setParam_date (options : Query.Options) :
    setParam Wire.date Held.dates
        (Held.orNull (fun range : DateRange => Held.range (.ofRange range)) options.date) =
      .ok (.ofTexts options.dateParam) := by
  rw [Query.Options.dateParam]
  cases options.date <;> rfl

lemma truth_ofValue (value : Value) : (Held.ofValue value).truth = .ok value.truthy := by
  cases value with
  | part built => rcases built with values | (leaf | ⟨c, children⟩) <;> rfl
  | _ => rfl

lemma text_ofValue (value : Value) :
    (Held.ofValue value).text =
      ((Failure.written value Value.display).map Content.text).mapError .known := by
  have hswap : ∀ written : Except Failure Text,
      (written.mapError Raised.known).map Content.text =
        (written.map Content.text).mapError .known := by
    intro written
    cases written <;> rfl
  rw [← hswap]
  cases value with
  | part built => rcases built with values | (leaf | ⟨c, children⟩) <;> rfl
  | null => rfl
  | _ => simp only [Held.ofValue, Held.plain]

lemma truthyParam_text (name : String) (value : Value) :
    truthyParam name Held.text (Held.ofValue value) =
      ((writtenParam name value).map .ofTexts).mapError .known := by
  rw [truthyParam, truth_ofValue, writtenParam, text_ofValue]
  cases value.truthy with
  | false => rfl
  | true => cases Failure.written value Value.display <;> rfl

/-! ## Queries -/

lemma params_of_aggregate (query : Query.Aggregate) :
    (Aggregate.of query).params = .ok (.ofTexts query.params) := by
  have hperiod := truthyParam_member Wire.period query.options.period
  have hcompare : truthyParam Wire.compare (fun _ => .ok (.text Wire.previousPeriod))
      (Held.ofValue query.compare) = .ok (.ofTexts query.compareParam) := by
    rw [truthyParam, truth_ofValue, Query.Aggregate.compareParam]
    cases query.compare.truthy <;> rfl
  simp only [Aggregate.params, Aggregate.of, Options.of, hperiod, metricsParam_metrics, hcompare,
    setParam_filters, setParam_date, Query.Aggregate.params, Params.ofTexts_append, Except.ok_bind]
  rfl

lemma params_of_timeseries (query : Query.Timeseries) :
    (Timeseries.of query).params = .ok (.ofTexts query.params) := by
  have hperiod := truthyParam_member Wire.period query.options.period
  have hinterval := truthyParam_member Wire.interval query.interval
  simp only [Timeseries.params, Timeseries.of, Options.of, hperiod, hinterval,
    metricsParam_metrics, setParam_filters, setParam_date, Query.Timeseries.params,
    Params.ofTexts_append, Except.ok_bind]
  rfl

lemma params_of_breakdown (query : Query.Breakdown) :
    (Breakdown.of query).params = (query.params.map .ofTexts).mapError .known := by
  have hperiod := truthyParam_member Wire.period query.options.period
  rw [Query.Breakdown.params]
  cases hproperty : query.property with
  | none =>
    rw [Breakdown.params, Breakdown.of, hproperty]
    rfl
  | some property =>
    have hword : (Held.orNull Held.property (some property)).word = .ok (.text property.text) := rfl
    simp only [Breakdown.params, Breakdown.of, hproperty, hword, Options.of, hperiod,
      metricsParam_metrics, truthyParam_text, setParam_filters, setParam_date, Except.ok_bind]
    cases writtenParam Wire.limit query.limit with
    | error failure => rfl
    | ok limit =>
      cases writtenParam Wire.page query.page with
      | error failure => rfl
      | ok page =>
        simp only [Except.map, Except.mapError, Except.ok_bind, Except.pure_eq, Params.ofTexts,
          List.map_cons, List.map_append]
        rfl

end SiteStats.Query.Loose
