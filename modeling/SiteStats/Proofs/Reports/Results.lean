import SiteStats.Proofs.Gateway.Classification
import SiteStats.Proofs.Json.Returned
import SiteStats.Proofs.Result
import SiteStats.Reports

/-!
# What reports return

Once there is a payload with results, what a report returns depends on them alone.  Items are read
in the order in which they come, and a report either returns what all of them hold or fails as the
first of them does that holds nothing, and then it is of no account what comes behind
(`Reports.results_in_order`).

Series and breakdowns go through whatever the results hold one after the other.  These are not only
the items of a list: of an object they are the names of its fields, of a text its characters.  None
of these is an object, so that an object or a text gives something only if it is empty, and then no
rows (`Reports.readable_iff`).

A payload was read from a body, so that all of it can be written out.  This is what keeps the column
of a row from being a failure of its own (`BreakdownRow.ofItem_eq_ok_iff`).
-/

namespace SiteStats

open Schema Http

/-! ## Results of exchanges -/

lemma Http.Exchange.result_noting {α : Type} (exchange : Exchange α)
    (record : Failure → Log.Record) : (exchange.noting record).result = exchange.result := by
  unfold noting
  split
  · rfl
  · rfl

namespace Reports

/-! ## Items in order -/

/-- What comes of items that are read one after the other: what they all hold, in their order, or
else the failure of the first item that is refused. -/
structure ReadInOrder {α β : Type} (Holds : α → β → Prop) (Refuses : α → Failure → Prop)
    (items : List α) (result : Except Failure (List β)) : Prop where
  rows_iff : ∀ rows, result = .ok rows ↔ List.Forall₂ Holds items rows
  failure_iff : ∀ failure, result = .error failure ↔
    ∃ before item after, items = before ++ item :: after ∧
      (∀ other ∈ before, ∃ row, Holds other row) ∧ Refuses item failure

variable {α β : Type} {Holds : α → β → Prop} {Refuses : α → Failure → Prop}
  {read : α → Except Failure β}

lemma readInOrder_mapM {items : List α}
    (hok : ∀ item ∈ items, ∀ row, read item = .ok row ↔ Holds item row)
    (herror : ∀ item ∈ items, ∀ failure, read item = .error failure ↔ Refuses item failure) :
    ReadInOrder Holds Refuses items (items.mapM read) := by
  constructor
  · intro rows
    rw [List.mapM_eq_ok_iff, List.forall₂_iff_zip, List.forall₂_iff_zip]
    refine and_congr_right fun _ => ⟨fun h item row hpair => ?_, fun h item row hpair => ?_⟩
    · exact (hok item (List.of_mem_zip hpair).1 row).mp (h hpair)
    · exact (hok item (List.of_mem_zip hpair).1 row).mpr (h hpair)
  · intro failure
    rw [List.mapM_eq_error_iff]
    refine exists_congr fun before => exists_congr fun item => exists_congr fun after => ?_
    refine and_congr_right ?_
    rintro rfl
    refine and_congr (forall₂_congr fun other hother => exists_congr fun row => ?_) ?_
    · exact hok other (List.mem_append_left _ hother) row
    · exact herror item (by simp) failure

lemma ReadInOrder.exists_rows_iff {items : List α} {result : Except Failure (List β)}
    (h : ReadInOrder Holds Refuses items result) :
    (∃ rows, result = .ok rows) ↔ ∀ item ∈ items, ∃ row, Holds item row := by
  simp only [h.rows_iff, List.exists_forall₂_iff]

/-! ## Results that hold items -/

/-- Results that hold nothing without being a list: an empty object or an empty text. -/
def NoItems (results : Value) : Prop :=
  results = .object [] ∨ results = .text ""

lemma NoItems.elements? {results : Value} (h : NoItems results) : results.elements? = some [] := by
  obtain rfl | rfl := h <;> rfl

lemma elements?_of_not_list {results : Value} (hlist : ∀ items, results ≠ .list items)
    {items : List Value} (h : results.elements? = some items) :
    (∀ item ∈ items, ∀ fields, item ≠ .object fields) ∧ (items = [] → NoItems results) := by
  cases results with
  | list items => exact absurd rfl (hlist items)
  | text t =>
    obtain rfl := Option.some.inj h
    constructor
    · simp
    · intro hempty
      rw [List.map_eq_nil_iff] at hempty
      exact .inr (congrArg Value.text (Text.ext_toList hempty))
  | object fields =>
    obtain rfl := Option.some.inj h
    constructor
    · intro item hitem
      obtain ⟨field, -, rfl⟩ := List.mem_map.mp hitem
      simp
    · intro hempty
      exact .inl (congrArg Value.object (List.map_eq_nil_iff.mp hempty))
  | _ => cases h

lemma isWritable_of_mem_elements {results : Value} (hwritable : results.isWritable)
    {items : List Value} (h : results.elements? = some items) :
    ∀ item ∈ items, item.isWritable := by
  cases results with
  | list items' =>
    obtain rfl := Option.some.inj h
    exact Value.isWritable_list.mp hwritable
  | text _ | object _ =>
    obtain rfl := Option.some.inj h
    intro item hitem
    obtain ⟨_, -, rfl⟩ := List.mem_map.mp hitem
    rfl
  | _ => cases h

/-- If only objects are good, a value whose items are all good is a list, or it has none. -/
lemma readable_iff {Good : Value → Prop}
    (hgood : ∀ item, Good item → ∃ fields, item = .object fields) {results : Value} :
    (∃ items, results.elements? = some items ∧ ∀ item ∈ items, Good item) ↔
      NoItems results ∨ ∃ items, results = .list items ∧ ∀ item ∈ items, Good item := by
  constructor
  · rintro ⟨items, helements, hitems⟩
    by_cases hlist : ∀ items, results ≠ .list items
    · obtain ⟨hother, hnone⟩ := elements?_of_not_list hlist helements
      refine .inl (hnone (List.eq_nil_iff_forall_not_mem.mpr fun item hitem => ?_))
      obtain ⟨fields, hfields⟩ := hgood item (hitems item hitem)
      exact hother item hitem fields hfields
    · push Not at hlist
      obtain ⟨items', rfl⟩ := hlist
      obtain rfl : items' = items := Option.some.inj helements
      exact .inr ⟨items', rfl, hitems⟩
  · rintro (hnone | ⟨items, rfl, hitems⟩)
    · exact ⟨[], hnone.elements?, by simp⟩
    · exact ⟨items, rfl, hitems⟩

/-- What comes of results that are gone through one by one. -/
structure ListRead (Holds : Value → β → Prop) (Refuses : Value → Failure → Prop)
    (Good : Value → Prop)
    (results : Value) (result : Except Failure (List β)) : Prop where
  returns_iff : (∃ rows, result = .ok rows) ↔
    NoItems results ∨ ∃ items, results = .list items ∧ ∀ item ∈ items, Good item
  nothing : NoItems results → result = .ok []
  inOrder : ∀ items, results = .list items → ReadInOrder Holds Refuses items result

lemma listRead {read : Value → Except Failure β} {Holds : Value → β → Prop}
    {Refuses : Value → Failure → Prop} {Good : Value → Prop}
    (hok : ∀ item : Value, item.isWritable → ∀ row, read item = .ok row ↔ Holds item row)
    (herror : ∀ item : Value, item.isWritable → ∀ failure,
      read item = .error failure ↔ Refuses item failure)
    (hgood : ∀ item, (∃ row, Holds item row) ↔ Good item)
    (hobject : ∀ item, Good item → ∃ fields, item = .object fields) {results : Value}
    (hwritable : results.isWritable) :
    ListRead Holds Refuses Good results ((itemsOf results).bind fun items => items.mapM read) := by
  have hread : ∀ items, results.elements? = some items →
      ReadInOrder Holds Refuses items (items.mapM read) := fun items helements =>
    have heach := isWritable_of_mem_elements hwritable helements
    readInOrder_mapM (fun item hitem => hok item (heach item hitem))
      fun item hitem => herror item (heach item hitem)
  have hitems : ∀ items, results.elements? = some items →
      ((itemsOf results).bind fun items => items.mapM read) = items.mapM read := by
    intro items h
    simp only [itemsOf, h]
    rfl
  refine ⟨?_, fun hnone => ?_, ?_⟩
  -- what is gone through need not be a list, so that this is about `elements?` first
  · rw [← readable_iff hobject]
    cases h : results.elements? with
    | none => simp [itemsOf, h, Except.bind]
    | some items =>
      rw [hitems items h, (hread items h).exists_rows_iff]
      simp [hgood]
  · rw [hitems [] hnone.elements?]
    rfl
  · rintro items rfl
    rw [hitems items rfl]
    exact hread items rfl

/-! ## Results that hold totals -/

/-- The totals of an object, each under the name of its field. -/
lemma readInOrder_totals (fields : Fields) :
    ReadInOrder (fun field total => total.1 = field.1 ∧ TotalOf field.2 total.2)
      (fun field => Refused "get" Total.title (fun _ => none) Total.issuesOf field.2) fields
      (fields.mapM fun (metric, item) => do return (metric, ← Total.ofItem item)) := by
  refine readInOrder_mapM (fun ⟨name, item⟩ _ total => ?_) fun ⟨name, item⟩ _ failure => ?_
  · show (Total.ofItem item >>= fun found => pure (name, found)) = .ok total ↔ _
    rw [← Total.ofItem_eq_ok_iff]
    cases Total.ofItem item with
    | error failure => simp
    | ok found => simp [Except.ok_bind, Except.pure_eq, Prod.ext_iff, eq_comm]
  · show (Total.ofItem item >>= fun found => pure (name, found)) = .error failure ↔ _
    rw [← Total.ofItem_eq_error_iff]
    cases Total.ofItem item with
    | error found => simp
    | ok found => simp [Except.ok_bind, Except.pure_eq]

/-- What comes of results that hold totals. -/
structure TotalsRead (results : Value) (result : Except Failure (List (Text × Total))) : Prop where
  returns_iff : (∃ totals, result = .ok totals) ↔
    ∃ fields : Fields, results = .object fields ∧ ∀ field ∈ fields, IsTotal field.2
  inOrder : ∀ fields, results = .object fields →
    ReadInOrder (fun field total => total.1 = field.1 ∧ TotalOf field.2 total.2)
      (fun field => Refused "get" Total.title (fun _ => none) Total.issuesOf field.2) fields result

lemma totalsRead (results : Value) :
    TotalsRead results ((results.fieldsVia "items").bind fun fields =>
      fields.mapM fun (metric, item) => do return (metric, ← Total.ofItem item)) := by
  have htotal : ∀ field : Text × Value,
      (∃ total : Text × Total, total.1 = field.1 ∧ TotalOf field.2 total.2) ↔ IsTotal field.2 := by
    intro field
    rw [← exists_totalOf_iff]
    exact ⟨fun ⟨total, _, h⟩ => ⟨total.2, h⟩, fun ⟨total, h⟩ => ⟨(field.1, total), rfl, h⟩⟩
  constructor
  · cases results with
    | object fields =>
      show (∃ totals, (fields.mapM fun (metric, item) => do return (metric, ← Total.ofItem item)) =
        .ok totals) ↔ _
      rw [(readInOrder_totals fields).exists_rows_iff]
      simp [htotal]
    | _ => simp [Value.fieldsVia, Except.bind]
  · rintro fields rfl
    exact readInOrder_totals fields

/-! ## The three reports -/

variable {payload results : Value}

lemma resultsOf_eq_ok (h : payload.field? Wire.results = some results) :
    resultsOf payload = .ok results := by
  rw [resultsOf, h]

lemma isWritable_of_field? {name : Text} (hwritable : payload.isWritable)
    (h : payload.field? name = some results) : results.isWritable := by
  obtain ⟨fields, rfl⟩ := Value.field?_isSome (Option.isSome_of_eq_some h)
  obtain ⟨before, after, rfl, -⟩ := List.lookup_eq_some_iff.mp h
  exact Value.isWritable_object.mp hwritable (name, results) (by simp)

section

variable [Json.Room]

/-- A question with these parameters is answered by this payload. -/
def Answered (config : Config) (transport : Transport) (path : String) (params : Query.Params)
    (payload : Value) : Prop :=
  (Gateway.get config transport path (Gateway.rawParams params)).result = .ok payload

variable {config : Config} {transport : Transport}

lemma result_ask {γ : Type} {path : String} {params : Query.Params}
    {read : Value → Except Failure γ} (h : Answered config transport path params payload) :
    (ask config transport path (.ok params) read).result = read payload := by
  show (Gateway.get config transport path (Gateway.rawParams params)).result.bind read = _
  rw [h]
  rfl

/-- A payload was read from a body, and so can be written out. -/
lemma Answered.isWritable {path : String} {params : Query.Params}
    (h : Answered config transport path params payload) : payload.isWritable := by
  cases hsent : (Gateway.get config transport path (Gateway.rawParams params)).request with
  | none =>
    obtain ⟨failure, hfailure⟩ := Gateway.result_get_of_not_sent hsent
    cases hfailure.symm.trans h
  | some request =>
    have hresult := (Gateway.result_get_of_sent hsent).symm.trans h
    rw [Gateway.resultOf_eq] at hresult
    obtain ⟨⟨response, body⟩, -, hclassified⟩ := Except.bind_eq_ok_iff.mp hresult
    exact (Json.readable_of_readBody (Gateway.readBody_of_classify hclassified)).isWritable

/-- **Nothing is lost from results.**  A series or a breakdown returns exactly when the results are
a list of items that all hold a point or a row, or are an empty object or text; totals are returned
exactly when the results are an object whose fields all hold one.  What is returned is what the
items hold, one for one and in their order.  If one of them is refused, the report fails as the
first of these does, whatever comes behind it. -/
theorem results_in_order (config : Config) (transport : Transport)
    (hresults : payload.field? Wire.results = some results) :
    (∀ query : Query.Timeseries,
      Answered config transport Wire.timeseriesPath query.params payload →
      ListRead PointOf (Refused "items" Datapoint.title Datapoint.lacks Datapoint.issuesOf) IsPoint
        results (timeseries config transport query).result) ∧
    (∀ (query : Query.Breakdown) (property : Property) (params : Query.Params),
      query.property = some property → query.params = .ok params →
      Answered config transport Wire.breakdownPath params payload →
      ListRead (RowOf property)
        (Refused "get" BreakdownRow.title (fun _ => none) (BreakdownRow.issuesOf property))
        (IsRow property) results (breakdown config transport query).result) ∧
    (∀ query : Query.Aggregate, Answered config transport Wire.aggregatePath query.params payload →
      TotalsRead results (aggregate config transport query).result) := by
  refine ⟨fun query hanswered => ?_, fun query property params hproperty hparams hanswered => ?_,
    fun query hanswered => ?_⟩
  · have hread : (timeseries config transport query).result =
        (itemsOf results).bind fun items => items.mapM Datapoint.ofItem := by
      rw [timeseries, Exchange.result_noting, result_ask hanswered, seriesOf,
        resultsOf_eq_ok hresults]
      rfl
    rw [hread]
    exact listRead (fun _ _ _ => Datapoint.ofItem_eq_ok_iff)
      (fun _ _ _ => Datapoint.ofItem_eq_error_iff) (fun _ => exists_pointOf_iff)
      (fun _ hgood => ⟨hgood.choose, hgood.choose_spec.1⟩)
      (isWritable_of_field? hanswered.isWritable hresults)
  · have hread : (breakdown config transport query).result =
        (itemsOf results).bind fun items => items.mapM (BreakdownRow.ofItem property) := by
      simp only [breakdown, hproperty, hparams]
      rw [Exchange.result_noting, result_ask hanswered, rowsOf, resultsOf_eq_ok hresults]
      rfl
    rw [hread]
    exact listRead (fun _ hitem _ => BreakdownRow.ofItem_eq_ok_iff hitem)
      (fun _ hitem _ => BreakdownRow.ofItem_eq_error_iff hitem) (fun _ => exists_rowOf_iff)
      (fun _ hgood => ⟨hgood.choose, hgood.choose_spec.1⟩)
      (isWritable_of_field? hanswered.isWritable hresults)
  · have hread : (aggregate config transport query).result =
        (results.fieldsVia "items").bind fun fields =>
          fields.mapM fun (metric, item) => do return (metric, ← Total.ofItem item) := by
      rw [aggregate, Exchange.result_noting, result_ask hanswered, totalsOf,
        resultsOf_eq_ok hresults]
      rfl
    rw [hread]
    exact totalsRead results

/-- At the default address a question is answered with what is read from the body of a success, if
that does not complain. -/
lemma answered_at_default {path : String} {pairs : List (String × String)} {body : List UInt8}
    (hpath : path ∈ Gateway.paths)
    (distinct : ((pairs ++ [(Wire.siteId, "site")]).map Prod.fst).Nodup)
    (length : (Form.encode (pairs ++ [(Wire.siteId, "site")])).length ≤ UrlParts.maxLength)
    (hbody : Json.readBody body = .ok payload) (herror : Gateway.errorOf? payload = none) :
    Answered ⟨"key", "site", Config.defaultBaseUrl, 30⟩ (fun _ => .response ⟨200, [], body⟩) path
      (Gateway.texts pairs) payload := by
  obtain ⟨request, hsent, hdelivered⟩ := Gateway.sent_and_delivered hpath distinct length 200 body
  have hsucceeded : Gateway.Succeeded ⟨200, [], body⟩ :=
    show (200 : Int) ≤ 200 ∧ (200 : Int) ≤ 299 by decide
  exact Gateway.result_get_of_payload hsent hdelivered hbody herror hsucceeded

end

/-- Two items that are rows by page, but no points for lack of a date. -/
theorem results_in_order_of_pages :
    let _room : Json.Room := ⟨900⟩
    let config : Config := ⟨"key", "site", Config.defaultBaseUrl, 30⟩
    let text :=
      "\x7b\"results\":[\x7b\"page\":\"/\",\"visitors\":\"12\"\x7d,\x7b\"page\":\"\"\x7d]\x7d"
    let body := text.toList.map (·.toNat.toUInt8)
    let transport : Transport := fun _ => .response ⟨200, [], body⟩
    let options : Query.Options := ⟨none, none, none, none⟩
    (∃ x, double (.text "12") = .ok x ∧
      (breakdown config transport ⟨options, some .page, .null, .null⟩).result =
        .ok [⟨"page", some (.ofString "/"), [("visitors", some x)]⟩,
          ⟨"page", some (.ofString ""), []⟩]) ∧
    (timeseries config transport ⟨options, none⟩).result = .error (.missingKey "date") ∧
    ¬ ∃ totals, (aggregate config transport ⟨options, .null⟩).result = .ok totals := by
  intro _room config text body transport options
  let items : List Value := [.object [("page", .text "/"), ("visitors", .text "12")],
    .object [("page", .text "")]]
  have hread : Json.readBody body = .ok (.object [("results", .list items)]) := by
    have hitems : ∀ item ∈ items, Json.Spells item (Json.write item) := by
      simp only [items, List.forall_mem_cons]
      refine ⟨Json.spells_write_object (by decide) ?_, Json.spells_write_object (by decide) ?_,
        by simp⟩
      · simp [Json.spells_write_text]
      · simp [Json.spells_write_text]
    have hfields : Json.SpellsFields [("results", .list items)] _ :=
      Json.spellsFields_write (by simp) (by simpa using Json.spells_write_list hitems)
    refine Json.readBody_eq_object_iff.mpr ⟨[("results", .list items)], ?_, rfl⟩
    exact Json.bodyMembers_of_spells rfl (by decide +kernel) (by decide +kernel) (by decide +kernel)
      (by decide +kernel) hfields
  obtain ⟨x, hx⟩ : ∃ x, double (.text "12") = .ok x := by
    obtain ⟨x, hx⟩ := Option.isSome_iff_exists.mp
      (show (doubleOfText? "12".toList).isSome by decide +kernel)
    exact ⟨x, by simp only [double, whole_ofString, hx]⟩
  have hresults : (Value.object [("results", .list items)]).field? Wire.results =
      some (.list items) :=
    rfl
  obtain ⟨hseries, hrows, htotals⟩ := results_in_order config transport hresults
  refine ⟨⟨x, hx, ?_⟩, ?_, ?_⟩
  · have hanswered := @answered_at_default _ _ Wire.breakdownPath [("property", "event:page")] body
      (by simp [Gateway.paths]) (by decide) (by decide +kernel) hread rfl
    refine (((hrows _ .page _ rfl rfl hanswered).inOrder items rfl).rows_iff _).mpr
      (.cons (.intro (.text "/") ?_) (.cons (.intro (.text "") ?_) .nil))
    · exact .cons ⟨rfl, .number hx⟩ .nil
    · exact .nil
  · have hanswered := @answered_at_default _ _ Wire.timeseriesPath [] body
      (by simp [Gateway.paths]) (by decide) (by decide +kernel) hread rfl
    refine (((hseries ⟨options, none⟩ hanswered).inOrder items rfl).failure_iff _).mpr
      ⟨[], _, _, rfl, by simp, .missing rfl⟩
  · have hanswered := @answered_at_default _ _ Wire.aggregatePath [] body
      (by simp [Gateway.paths]) (by decide) (by decide +kernel) hread rfl
    rw [(htotals ⟨options, .null⟩ hanswered).returns_iff]
    rintro ⟨fields, hfields, -⟩
    cases hfields

end Reports

end SiteStats
