import SiteStats.Proofs.Schema.Acceptance
import SiteStats.Proofs.Schema.Issues
import SiteStats.Result

/-!
# What items hold

The items of a response are read one by one, and each kind of them is read in the same way
(`Value.readVia`): it has to be an object, some field may have to be there, and then its parts are
checked side by side.  So an item holds something in one way only and is refused in one of three,
the last of them with all that is wrong with its fields (`Refused`).

For each of the three kinds, what an item holds is said here without the checks (`PointOf`, `RowOf`,
`TotalOf`), and so is which items hold anything at all (`IsPoint`, `IsRow`, `IsTotal`).  In a point
and a row nothing gets lost: whatever is not the date or the property is a number under its own
name, and at its own place.
-/

namespace SiteStats

open Schema

/-! ## Numbers -/

/-- The number that a value is taken for: none for null, and otherwise the double that it counts as.
-/
inductive MeasureOf : Value → Option Float → Prop
  | null : MeasureOf .null none
  | number {value : Value} {x : Float} (h : double value = .ok x) : MeasureOf value (some x)

/-- A value that is taken for a number or for none. -/
def Value.IsMeasure (value : Value) : Prop :=
  value = .null ∨ ∃ x, double value = .ok x

lemma exists_measureOf_iff {value : Value} :
    (∃ number, MeasureOf value number) ↔ value.IsMeasure := by
  constructor
  · rintro ⟨_, _ | h⟩
    · exact .inl rfl
    · exact .inr ⟨_, h⟩
  · rintro (rfl | ⟨x, h⟩)
    · exact ⟨_, .null⟩
    · exact ⟨_, .number h⟩

/-- Fields and the numbers that they are taken for, under the same names and in the same order. -/
def MeasuresOf (fields : Fields) (measures : Measures) : Prop :=
  List.Forall₂ (fun field measure => measure.1 = field.1 ∧ MeasureOf field.2 measure.2)
    fields measures

lemma exists_measuresOf_iff {fields : Fields} :
    (∃ measures, MeasuresOf fields measures) ↔ ∀ field ∈ fields, field.2.IsMeasure := by
  simp only [MeasuresOf, List.exists_forall₂_iff]
  refine forall₂_congr fun field _ => ?_
  rw [← exists_measureOf_iff]
  exact ⟨fun ⟨measure, _, h⟩ => ⟨measure.2, h⟩, fun ⟨number, h⟩ => ⟨(field.1, number), rfl, h⟩⟩

lemma Fields.mem_without {name : Text} {fields : Fields} {field : Text × Value} :
    field ∈ without name fields ↔ field ∈ fields ∧ field.1 ≠ name := by
  simp [without]

namespace Measures

lemma check_eq_ok_iff {value : Value} {number : Option Float} :
    Measures.check value = .ok number ↔ MeasureOf value number := by
  rw [Measures.check, Checked.nullable_eq_ok_iff]
  constructor
  · rintro (⟨rfl, rfl⟩ | ⟨-, x, h, rfl⟩)
    · exact .null
    · exact .number h
  · rintro (_ | h)
    · exact .inl ⟨rfl, rfl⟩
    · refine .inr ⟨?_, _, h, rfl⟩
      rintro rfl
      exact absurd h Checked.flaw_ne_ok

lemma check_explained (value : Value) : (Measures.check value).Explained :=
  (double_explained value).nullable

lemma ofFields_eq_ok_iff {fields : Fields} {measures : Measures} :
    ofFields fields = .ok measures ↔ MeasuresOf fields measures := by
  induction fields generalizing measures with
  | nil => simp [ofFields, MeasuresOf, eq_comm]
  | cons field rest ih =>
    rw [ofFields, Checked.combine_eq_ok_iff, MeasuresOf, List.forall₂_cons_left_iff]
    simp only [Checked.under_eq_ok_iff, check_eq_ok_iff, ih]
    constructor
    · rintro ⟨number, others, hnumber, hothers, rfl⟩
      exact ⟨(field.1, number), others, ⟨rfl, hnumber⟩, hothers, rfl⟩
    · rintro ⟨measure, others, ⟨hname, hnumber⟩, hothers, rfl⟩
      exact ⟨measure.2, others, hnumber, hothers, by rw [← hname]⟩

/-- What is wrong with the fields that are no numbers. -/
def issuesOf (fields : Fields) : List Issue :=
  fields.flatMap fun field =>
    (Measures.check field.2).issues.map (Issue.under (.field field.1.lossy))

lemma ofFields_explained (fields : Fields) : (ofFields fields).Explained := by
  induction fields with
  | nil => exact Checked.explained_ok []
  | cons field rest ih => exact ((check_explained field.2).under _).combine ih _

lemma issues_ofFields (fields : Fields) : (ofFields fields).issues = issuesOf fields := by
  induction fields with
  | nil => rfl
  | cons field rest ih =>
    rw [ofFields, Checked.issues_combine ((check_explained _).under _) (ofFields_explained rest),
      ih, Checked.issues_under, issuesOf, issuesOf, List.flatMap_cons]

end Measures

/-! ## Items -/

/-- Reads an object: the named access to it fails for any other value, some field may be missing,
and the fields are checked. -/
def Value.readVia {α : Type} (access title : String) (lacks : Fields → Option String)
    (check : Fields → Checked α) (item : Value) : Except Failure α := do
  let fields ← item.fieldsVia access
  match lacks fields with
  | some name => .error (.missingKey name)
  | none => (check fields).titled title

/-- How an item is refused: it is no object, or a field is missing, or something is wrong with its
fields, and then all of that is said. -/
inductive Refused (access title : String) (lacks : Fields → Option String)
    (issuesOf : Fields → List Issue) : Value → Failure → Prop
  | noObject {item : Value} (h : ∀ fields, item ≠ .object fields) :
    Refused access title lacks issuesOf item (.noAttribute item.kind access)
  | missing {fields : Fields} {name : String} (h : lacks fields = some name) :
    Refused access title lacks issuesOf (.object fields) (.missingKey name)
  | flawed {fields : Fields} (h : lacks fields = none) (hissues : issuesOf fields ≠ []) :
    Refused access title lacks issuesOf (.object fields) (.invalid title (issuesOf fields))

section Reading

variable {α : Type} {access title : String} {lacks : Fields → Option String}
  {check : Fields → Checked α}
  {item : Value}

lemma titled_eq_error_iff {checked : Checked α} (h : checked.Explained) {failure : Failure} :
    checked.titled title = .error failure ↔
      checked.issues ≠ [] ∧ failure = .invalid title checked.issues := by
  cases hchecked : checked with
  | ok a => simp [Checked.titled, Except.mapError, Checked.issues]
  | error rejection =>
    obtain ⟨hissues, rfl⟩ := (Checked.eq_error_iff_of_explained h).mp hchecked
    rw [← hchecked]
    have htitled : checked.titled title = .error (.invalid title checked.issues) := by
      rw [hchecked]
      rfl
    rw [htitled, Except.error.injEq, eq_comm]
    exact ⟨fun heq => ⟨hissues, heq⟩, And.right⟩

lemma Value.readVia_object {fields : Fields} (h : lacks fields = none) :
    (Value.object fields).readVia access title lacks check = (check fields).titled title := by
  simp only [readVia, fieldsVia, Except.ok_bind, h]

lemma Value.readVia_object_of_lacks {fields : Fields} {name : String}
    (h : lacks fields = some name) :
    (Value.object fields).readVia access title lacks check = .error (.missingKey name) := by
  simp only [readVia, fieldsVia, Except.ok_bind, h]

/-- An item that is read is an object with fields in which nothing is missing or wrong. -/
lemma Value.readVia_eq_ok_iff {row : α} :
    item.readVia access title lacks check = .ok row ↔
      ∃ fields, item = .object fields ∧ lacks fields = none ∧ check fields = .ok row := by
  have hobject : ∀ fields, (Value.object fields).readVia access title lacks check = .ok row ↔
      lacks fields = none ∧ check fields = .ok row := by
    intro fields
    cases h : lacks fields with
    | some name => simp [readVia_object_of_lacks h]
    | none => simp [readVia_object h, Checked.titled, Except.mapError_eq_ok_iff]
  constructor
  · intro h
    cases item with
    | object fields => exact ⟨fields, rfl, (hobject fields).mp h⟩
    | _ => cases h
  · rintro ⟨fields, rfl, h⟩
    exact (hobject fields).mpr h

lemma Value.readVia_eq_error_iff (h : ∀ fields, (check fields).Explained) {failure : Failure} :
    item.readVia access title lacks check = .error failure ↔
      Refused access title lacks (fun fields => (check fields).issues) item failure := by
  have hobject : ∀ fields, (Value.object fields).readVia access title lacks check = .error failure ↔
      (∃ name, lacks fields = some name ∧ failure = .missingKey name) ∨
        lacks fields = none ∧ (check fields).issues ≠ [] ∧
          failure = .invalid title (check fields).issues := by
    intro fields
    cases hlacks : lacks fields with
    | some name => simpa [readVia_object_of_lacks hlacks] using eq_comm
    | none => simp [readVia_object hlacks, titled_eq_error_iff (h fields)]
  have hother : (∀ fields, item ≠ .object fields) →
      item.readVia access title lacks check = .error (.noAttribute item.kind access) := by
    intro hne
    cases item with
    | object fields => exact absurd rfl (hne fields)
    | _ => rfl
  constructor
  · intro hread
    by_cases hne : ∀ fields, item ≠ .object fields
    · rw [hother hne] at hread
      cases hread
      exact .noObject hne
    · push Not at hne
      obtain ⟨fields, rfl⟩ := hne
      obtain ⟨name, hname, rfl⟩ | ⟨hnone, hissues, rfl⟩ := (hobject fields).mp hread
      · exact .missing hname
      · exact .flawed hnone hissues
  · rintro (hne | hname | ⟨hnone, hissues⟩)
    · exact hother hne
    · exact (hobject _).mpr (.inl ⟨_, hname, rfl⟩)
    · exact (hobject _).mpr (.inr ⟨hnone, hissues, rfl⟩)

end Reading

/-! ## Points of a series -/

/-- What an item holds as a point: its date, and a number for each other field. -/
inductive PointOf : Value → Datapoint → Prop
  | intro {fields : Fields} {date : Text} {metrics : Measures}
    (hdate : fields.lookup Wire.date = some (.text date))
    (hmetrics : MeasuresOf (Fields.without Wire.date fields) metrics) :
    PointOf (.object fields) ⟨date, metrics⟩

/-- An item that holds a point: an object with a text as its date and only numbers and nulls
besides. -/
def IsPoint (item : Value) : Prop :=
  ∃ fields : Fields, item = .object fields ∧
    (∃ date, fields.lookup Wire.date = some (.text date)) ∧
    ∀ field ∈ fields, field.1 ≠ Wire.date → field.2.IsMeasure

lemma exists_measuresOf_without_iff {name : Text} {fields : Fields} :
    (∃ metrics, MeasuresOf (Fields.without name fields) metrics) ↔
      ∀ field ∈ fields, field.1 ≠ name → field.2.IsMeasure := by
  simp only [exists_measuresOf_iff, Fields.mem_without, and_imp]

lemma exists_pointOf_iff {item : Value} : (∃ point, PointOf item point) ↔ IsPoint item := by
  constructor
  · rintro ⟨_, ⟨hdate, hmetrics⟩⟩
    exact ⟨_, rfl, ⟨_, hdate⟩, exists_measuresOf_without_iff.mp ⟨_, hmetrics⟩⟩
  · rintro ⟨fields, rfl, ⟨date, hdate⟩, hothers⟩
    obtain ⟨metrics, hmetrics⟩ := exists_measuresOf_without_iff.mpr hothers
    exact ⟨_, .intro hdate hmetrics⟩

namespace Datapoint

/-- The field that a point cannot do without. -/
def lacks (fields : Fields) : Option String :=
  if (fields.lookup Wire.date).isNone then some Wire.date else none

/-- The parts of a point. -/
def check (fields : Fields) : Checked Datapoint :=
  (Checked.required Wire.date text fields).combine Datapoint.mk
    ((Measures.ofFields (Fields.without Wire.date fields)).under (.field "metrics"))

/-- What is wrong with the fields of a point. -/
def issuesOf (fields : Fields) : List Issue :=
  (Checked.required Wire.date text fields).issues ++
    (Measures.issuesOf (Fields.without Wire.date fields)).map (Issue.under (.field "metrics"))

lemma ofItem_eq (item : Value) : ofItem item = item.readVia "items" title lacks check := by
  cases item with
  | object fields =>
    simp only [ofItem, Value.readVia, Value.fieldsVia, Except.ok_bind, lacks, check,
      Checked.required]
    cases Fields.lookup fields Wire.date <;> rfl
  | _ => rfl

lemma required_text_explained (name : String) (fields : Fields) :
    (Checked.required name text fields).Explained :=
  .required fun value _ => text_explained value

theorem ofItem_eq_ok_iff {item : Value} {point : Datapoint} :
    ofItem item = .ok point ↔ PointOf item point := by
  simp only [ofItem_eq, Value.readVia_eq_ok_iff, check, Checked.combine_eq_ok_iff,
    Checked.required_eq_ok_iff, text_eq_ok_iff, Checked.under_eq_ok_iff,
    Measures.ofFields_eq_ok_iff]
  constructor
  · rintro ⟨fields, rfl, -, date, metrics, ⟨_, hdate, rfl⟩, hmetrics, rfl⟩
    exact .intro hdate hmetrics
  · rintro ⟨hdate, hmetrics⟩
    exact ⟨_, rfl, by simp [lacks, hdate], _, _, ⟨_, hdate, rfl⟩, hmetrics, rfl⟩

theorem ofItem_eq_error_iff {item : Value} {failure : Failure} :
    ofItem item = .error failure ↔ Refused "items" title lacks issuesOf item failure := by
  have hmetrics : ∀ fields, ((Measures.ofFields fields).under (.field "metrics")).Explained :=
    fun fields => (Measures.ofFields_explained fields).under _
  have hissues : (fun fields => (check fields).issues) = issuesOf := by
    funext fields
    rw [check, Checked.issues_combine (required_text_explained _ _) (hmetrics _),
      Checked.issues_under, Measures.issues_ofFields, issuesOf]
  rw [ofItem_eq, Value.readVia_eq_error_iff, hissues]
  exact fun fields => (required_text_explained _ _).combine (hmetrics _) _

end Datapoint

/-! ## Rows of a breakdown -/

/-- What stands in a column: nothing if the field is missing or null, a text as it is, and any other
value as it is put into running text. -/
inductive ColumnOf : Option Value → Option Text → Prop
  | missing : ColumnOf none none
  | null : ColumnOf (some .null) none
  | text (column : Text) : ColumnOf (some (.text column)) (some column)
  | other {value : Value} (hnull : value ≠ .null) (htext : ∀ column, value ≠ .text column) :
    ColumnOf (some value) (some value.display)

/-- The text of a column. -/
def columnText : Option Value → Option Text
  | none | some .null => none
  | some value => some value.display

lemma columnOf_iff {value : Option Value} {column : Option Text} :
    ColumnOf value column ↔ columnText value = column := by
  constructor
  · rintro (_ | _ | _ | ⟨hnull, -⟩)
    · rfl
    · rfl
    · rfl
    · rw [columnText]
      exact hnull
  · rintro rfl
    cases value with
    | none => exact .missing
    | some value =>
      cases value with
      | null => exact .null
      | text column => exact .text column
      | _ => exact .other (by rintro ⟨⟩) (by rintro _ ⟨⟩)

/-- What stands in a column is found unless it cannot be written out. -/
lemma valueOf_eq {value : Option Value} (h : ∀ held, value = some held → held.isWritable) :
    BreakdownRow.valueOf value = .ok (columnText value) := by
  cases value with
  | none => rfl
  | some value =>
    have hwritten : Failure.written value Value.display = .ok value.display := if_pos (h value rfl)
    cases value with
    | null => rfl
    | _ => simp only [BreakdownRow.valueOf, columnText, hwritten, Except.map]

/-- What an item holds as a row of a breakdown by a property: what stands in the column of the
property, and a number for each other field. -/
inductive RowOf (property : Property) : Value → BreakdownRow → Prop
  | intro {fields : Fields} {column : Option Text} {metrics : Measures}
    (hcolumn : ColumnOf (fields.lookup property.key) column)
    (hmetrics : MeasuresOf (Fields.without property.key fields) metrics) :
    RowOf property (.object fields) ⟨property.key, column, metrics⟩

/-- An item that holds a row: an object with only numbers and nulls besides the property. -/
def IsRow (property : Property) (item : Value) : Prop :=
  ∃ fields : Fields, item = .object fields ∧
    ∀ field ∈ fields, field.1 ≠ property.key → field.2.IsMeasure

lemma exists_rowOf_iff {property : Property} {item : Value} :
    (∃ row, RowOf property item row) ↔ IsRow property item := by
  constructor
  · rintro ⟨_, ⟨-, hmetrics⟩⟩
    exact ⟨_, rfl, exists_measuresOf_without_iff.mp ⟨_, hmetrics⟩⟩
  · rintro ⟨fields, rfl, hothers⟩
    obtain ⟨metrics, hmetrics⟩ := exists_measuresOf_without_iff.mpr hothers
    exact ⟨_, .intro (columnOf_iff.mpr rfl) hmetrics⟩

namespace BreakdownRow

variable {property : Property} {item : Value}

/-- The parts of a row. -/
def check (property : Property) (fields : Fields) : Checked BreakdownRow :=
  ((Measures.ofFields (Fields.without property.key fields)).under (.field "metrics")).map
    (BreakdownRow.mk property.key (columnText (fields.lookup property.key)))

/-- What is wrong with the fields of a row. -/
def issuesOf (property : Property) (fields : Fields) : List Issue :=
  (Measures.issuesOf (Fields.without property.key fields)).map (Issue.under (.field "metrics"))

lemma ofItem_eq (h : item.isWritable) :
    ofItem property item = item.readVia "get" title (fun _ => none) (check property) := by
  cases item with
  | object fields =>
    have hheld : ∀ held, Fields.lookup fields property.key = some held → held.isWritable := by
      intro held hlookup
      obtain ⟨before, after, rfl, -⟩ := List.lookup_eq_some_iff.mp hlookup
      exact Value.isWritable_object.mp h ((property.key : Text), held) (by simp)
    have hcolumn := valueOf_eq hheld
    simp only [ofItem, Value.readVia, Value.fieldsVia, Except.ok_bind, check, hcolumn]
  | _ => rfl

theorem ofItem_eq_ok_iff {row : BreakdownRow} (h : item.isWritable) :
    ofItem property item = .ok row ↔ RowOf property item row := by
  simp only [ofItem_eq h, Value.readVia_eq_ok_iff, check, Checked.map_eq_ok_iff,
    Checked.under_eq_ok_iff, Measures.ofFields_eq_ok_iff]
  constructor
  · rintro ⟨fields, rfl, -, metrics, hmetrics, rfl⟩
    exact .intro (columnOf_iff.mpr rfl) hmetrics
  · rintro ⟨hcolumn, hmetrics⟩
    exact ⟨_, rfl, trivial, _, hmetrics, by rw [columnOf_iff.mp hcolumn]⟩

theorem ofItem_eq_error_iff {failure : Failure} (h : item.isWritable) :
    ofItem property item = .error failure ↔
      Refused "get" title (fun _ => none) (issuesOf property) item failure := by
  have hissues : (fun fields => (check property fields).issues) = issuesOf property := by
    funext fields
    rw [check, Checked.issues_map, Checked.issues_under, Measures.issues_ofFields, issuesOf]
  rw [ofItem_eq h, Value.readVia_eq_error_iff, hissues]
  exact fun fields => ((Measures.ofFields_explained _).under _).map

end BreakdownRow

/-! ## Totals -/

/-- What an item holds as a total: two numbers, where a field that is missing counts as null. -/
inductive TotalOf : Value → Total → Prop
  | intro {fields : Fields} {value change : Option Float}
    (hvalue : MeasureOf ((fields.lookup Wire.value).getD .null) value)
    (hchange : MeasureOf ((fields.lookup Wire.change).getD .null) change) :
    TotalOf (.object fields) ⟨value, change⟩

/-- An item that holds a total: an object in which both fields are missing, null or numbers. -/
def IsTotal (item : Value) : Prop :=
  ∃ fields : Fields, item = .object fields ∧
    ∀ name ∈ [Wire.value, Wire.change], ∀ value, fields.lookup name = some value → value.IsMeasure

lemma exists_totalOf_iff {item : Value} : (∃ total, TotalOf item total) ↔ IsTotal item := by
  have hpart : ∀ (fields : Fields) (name : String),
      (∃ number, MeasureOf ((fields.lookup name).getD .null) number) ↔
        ∀ value, fields.lookup name = some value → value.IsMeasure := by
    intro fields name
    rw [exists_measureOf_iff]
    cases fields.lookup name with
    | none => simp [Value.IsMeasure]
    | some value => simp
  constructor
  · rintro ⟨_, ⟨hvalue, hchange⟩⟩
    refine ⟨_, rfl, List.forall_mem_cons.mpr ⟨(hpart _ _).mp ⟨_, hvalue⟩, ?_⟩⟩
    exact List.forall_mem_singleton.mpr ((hpart _ _).mp ⟨_, hchange⟩)
  · rintro ⟨fields, rfl, hparts⟩
    obtain ⟨hvalue, hchange⟩ := List.forall_mem_cons.mp hparts
    obtain ⟨value, hvalue⟩ := (hpart _ _).mpr hvalue
    obtain ⟨change, hchange⟩ := (hpart _ _).mpr (List.forall_mem_singleton.mp hchange)
    exact ⟨_, .intro hvalue hchange⟩

namespace Total

/-- One of the two numbers of a total. -/
def part (name : String) (fields : Fields) : Checked (Option Float) :=
  Checked.defaulted name none Measures.check fields

/-- The parts of a total. -/
def check (fields : Fields) : Checked Total :=
  (part Wire.value fields).combine Total.mk (part Wire.change fields)

/-- What is wrong with the fields of a total. -/
def issuesOf (fields : Fields) : List Issue :=
  (part Wire.value fields).issues ++ (part Wire.change fields).issues

lemma ofItem_eq (item : Value) : ofItem item = item.readVia "get" title (fun _ => none) check := by
  cases item <;> rfl

lemma part_eq_ok_iff {name : String} {fields : Fields} {number : Option Float} :
    part name fields = .ok number ↔ MeasureOf ((fields.lookup name).getD .null) number := by
  rw [part, Checked.defaulted, ← Measures.check_eq_ok_iff]
  cases fields.lookup name with
  | none => rfl
  | some value => exact Checked.under_eq_ok_iff

lemma part_explained (name : String) (fields : Fields) : (part name fields).Explained := by
  rw [part, Checked.defaulted]
  cases fields.lookup name with
  | none => exact Checked.explained_ok none
  | some value => exact (Measures.check_explained value).under _

theorem ofItem_eq_ok_iff {item : Value} {total : Total} :
    ofItem item = .ok total ↔ TotalOf item total := by
  simp only [ofItem_eq, Value.readVia_eq_ok_iff, check, Checked.combine_eq_ok_iff, part_eq_ok_iff]
  constructor
  · rintro ⟨fields, rfl, -, value, change, hvalue, hchange, rfl⟩
    exact .intro hvalue hchange
  · rintro ⟨hvalue, hchange⟩
    exact ⟨_, rfl, trivial, _, _, hvalue, hchange, rfl⟩

theorem ofItem_eq_error_iff {item : Value} {failure : Failure} :
    ofItem item = .error failure ↔ Refused "get" title (fun _ => none) issuesOf item failure := by
  have hissues : (fun fields => (check fields).issues) = issuesOf := by
    funext fields
    exact Checked.issues_combine (part_explained _ _) (part_explained _ _) _
  rw [ofItem_eq, Value.readVia_eq_error_iff, hissues]
  exact fun fields => (part_explained _ _).combine (part_explained _ _) _

end Total

end SiteStats
