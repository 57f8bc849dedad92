import SiteStats.Calendar.Moment
import SiteStats.Filter.Basic
import SiteStats.Number.Numeral
import SiteStats.Number.Shortest

/-!
# Values

What a caller hands in, and what a response body holds, before anything is known about its form.
Besides what can be written in JSON, a caller can hand in days, moments and parts of filters that
are already built. Whole numbers have any size and are told apart from doubles. The fields of an
object have distinct names and an order, which results keep.
-/

namespace SiteStats

/-- A value of no particular form. -/
inductive Value where
  | null
  | bool (value : Bool)
  | int (value : Int)
  | float (value : Float)
  | text (value : Text)
  | list (items : List Value)
  | object (fields : List (Text × Value))
  | day (value : Day)
  | moment (value : Moment)
  | part (value : Filter.Part)

/-- The fields of an object, in order. -/
abbrev Fields := List (Text × Value)

namespace Fields

/-- The value of the first field of that name. -/
abbrev lookup (fields : Fields) (name : Text) : Option Value :=
  List.lookup name fields

/-- Gives a field a value: at its place if there is such a field, else at the end. -/
def set (name : Text) (value : Value) : Fields → Fields
  | [] => [(name, value)]
  | field :: rest => if field.1 = name then (name, value) :: rest else field :: set name value rest

/-- The fields that result when each pair in turn is set: a name that comes twice stays where it
came first and has the value that came last. -/
def ofPairs (pairs : List (Text × Value)) : Fields :=
  pairs.foldl (fun fields pair => set pair.1 pair.2 fields) []

theorem lookup_set (name : Text) (value : Value) (fields : Fields) (other : Text) :
    (set name value fields).lookup other =
      if other = name then some value else fields.lookup other := by
  induction fields with
  | nil => by_cases h : other = name <;> simp [set, h]
  | cons field rest ih =>
    obtain ⟨first, held⟩ := field
    by_cases hf : first = name <;> by_cases h : other = first <;>
      simp_all [set, List.lookup_cons, beq_eq_false_iff_ne.mpr]

/-- Pairs with distinct names are the fields as they stand. -/
theorem ofPairs_of_nodup (pairs : List (Text × Value)) (h : (pairs.map Prod.fst).Nodup) :
    ofPairs pairs = pairs := by
  have append : ∀ (fields : Fields) (pair : Text × Value), pair.1 ∉ fields.map Prod.fst →
      set pair.1 pair.2 fields = fields ++ [pair] := by
    intro fields pair
    induction fields with
    | nil => simp [set]
    | cons field rest ih =>
      intro hp
      simp only [List.map_cons, List.mem_cons, not_or] at hp
      simp [set, Ne.symm hp.1, ih hp.2]
  have fold : ∀ (rest done : List (Text × Value)), ((done ++ rest).map Prod.fst).Nodup →
      rest.foldl (fun fields pair => set pair.1 pair.2 fields) done = done ++ rest := by
    intro rest
    induction rest with
    | nil => simp
    | cons pair rest ih =>
      intro done hd
      have hp : pair.1 ∉ done.map Prod.fst := by
        simp only [List.map_append, List.map_cons, List.nodup_append, List.nodup_cons] at hd
        intro hmem
        exact hd.2.2 _ hmem _ (by simp) rfl
      rw [List.foldl_cons, append done pair hp, ih _ (by simpa using hd)]
      simp
  simpa [ofPairs] using fold pairs [] (by simpa using h)

end Fields

namespace Value

instance : Inhabited Value := ⟨null⟩

/-- The field of that name, if the value is an object that has one. -/
def field? (name : Text) : Value → Option Value
  | object fields => fields.lookup name
  | _ => none

/-- Whether a value counts as true. What is null, zero or empty does not; all else does, *not a
number* included. -/
def truthy : Value → Bool
  | null => false
  | bool value => value
  | int value => value != 0
  | float value =>
    match Binary64.view value with
    | .finite _ mantissa _ => mantissa != 0
    | _ => true
  | text value => value != ""
  | list items => !items.isEmpty
  | object fields => !fields.isEmpty
  | day _ | moment _ | part _ => true

/-- The value is this very text. -/
def isText (word : Text) : Value → Bool
  | text value => value == word
  | _ => false

/-- What the value holds one after the other: the items of a list, the characters of a text, the
field names of an object. -/
def elements? : Value → Option (List Value)
  | list items => some items
  | text value => some (value.toList.map fun point => text ⟨[point]⟩)
  | object fields => some (fields.map fun field => text field.1)
  | _ => none

/-- What a part of a filter holds if it stands where a list is expected. Each is a pair that begins
with a name, and thus nothing that any list could hold. -/
def pairsOf (part : Filter.Part) : List Value :=
  part.names.map fun (name : String) => list [text name]

/-- What the value holds where a list is expected. -/
def members? : Value → Option (List Value)
  | list items => some items
  | part value => some (pairsOf value)
  | _ => none

theorem field?_isSome {name : Text} {value : Value} (h : (value.field? name).isSome) :
    ∃ fields, value = object fields := by
  cases value <;> simp_all [field?]

mutual

/-- Whether a value can be written out: there is no whole number in it that has too many digits. -/
def isWritable : Value → Bool
  | int value => Numeral.isWritable value
  | list items => allWritable items
  | object fields => fieldsWritable fields
  | _ => true

/-- Whether all items of a list can be written out. -/
def allWritable : List Value → Bool
  | [] => true
  | item :: rest => item.isWritable && allWritable rest

/-- Whether the values of all fields can be written out. -/
def fieldsWritable : List (Text × Value) → Bool
  | [] => true
  | (_, value) :: rest => value.isWritable && fieldsWritable rest

end

@[simp] theorem isWritable_list {items : List Value} :
    (list items).isWritable ↔ ∀ item ∈ items, item.isWritable := by
  rw [isWritable]
  induction items with
  | nil => simp [allWritable]
  | cons item rest ih => simp [allWritable, ih]

@[simp] theorem isWritable_object {fields : Fields} :
    (object fields).isWritable ↔ ∀ field ∈ fields, field.2.isWritable := by
  rw [isWritable]
  induction fields with
  | nil => simp [fieldsWritable]
  | cons field rest ih => simp [fieldsWritable, ih]

end Value

end SiteStats
