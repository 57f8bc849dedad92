import SiteStats.Schema.Issue
import SiteStats.Value.Display

/-!
# Checked values

`Checked α` is a value of the right form, or the reason why there is none. The parts of a value are
checked one beside the other: `Checked.both` reports the issues of both parts, the first ones first.
A moment whose UTC day lies outside the calendar ends a check at once, whatever else is wrong.

Besides its fields a model has names that all models share. Giving one of them a new value mostly
fails, in ways of its own. A name that starts with an underscore and is none of these can be given
any value, which changes nothing.
-/

namespace SiteStats.Schema

/-- Why a value is not accepted. -/
inductive Rejection where
  | flawed (issues : List Issue)
  | outOfCalendar
deriving DecidableEq, Repr

/-- The result of checking a value. -/
abbrev Checked (α : Type) := Except Rejection α

/-! ## Combining checks -/

namespace Checked

variable {α β γ : Type}

/-- The value as a whole has a flaw. -/
def flaw (f : Flaw) : Checked α :=
  .error (.flawed [⟨[], f⟩])

/-- Makes something else of a value that is right. -/
def map (f : α → β) (checked : Checked α) : Checked β :=
  Except.map f checked

/-- What was found in a part, seen from the whole. -/
def under (step : Step) : Checked α → Checked α
  | .ok value => .ok value
  | .error (.flawed issues) => .error (.flawed (issues.map (Issue.under step)))
  | .error .outOfCalendar => .error .outOfCalendar

/-- Two parts side by side. -/
def both : Checked α → Checked β → Checked (α × β)
  | .ok a, .ok b => .ok (a, b)
  | .ok _, .error e => .error e
  | .error e, .ok _ => .error e
  | .error (.flawed first), .error (.flawed second) => .error (.flawed (first ++ second))
  | .error _, .error _ => .error .outOfCalendar

/-- Two parts side by side, put together when both are right. -/
def combine (f : α → β → γ) (a : Checked α) (b : Checked β) : Checked γ :=
  (both a b).map fun parts => f parts.1 parts.2

/-- A rule on a value that is right in itself. -/
def obeying (rule : Rule) (holds : α → Bool) (checked : Checked α) : Checked α :=
  checked.bind fun value => if holds value then .ok value else flaw (.broken rule)

/-- A field that has to be there. -/
def required (name : String) (check : Value → Checked α) (fields : Fields) : Checked α :=
  match fields.lookup name with
  | some value => (check value).under (.field name)
  | none => under (.field name) (flaw .missing)

/-- A field that may be missing, for which `default` then stands. -/
def defaulted (name : String) (default : α) (check : Value → Checked α) (fields : Fields) :
    Checked α :=
  match fields.lookup name with
  | some value => (check value).under (.field name)
  | none => .ok default

/-- A value that may be null. -/
def nullable (check : Value → Checked α) : Value → Checked (Option α)
  | .null => .ok none
  | value => (check value).map some

/-- The members of a list, counted from `position` on. -/
def each (check : Value → Checked α) (position : Nat) : List Value → Checked (List α)
  | [] => .ok []
  | item :: rest =>
    ((check item).under (.index position)).combine List.cons (each check (position + 1) rest)

@[simp] theorem map_eq_ok_iff {f : α → β} {checked : Checked α} {b : β} :
    checked.map f = .ok b ↔ ∃ a, checked = .ok a ∧ f a = b := by
  rcases checked with e | a <;> simp [map, Except.map]

@[simp] theorem under_eq_ok_iff {step : Step} {checked : Checked α} {value : α} :
    checked.under step = .ok value ↔ checked = .ok value := by
  rcases checked with e | a
  · cases e <;> simp [under]
  · simp [under]

@[simp] theorem combine_eq_ok_iff {f : α → β → γ} {a : Checked α} {b : Checked β} {c : γ} :
    a.combine f b = .ok c ↔ ∃ x y, a = .ok x ∧ b = .ok y ∧ f x y = c := by
  rcases a with e | a <;> rcases b with e' | b
  · cases e <;> cases e' <;> simp [combine, both, map, Except.map]
  all_goals simp [combine, both, map, Except.map]

@[simp] theorem obeying_eq_ok_iff {rule : Rule} {holds : α → Bool} {checked : Checked α}
    {value : α} :
    checked.obeying rule holds = .ok value ↔ checked = .ok value ∧ holds value := by
  rcases checked with e | a
  · simp [obeying, Except.bind]
  · by_cases h : holds a = true <;> simp [obeying, Except.bind, flaw, h] <;> grind

end Checked

/-! ## Names that are no fields -/

/-- The name is none that a field can have. -/
def isHidden (field : String) : Bool :=
  field.toList.head? = some '_'

/-- What is wrong with giving a value to a shared name of a model. -/
inductive ReservedFault where
  | ofClass (title name : String)
  | computed (title name : String)
  | fixed (title name : String)
  | notClass (kind : String)
  | notFields (kind : String)
deriving DecidableEq, Repr

/-- The text of a reserved fault. -/
def ReservedFault.message : ReservedFault → String
  | ofClass title name =>
    s!"'{name}' is a ClassVar of \x60{title}\x60 and cannot be set on an instance. " ++
      s!"If you want to set a value on the class, use \x60{title}.{name} = value\x60."
  | computed title name => s!"property '{name}' of '{title}' object has no setter"
  | fixed title name => s!"attribute '{name}' of '{title}' objects is not writable"
  | notClass kind => s!"__class__ must be set to a class, not '{kind}' object"
  | notFields kind => s!"__dict__ must be set to a dictionary, not a '{kind}'"

/-- The names whose values all models of a class share. -/
def classNames : List String := ["__class_vars__", "__private_attributes__", "__signature__"]

/-- The public names whose values are worked out from the model. -/
def computedNames : List String := ["model_extra", "model_fields_set"]

/-- The fault of giving a value to a hidden name of a model with this title. The model that
introduces the fields, from which this one may be derived, has the title `base`. -/
def hiddenFault? (title base name : String) (value : Value) : Option ReservedFault :=
  if name ∈ classNames then some (.ofClass title name)
  else if name = "__class__" then some (.notClass value.kind)
  else if name = "__dict__" then
    match value with
    | .object _ => none
    | value => some (.notFields value.kind)
  else if name = "__fields_set__" then some (.computed title name)
  else if name = "__weakref__" then some (.fixed base name)
  else none

/-- The fault of giving a value to a name that is no field of a model, whose fields can be given new
values. -/
def reservedFault? (title base name : String) (value : Value) : Option ReservedFault :=
  if name ∈ computedNames then some (.computed title name) else hiddenFault? title base name value

end SiteStats.Schema
