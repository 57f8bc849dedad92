import Mathlib.Data.List.Nodup
import Mathlib.Tactic.Common
import SiteStats.Config.EnvFile

/-!
# What environment files set

The values that a file gives to its variables depend on the environment, as they may refer to other
variables.  Which variables there are, in which order, and which of them have a value does not
(`EnvFile.outline_resolve`), and no name comes twice (`EnvFile.nodup_resolve`).
-/

namespace SiteStats.EnvFile

variable {α β : Type}

lemma lookup_set (name : String) (value : α) (bindings : List (String × α)) (other : String) :
    (set name value bindings).lookup other =
      if other = name then some value else bindings.lookup other := by
  induction bindings with
  | nil => by_cases hother : other = name <;> simp [set, hother]
  | cons binding rest ih =>
    obtain ⟨first, held⟩ := binding
    by_cases hfirst : first = name <;> by_cases hother : other = first
    · simp [set, hfirst, hother]
    · have hbeq : (other == first) = false := by simpa using hother
      simp [set, List.lookup_cons, hbeq, hother, ← hfirst]
    · simp [set, hfirst, hother]
    · have hbeq : (other == first) = false := by simpa using hother
      simp [set, hfirst, List.lookup_cons, hbeq, ih]

lemma map_set (f : α → β) (name : String) (value : α) (bindings : List (String × α)) :
    (set name value bindings).map (Prod.map id f) =
      set name (f value) (bindings.map (Prod.map id f)) := by
  induction bindings with
  | nil => rfl
  | cons binding rest ih => by_cases hfirst : binding.1 = name <;> simp [set, hfirst, ih]

lemma mem_names_set {name : String} {value : α} {bindings : List (String × α)} {other : String} :
    other ∈ (set name value bindings).map Prod.fst ↔
      other = name ∨ other ∈ bindings.map Prod.fst := by
  induction bindings with
  | nil => simp [set]
  | cons binding rest ih =>
    by_cases hfirst : binding.1 = name
    · simp [set, hfirst]
    · rw [set, if_neg hfirst, List.map_cons, List.mem_cons, ih, List.map_cons, List.mem_cons]
      exact or_left_comm

lemma nodup_set {name : String} {value : α} {bindings : List (String × α)}
    (h : (bindings.map Prod.fst).Nodup) : ((set name value bindings).map Prod.fst).Nodup := by
  induction bindings with
  | nil => simp [set]
  | cons binding rest ih =>
    obtain ⟨hfirst, hrest⟩ := List.nodup_cons.mp h
    by_cases hname : binding.1 = name
    · subst hname
      simpa [set] using h
    · rw [set, if_neg hname, List.map_cons, List.nodup_cons, mem_names_set]
      exact ⟨not_or.mpr ⟨hname, hfirst⟩, ih hrest⟩

/-- The names in the lines of a file, each where it comes first, and whether the last line with that
name has a value. -/
def outline (lines : List (String × Option String)) : List (String × Bool) :=
  lines.foldl (fun done line => set line.1 line.2.isSome done) []

/-- The environment has no influence on which variables a file sets. -/
lemma outline_resolve (environment : List (String × String))
    (lines : List (String × Option String)) :
    (resolve environment lines).map (Prod.map id Option.isSome) = outline lines := by
  refine (List.foldl_hom (List.map (Prod.map id Option.isSome)) ?_).symm
  rintro done ⟨name, value⟩
  rw [map_set, Option.isSome_map]

lemma nodup_outline (lines : List (String × Option String)) :
    ((outline lines).map Prod.fst).Nodup := by
  have hbehind : ∀ done : List (String × Bool), (done.map Prod.fst).Nodup →
      ((lines.foldl (fun done line => set line.1 line.2.isSome done) done).map Prod.fst).Nodup := by
    induction lines with
    | nil => exact fun _ h => h
    | cons line rest ih => exact fun done hdone => ih _ (nodup_set hdone)
  exact hbehind [] .nil

lemma nodup_resolve (environment : List (String × String)) (lines : List (String × Option String)) :
    ((resolve environment lines).map Prod.fst).Nodup := by
  have hnames : (resolve environment lines).map Prod.fst = (outline lines).map Prod.fst := by
    rw [← outline_resolve environment, List.map_map]
    rfl
  rw [hnames]
  exact nodup_outline lines

end SiteStats.EnvFile
