import SiteStats.Config.Basic
import SiteStats.Proofs.Config.Acceptance
import SiteStats.Proofs.Config.EnvFile

/-!
# Loading an environment file again

Settings are read from an environment into which a file has been loaded, and the environment stays
as it is then.  So the same settings may be asked for a second time in an environment that the first
time has left behind.  What the file says is not the same then: a reference in it to a variable that
the file itself defines is looked up in the environment now.  But a variable that is there is never
set again, and whether the file has a value for a variable does not depend on the environment
(`EnvFile.outline_resolve`); so there is nothing left to be set when all could be set before,
whatever the values are (`load_of_not_stopsAt`).

It is different where loading has ended at a variable that cannot be set.  The file is loaded up to
this variable again and then it depends on its new value whether it is refused once more; and if the
file has switched files off before that variable, it is not even looked at.  `configure_again` says
that the second time is like the first in all cases but these.
-/

namespace SiteStats.Environment

open EnvFile (bindings resolve)

/-! ## Single variables -/

/-- A variable can be set: there is no null in its name and its value, and no equals sign in its
name. -/
def Settable (name value : String) : Prop :=
  '\x00' ∉ name.toList ∧ '\x00' ∉ value.toList ∧ '=' ∉ name.toList

instance (name value : String) : Decidable (Settable name value) :=
  inferInstanceAs (Decidable (_ ∧ _ ∧ _))

/-- What is said of a variable that cannot be set. -/
def complaint (name value : String) : String :=
  if '\x00' ∈ name.toList ∨ '\x00' ∈ value.toList then "embedded null byte"
  else "illegal environment variable name"

variable {environment : Environment} {name value : String}

lemma define_of_settable (h : Settable name value) :
    environment.define name value = .ok (environment.assign name value) := by
  simp [define, String.contains_char_eq, h.1, h.2.1, h.2.2]

lemma define_of_not_settable (h : ¬ Settable name value) :
    environment.define name value = .error (.environment (complaint name value)) := by
  by_cases hnull : '\x00' ∈ name.toList ∨ '\x00' ∈ value.toList
  · simp [define, String.contains_char_eq, complaint, hnull]
  · have hname : '=' ∈ name.toList := by
      by_contra hname
      exact h ⟨fun h => hnull (.inl h), fun h => hnull (.inr h), hname⟩
    simp [define, String.contains_char_eq, complaint, hnull, hname]

/-- Under the same name another value fails for the same reason exactly when it has a null if the
first has one, unless there is one in the name. -/
lemma refused_alike_iff (h : ¬ Settable name value) {other : String} :
    (¬ Settable name other ∧ complaint name other = complaint name value) ↔
      '\x00' ∈ name.toList ∨ ('\x00' ∈ other.toList ↔ '\x00' ∈ value.toList) := by
  unfold Settable complaint at *
  by_cases hname : '\x00' ∈ name.toList <;> by_cases hvalue : '\x00' ∈ value.toList <;>
    by_cases hother : '\x00' ∈ other.toList <;> simp_all

lemma lookup_assign (environment : Environment) (name value other : String) :
    (environment.assign name value).lookup other =
      if other = name then some value else environment.lookup other :=
  EnvFile.lookup_set ..

/-! ## Lists of variables -/

/-- A variable of a list is there, unless the list gives it no value. -/
def Present (environment : Environment) (entry : String × Option String) : Prop :=
  entry.2.isSome → (environment.lookup entry.1).isSome

/-- A variable of a list is there or can be set, unless the list gives it no value. -/
def Fillable (environment : Environment) (entry : String × Option String) : Prop :=
  ∀ value, entry.2 = some value →
    (environment.lookup entry.1).isSome ∨ Settable entry.1 value

variable {entry : String × Option String} {entries : List (String × Option String)}

lemma fill_cons_of_present (h : environment.Present entry) :
    environment.fill (entry :: entries) = environment.fill entries := by
  obtain ⟨name, _ | value⟩ := entry
  · rfl
  · rw [fill, if_pos (h rfl)]

lemma fill_cons_of_absent (h : environment.lookup name = none) (value : String) :
    environment.fill ((name, some value) :: entries) =
      if Settable name value then (environment.assign name value).fill entries
      else (environment, .error (.environment (complaint name value))) := by
  rw [fill, if_neg (by simp [h])]
  by_cases hset : Settable name value
  · rw [define_of_settable hset, if_pos hset]
  · rw [define_of_not_settable hset, if_neg hset]

lemma present_or_absent (environment : Environment) (entry : String × Option String) :
    environment.Present entry ∨
      ∃ name value, entry = (name, some value) ∧ environment.lookup name = none := by
  obtain ⟨name, _ | value⟩ := entry
  · exact .inl (by simp [Present])
  · cases hlookup : environment.lookup name with
    | none => exact .inr ⟨name, value, rfl, hlookup⟩
    | some held => exact .inl (by simp [Present, hlookup])

lemma lookup_assign_of_absent {other held : String} (h : environment.lookup name = none)
    (hother : environment.lookup other = some held) (value : String) :
    (environment.assign name value).lookup other = some held := by
  have hne : other ≠ name := by
    rintro rfl
    simp [h] at hother
  rw [lookup_assign, if_neg hne, hother]

/-- Whatever is set, a variable that is there keeps its value. -/
lemma lookup_fill {held : String} (h : environment.lookup name = some held) :
    (environment.fill entries).1.lookup name = some held := by
  induction entries generalizing environment with
  | nil => exact h
  | cons entry rest ih =>
    obtain hpresent | ⟨other, value, rfl, habsent⟩ := present_or_absent environment entry
    · rw [fill_cons_of_present hpresent]
      exact ih h
    · rw [fill_cons_of_absent habsent]
      split
      · exact ih (lookup_assign_of_absent habsent h value)
      · exact h

lemma Present.fill (h : environment.Present entry) :
    (environment.fill entries).1.Present entry := by
  intro hvalue
  obtain ⟨held, hheld⟩ := Option.isSome_iff_exists.mp (h hvalue)
  rw [lookup_fill hheld]
  rfl

lemma Fillable.assign (h : environment.Fillable entry) (habsent : environment.lookup name = none) :
    (environment.assign name value).Fillable entry := by
  intro given hgiven
  refine (h given hgiven).imp_left fun hsome => ?_
  obtain ⟨held, hheld⟩ := Option.isSome_iff_exists.mp hsome
  rw [lookup_assign_of_absent habsent hheld]
  rfl

lemma lookup_fill_of_notMem (h : name ∉ entries.map Prod.fst) :
    (environment.fill entries).1.lookup name = environment.lookup name := by
  induction entries generalizing environment with
  | nil => rfl
  | cons entry rest ih =>
    obtain ⟨hne, hrest⟩ := not_or.mp (mt List.mem_cons.mpr h)
    obtain hpresent | ⟨other, value, rfl, habsent⟩ := present_or_absent environment entry
    · rw [fill_cons_of_present hpresent, ih hrest]
    · rw [fill_cons_of_absent habsent]
      split
      · rw [ih hrest, lookup_assign, if_neg hne]
      · rfl

/-- Variables that are all there are all passed over. -/
lemma fill_append_of_present (h : ∀ entry ∈ entries, environment.Present entry)
    (rest : List (String × Option String)) :
    environment.fill (entries ++ rest) = environment.fill rest := by
  induction entries with
  | nil => rfl
  | cons entry entries ih =>
    obtain ⟨hentry, hentries⟩ := List.forall_mem_cons.mp h
    rw [List.cons_append, fill_cons_of_present hentry, ih hentries]

/-- Variables that can all be set are set before those that follow, and are all there then. -/
lemma fill_append_of_fillable (h : ∀ entry ∈ entries, environment.Fillable entry)
    (rest : List (String × Option String)) :
    environment.fill (entries ++ rest) = (environment.fill entries).1.fill rest ∧
      ∀ entry ∈ entries, (environment.fill entries).1.Present entry := by
  induction entries generalizing environment with
  | nil => exact ⟨rfl, by simp⟩
  | cons entry entries ih =>
    obtain ⟨hentry, hentries⟩ := List.forall_mem_cons.mp h
    rw [List.cons_append, List.forall_mem_cons]
    obtain hpresent | ⟨name, value, rfl, habsent⟩ := present_or_absent environment entry
    · obtain ⟨hfill, hpresents⟩ := ih hentries
      rw [fill_cons_of_present hpresent, fill_cons_of_present hpresent]
      exact ⟨hfill, hpresent.fill, hpresents⟩
    · have hset : Settable name value := (hentry value rfl).resolve_left (by simp [habsent])
      obtain ⟨hfill, hpresents⟩ := ih fun entry hmem => (hentries entry hmem).assign habsent
      rw [fill_cons_of_absent habsent, fill_cons_of_absent habsent, if_pos hset, if_pos hset]
      have hfirst : (environment.assign name value).Present (name, some value) := by
        simp [Present, lookup_assign]
      exact ⟨hfill, hfirst.fill, hpresents⟩

/-- A list either can be set as a whole, or there is a first variable that cannot. -/
lemma fillable_or_refused (environment : Environment) (entries : List (String × Option String)) :
    (∀ entry ∈ entries, environment.Fillable entry) ∨ ∃ before name value after,
      entries = before ++ (name, some value) :: after ∧
        (∀ entry ∈ before, environment.Fillable entry) ∧ environment.lookup name = none ∧
          ¬ Settable name value := by
  induction entries with
  | nil => exact .inl (by simp)
  | cons entry rest ih =>
    by_cases hentry : environment.Fillable entry
    · obtain hrest | ⟨before, name, value, after, rfl, hbefore, habsent, hset⟩ := ih
      · exact .inl (List.forall_mem_cons.mpr ⟨hentry, hrest⟩)
      · exact .inr ⟨entry :: before, name, value, after, rfl,
          List.forall_mem_cons.mpr ⟨hentry, hbefore⟩, habsent, hset⟩
    · obtain hpresent | ⟨name, value, rfl, habsent⟩ := present_or_absent environment entry
      · exact absurd (fun _ hvalue => .inl (hpresent (by simp [hvalue]))) hentry
      · refine .inr ⟨[], name, value, rest, rfl, by simp, habsent, fun hset => hentry ?_⟩
        rintro _ ⟨⟩
        exact .inr hset

/-! ## Loading a file -/

/-- Loading a file ends at a variable: it is the first that is neither there nor can be set. -/
structure StopsAt (environment : Environment) (file name value : String) : Prop where
  reads : environment.readsFiles = true
  absent : environment.lookup name = none
  refused : ¬ Settable name value
  first : ∃ before after,
    resolve environment (bindings file) = before ++ (name, some value) :: after ∧
    ∀ entry ∈ before, environment.Fillable entry

/-- When the file is read again, the variable is refused again and for the same reason: files have
not been switched off, and the new value has a null if and only if the old one had, unless the name
has one. -/
def StaysAt (after : Environment) (file name value : String) : Prop :=
  after.readsFiles = true ∧ ∃ other, (name, some other) ∈ resolve after (bindings file) ∧
    ('\x00' ∈ name.toList ∨ ('\x00' ∈ other.toList ↔ '\x00' ∈ value.toList))

variable {file : String}

lemma load_of_reads (h : environment.readsFiles = true) :
    environment.load file = environment.fill (resolve environment (bindings file)) := by
  simp [load, h]

lemma load_of_not_reads (h : environment.readsFiles = false) :
    environment.load file = (environment, .ok ()) := by
  simp [load, h]

lemma lookup_load (h : environment.lookup name = some value) :
    (environment.load file).1.lookup name = some value := by
  cases hreads : environment.readsFiles with
  | false => rwa [load_of_not_reads hreads]
  | true =>
    rw [load_of_reads hreads]
    exact lookup_fill h

/-- Which variables are there is the same for lists with the same outline. -/
lemma present_of_outline {others : List (String × Option String)}
    (houtline : entries.map (Prod.map id Option.isSome) = others.map (Prod.map id Option.isSome))
    (h : ∀ entry ∈ entries, environment.Present entry) :
    ∀ entry ∈ others, environment.Present entry := by
  intro other hother
  have hmem := List.mem_map_of_mem (f := Prod.map id Option.isSome) hother
  rw [← houtline] at hmem
  obtain ⟨entry, hentry, heq⟩ := List.mem_map.mp hmem
  obtain ⟨hname, hvalue⟩ : entry.1 = other.1 ∧ entry.2.isSome = other.2.isSome :=
    Prod.ext_iff.mp heq
  have hpresent := h entry hentry
  rwa [Present, hname, hvalue] at hpresent

/-- A file that can be loaded to its end changes nothing when it is loaded again. -/
lemma load_of_not_stopsAt (h : ∀ name value, ¬ environment.StopsAt file name value) :
    ∃ filled : Environment, environment.load file = (filled, .ok ()) ∧
      filled.load file = (filled, .ok ()) := by
  cases hreads : environment.readsFiles with
  | false => exact ⟨environment, load_of_not_reads hreads, load_of_not_reads hreads⟩
  | true =>
    obtain hfillable | ⟨before, name, value, after, hsplit, hbefore, habsent, hset⟩ :=
      fillable_or_refused environment (resolve environment (bindings file))
    · obtain ⟨hfill, hpresents⟩ := fill_append_of_fillable hfillable []
      rw [List.append_nil, ← load_of_reads hreads] at hfill
      rw [← load_of_reads hreads] at hpresents
      refine ⟨(environment.load file).1, hfill, ?_⟩
      cases hreads' : (environment.load file).1.readsFiles with
      | false => exact load_of_not_reads hreads'
      | true =>
        have houtline := (EnvFile.outline_resolve environment (bindings file)).trans
          (EnvFile.outline_resolve (environment.load file).1 (bindings file)).symm
        rw [load_of_reads hreads', ← List.append_nil (resolve _ _),
          fill_append_of_present (present_of_outline houtline hpresents)]
        rfl
    · exact absurd ⟨hreads, habsent, hset, before, after, hsplit, hbefore⟩ (h name value)

/-- Where loading ends at a variable, the variables before it are there from then on and the
variable itself is not; so it is where loading goes on when the file is read again. -/
lemma load_of_stopsAt (h : environment.StopsAt file name value) :
    ∃ filled : Environment,
      environment.load file = (filled, .error (.environment (complaint name value))) ∧
      filled.lookup name = none ∧
      ∃ other rest, (name, some other) ∈ resolve filled (bindings file) ∧
        filled.fill (resolve filled (bindings file)) =
          filled.fill ((name, some other) :: rest) := by
  obtain ⟨hreads, habsent, hset, before, after, hsplit, hbefore⟩ := h
  obtain ⟨hfill, hpresents⟩ := fill_append_of_fillable hbefore ((name, some value) :: after)
  have hnodup := EnvFile.nodup_resolve environment (bindings file)
  rw [hsplit, List.map_append, List.map_cons, List.nodup_middle, List.nodup_cons] at hnodup
  have hname : name ∉ before.map Prod.fst := fun hmem => hnodup.1 (List.mem_append_left _ hmem)
  have habsent' : (environment.fill before).1.lookup name = none := by
    rw [lookup_fill_of_notMem hname, habsent]
  generalize (environment.fill before).1 = filled at hfill hpresents habsent'
  refine ⟨filled, ?_, habsent', ?_⟩
  · rw [load_of_reads hreads, hsplit, hfill, fill_cons_of_absent habsent', if_neg hset]
  · have houtline := (EnvFile.outline_resolve filled (bindings file)).trans
      (EnvFile.outline_resolve environment (bindings file)).symm
    rw [hsplit, List.map_append, List.map_cons] at houtline
    obtain ⟨before', rest, hsplit', hbefore', hrest⟩ := List.map_eq_append_iff.mp houtline
    obtain ⟨entry, after', rfl, hentry, -⟩ := List.map_eq_cons_iff.mp hrest
    obtain ⟨hentry, hvalue⟩ : entry.1 = name ∧ entry.2.isSome = true := Prod.ext_iff.mp hentry
    obtain ⟨other, hother⟩ := Option.isSome_iff_exists.mp hvalue
    obtain rfl : entry = (name, some other) := Prod.ext hentry hother
    refine ⟨other, after', by simp [hsplit'], ?_⟩
    rw [hsplit', fill_append_of_present (present_of_outline hbefore'.symm hpresents)]

/-- A variable is refused again when that is so for the one value that the file gives it. -/
lemma staysAt_iff {after : Environment} {other : String} (h : ¬ Settable name value)
    (hmem : (name, some other) ∈ resolve after (bindings file)) :
    after.StaysAt file name value ↔ after.readsFiles = true ∧
      ¬ Settable name other ∧ complaint name other = complaint name value := by
  rw [refused_alike_iff h]
  refine and_congr_right fun _ => ⟨?_, fun hnull => ⟨other, hmem, hnull⟩⟩
  rintro ⟨other', hmem', hnull⟩
  have hnodup := EnvFile.nodup_resolve after (bindings file)
  obtain rfl : other' = other := by
    simpa using List.inj_on_of_nodup_map hnodup hmem' hmem rfl
  exact hnull

/-! ## Configurations -/

lemma configure_of_load_ok {filled : Environment} (h : environment.load file = (filled, .ok ())) :
    environment.configure file = (filled, filled.readConfig) := by
  rw [configure, h]

lemma configure_of_load_error {filled : Environment} {failure : Failure}
    (h : environment.load file = (filled, .error failure)) :
    environment.configure file = (filled, .error failure) := by
  rw [configure, h]

/-- What is read afterwards sets no variables. -/
lemma fst_configure : (environment.configure file).1 = (environment.load file).1 := by
  rcases hload : environment.load file with ⟨filled, _ | _⟩
  · rw [configure_of_load_error hload]
  · rw [configure_of_load_ok hload]

/-- If there are variables for the settings and the time to wait is a number, then all depends on
what is accepted as a configuration. -/
lemma readConfig_cases (environment : Environment) :
    (∃ names, environment.readConfig = .error (.missingEnvironment names)) ∨
      (∃ text, environment.readConfig = .error (.notDouble text)) ∨
        ∃ fields, environment.readConfig = Config.read (.object fields) := by
  rw [readConfig]
  split
  · exact .inl ⟨_, rfl⟩
  · cases environment.lookup timeout with
    | none => exact .inr (.inr ⟨_, rfl⟩)
    | some text =>
      dsimp only
      rw [readDouble]
      cases Numeral.double? (Text.trim Text.isBlank (text.toList.map Text.asciiDigit)) with
      | none => exact .inr (.inl ⟨text, rfl⟩)
      | some x => exact .inr (.inr ⟨_, rfl⟩)

/-- Where the settings are at fault, it is not because a variable could not be set. -/
lemma readConfig_ne_environment (environment : Environment) (message : String) :
    environment.readConfig ≠ .error (.environment message) := by
  obtain ⟨names, h⟩ | ⟨text, h⟩ | ⟨fields, h⟩ := readConfig_cases environment
  · simp [h]
  · simp [h]
  · rw [h, Config.read, Schema.Checked.titled]
    cases Config.check (.object fields) with
    | ok config => simp [Except.mapError]
    | error rejection => cases rejection <;> simp [Except.mapError, Failure.ofRejection]

lemma usable_of_readConfig {config : Config} (h : environment.readConfig = .ok config) :
    config.Usable := by
  obtain ⟨names, hread⟩ | ⟨text, hread⟩ | ⟨fields, hread⟩ := readConfig_cases environment
  · simp [hread] at h
  · simp [hread] at h
  · exact Config.usable_of_read (hread.symm.trans h)

lemma usable_of_configure {config : Config} (h : (environment.configure file).2 = .ok config) :
    config.Usable := by
  rcases hload : environment.load file with ⟨filled, _ | _⟩
  · rw [configure_of_load_error hload] at h
    cases h
  · rw [configure_of_load_ok hload] at h
    exact usable_of_readConfig h

/-- Where a file could not be loaded to its end, all depends on the variable at which loading ended.
-/
lemma configure_again_iff_of_stopsAt (h : environment.StopsAt file name value) :
    (environment.configure file).1.configure file = environment.configure file ↔
      (environment.configure file).1.StaysAt file name value := by
  obtain ⟨filled, hload, habsent, other, rest, hmem, hfill⟩ := load_of_stopsAt h
  rw [configure_of_load_error hload, staysAt_iff h.refused hmem]
  cases hreads : filled.readsFiles with
  | false =>
    have hunread : filled.load file = (filled, .ok ()) := load_of_not_reads hreads
    have hagain := configure_of_load_ok hunread
    have hne := readConfig_ne_environment filled (complaint name value)
    simp [hagain, hne]
  | true =>
    rw [← load_of_reads hreads, fill_cons_of_absent habsent] at hfill
    by_cases hset : Settable name other
    · -- The variable is there now, which it was not before.
      rw [if_pos hset] at hfill
      have hthere : (filled.configure file).1.lookup name = some other := by
        rw [fst_configure, hfill]
        exact lookup_fill (by rw [lookup_assign, if_pos rfl])
      have hne : filled.configure file ≠
          (filled, .error (.environment (complaint name value))) := by
        intro hagain
        rw [hagain, habsent] at hthere
        cases hthere
      simp [hset, hne]
    · rw [if_neg hset] at hfill
      simp [configure_of_load_error hfill, hset]

/-- **Loading again.**  Whatever comes of it when settings are asked for, no variable that is there
is changed, and settings that are found can be used.  When they are asked for again in the
environment that is left behind, no variable is set and the result is the same, be it settings or a
failure.  The one exception is exactly that loading has ended at a variable that is not refused in
the same way again. -/
theorem configure_again (environment : Environment) (file : String) :
    let after := (environment.configure file).1
    let outcome := (environment.configure file).2
    (∀ name value, environment.lookup name = some value → after.lookup name = some value) ∧
      (∀ config, outcome = .ok config → config.Usable) ∧
      (after.configure file = (after, outcome) ↔
        ∀ name value, environment.StopsAt file name value → after.StaysAt file name value) := by
  refine ⟨?_, fun config => usable_of_configure, ?_, ?_⟩
  · intro name value hvalue
    rw [fst_configure]
    exact lookup_load hvalue
  · exact fun hagain name value hstops => (configure_again_iff_of_stopsAt hstops).mp hagain
  · intro hstays
    by_cases hstops : ∃ name value, environment.StopsAt file name value
    · obtain ⟨name, value, hstops⟩ := hstops
      exact (configure_again_iff_of_stopsAt hstops).mpr (hstays name value hstops)
    · have hnone : ∀ name value, ¬ environment.StopsAt file name value :=
        fun name value h => hstops ⟨name, value, h⟩
      obtain ⟨filled, hload, hagain⟩ := load_of_not_stopsAt hnone
      rw [configure_of_load_ok hload, configure_of_load_ok hagain]

/-- A file that switches files off before a variable that cannot be set fails for that variable only
once; and a variable whose value refers to another one that the file defines twice, first with a
null and then without, is refused only once. -/
theorem configure_again_differs :
    (let file := "PYTHON_DOTENV_DISABLED=1\n'A=B'=x\n"
     let after := (configure file []).1
     ∃ failure failure', (configure file []).2 = .error failure ∧
       (after.configure file).2 = .error failure' ∧ failure.message ≠ failure'.message) ∧
      (let file := "X=\x00\nY=$\x7bX\x7d\nX=2\n"
       let after := (configure file []).1
       after.lookup "Y" = none ∧ (after.configure file).1.lookup "Y" = some "2") := by
  constructor
  · intro file after
    have hresolve : resolve [] (bindings file) =
        [("PYTHON_DOTENV_DISABLED", some "1"), ("A=B", some "x")] := by
      decide +kernel
    have hload : load file [] = ([("PYTHON_DOTENV_DISABLED", "1")],
        .error (.environment (complaint "A=B" "x"))) := by
      rw [load_of_reads rfl, hresolve, fill_cons_of_absent rfl, if_pos (by decide +kernel),
        fill_cons_of_absent (by decide +kernel), if_neg (by decide +kernel)]
      rfl
    have hoff : readsFiles [("PYTHON_DOTENV_DISABLED", "1")] = false := by decide +kernel
    have hfirst : configure file [] = _ := configure_of_load_error hload
    have hagain : configure file [("PYTHON_DOTENV_DISABLED", "1")] = _ :=
      configure_of_load_ok (load_of_not_reads hoff)
    simp only [after, hfirst, hagain]
    exact ⟨_, .missingEnvironment [apiKey, siteId], rfl, rfl, by decide +kernel⟩
  · intro file after
    have hresolve : resolve [] (bindings file) = [("X", some "2"), ("Y", some "\x00")] := by
      decide +kernel
    have hresolve' : resolve [("X", "2")] (bindings file) = [("X", some "2"), ("Y", some "2")] := by
      decide +kernel
    have hfirst : (configure file []).1 = [("X", "2")] := by
      rw [fst_configure, load_of_reads rfl, hresolve, fill_cons_of_absent rfl,
        if_pos (by decide +kernel), fill_cons_of_absent (by decide +kernel),
        if_neg (by decide +kernel)]
      rfl
    have hagain : (configure file [("X", "2")]).1 = [("X", "2"), ("Y", "2")] := by
      rw [fst_configure, load_of_reads rfl, hresolve', fill_cons_of_present (fun _ => rfl),
        fill_cons_of_absent (by decide +kernel), if_pos (by decide +kernel)]
      rfl
    simp only [after, hfirst, hagain]
    exact ⟨rfl, rfl⟩

end SiteStats.Environment
