import SiteStats.Text.Classes

/-!
# Environment files

An environment file sets variables, one per line: a name, an equals sign, and a value that may stand
in quotes. `EnvFile.bindings` reads the file line by line; a line that cannot be read is skipped.
`EnvFile.resolve` then puts values in the place of the references to other variables.

A value in quotes may go over several lines. A backslash in it takes the next character with it, so
the value ends at the first quote that does not follow such a backslash.
-/

namespace SiteStats.EnvFile

open Text (isSpace)

/-- A white space that does not end the line. -/
def isInlineSpace (c : Char) : Bool :=
  isSpace c && c != '\r' && c != '\n'

/-- A character that does not end the line. -/
def inLine (c : Char) : Bool :=
  c != '\r' && c != '\n'

/-- What a line says: a name with a value, a name alone, or nothing. -/
structure Binding where
  name : Option String
  value : Option String
deriving DecidableEq, Repr

/-! ## Values -/

/-- Splits at the first quote of the given kind that no backslash takes with it. -/
def splitAtQuote (quote : Char) : List Char → Option (List Char × List Char)
  | [] => none
  | c :: rest =>
    if c = quote then some ([], rest)
    else if c = '\\' then
      match rest with
      | [] => none
      | d :: rest => (splitAtQuote quote rest).map fun (a, b) => (c :: d :: a, b)
    else (splitAtQuote quote rest).map fun (a, b) => (c :: a, b)

/-- What stands for a backslash and one of these characters between double quotes. -/
def doubleEscapes : List (Char × Char) :=
  [('\\', '\\'), ('\'', '\''), ('"', '"'), ('a', '\x07'), ('b', '\x08'), ('f', '\x0c'), ('n', '\n'),
    ('r', '\r'), ('t', '\t'), ('v', '\x0b')]

/-- What stands for a backslash and one of these characters between single quotes. -/
def singleEscapes : List (Char × Char) :=
  [('\\', '\\'), ('\'', '\'')]

/-- The text with its escapes resolved; a backslash before any other character stays. -/
def unescape (escapes : List (Char × Char)) : List Char → List Char
  | [] => []
  | '\\' :: c :: rest =>
    match escapes.lookup c with
    | some meant => meant :: unescape escapes rest
    | none => '\\' :: unescape escapes (c :: rest)
  | c :: rest => c :: unescape escapes rest

/-- The text up to the first comment, which is a number sign with white space before it. -/
def cutComment (s : List Char) : List Char :=
  match s with
  | [] => []
  | c :: rest =>
    if isSpace c ∧ (s.dropWhile isSpace).head? = some '#' then [] else c :: cutComment rest

/-- The value at the start of a text and what follows it; there is none when a quote is not closed.
The blanks before a value are no part of it, but a number sign after them starts a comment. -/
def value? (s : List Char) : Option (String × List Char) :=
  match s.dropWhile isInlineSpace with
  | '\'' :: rest => quoted '\'' singleEscapes rest
  | '"' :: rest => quoted '"' doubleEscapes rest
  | _ =>
    let line := s.takeWhile inLine
    some (String.ofList (Text.trim isSpace (cutComment line)), s.drop line.length)
where
  /-- A value in quotes, after the opening one. -/
  quoted (quote : Char) (escapes : List (Char × Char)) (s : List Char) :
      Option (String × List Char) :=
    (splitAtQuote quote s).map fun (inner, rest) =>
      (String.ofList (unescape escapes inner), rest)

/-! ## Lines -/

/-- The word `export` with white space behind it, if it comes next, is passed over. -/
def skipExport (s : List Char) : List Char :=
  let word := "export".toList
  let rest := s.drop word.length
  if word.isPrefixOf s && rest.head?.any isInlineSpace then rest.dropWhile isInlineSpace else s

/-- The name at the start of a text, which may stand in single quotes, and what follows it. Where a
comment starts there is no name, and elsewhere it is an error when there is none. -/
def name? (s : List Char) : Option (Option String × List Char) :=
  match s with
  | '#' :: _ => some (none, s)
  | '\'' :: rest =>
    let name := rest.takeWhile (· != '\'')
    if name.isEmpty then none
    else
      match rest.drop name.length with
      | _ :: rest => some (some (String.ofList name), rest)
      | [] => none
  | s =>
    let name := s.takeWhile fun c => c != '=' && c != '#' && !isSpace c
    if name.isEmpty then none else some (some (String.ofList name), s.drop name.length)

/-- What may follow a value up to the end of the line: white space and a comment. -/
def endOfLine? (s : List Char) : Option (List Char) :=
  let s := s.dropWhile isInlineSpace
  let s :=
    match s with
    | '#' :: _ => s.dropWhile inLine
    | s => s
  match s with
  | '\r' :: '\n' :: rest => some rest
  | '\r' :: rest => some rest
  | '\n' :: rest => some rest
  | [] => some []
  | _ => none

/-- Passes over the rest of a line that could not be read. -/
def skipLine (s : List Char) : List Char :=
  (s.dropWhile inLine).drop 1

/-- Where a line is read up to, and what it says; nothing if it could not be read. -/
def line (s : List Char) : Binding × List Char :=
  let failed (rest : List Char) : Binding × List Char := (⟨none, none⟩, skipLine rest)
  let s := skipExport s
  match name? s with
  | none => failed s
  | some (name, s) =>
    let s := s.dropWhile isInlineSpace
    match s with
    | '=' :: rest =>
      match value? rest with
      | none => failed rest
      | some (value, rest) =>
        match endOfLine? rest with
        | some next => (⟨name, some value⟩, next)
        | none => failed rest
    | s =>
      match endOfLine? s with
      | some next => (⟨name, none⟩, next)
      | none => failed s

/-- Reads line after line; the fuel bounds the number of lines. -/
def linesOf : Nat → List Char → List Binding
  | 0, _ => []
  | fuel + 1, s =>
    match s.dropWhile isSpace with
    | [] => []
    | s =>
      let (binding, rest) := line s
      binding :: linesOf fuel rest

/-- The names of a file in the order of its lines, with their values if they have one. No line is
shorter than one character. -/
def bindings (file : String) : List (String × Option String) :=
  (linesOf (file.length + 1) file.toList).filterMap fun binding =>
    binding.name.map fun name => (name, binding.value)

/-! ## References -/

/-- The reference whose opening brace has been passed: a name, perhaps a default after a colon and a
hyphen, and a closing brace. What follows it is returned too. -/
def reference? (s : List Char) : Option ((List Char × Option (List Char)) × List Char) :=
  let name := s.takeWhile fun c => c != '\x7d' && c != ':'
  match s.drop name.length with
  | '\x7d' :: rest => some ((name, none), rest)
  | ':' :: '-' :: rest =>
    let fallback := rest.takeWhile (· != '\x7d')
    match rest.drop fallback.length with
    | _ :: rest => some ((name, some fallback), rest)
    | [] => none
  | _ => none

theorem length_of_reference? {s : List Char} {r : (List Char × Option (List Char)) × List Char}
    (h : reference? s = some r) : r.2.length < s.length := by
  have drops : ∀ (t : List Char) (n : Nat) (c : Char) (u : List Char), t.drop n = c :: u →
      u.length < t.length := by
    intro t n c u htu
    have := congrArg List.length htu
    simp only [List.length_drop, List.length_cons] at this
    omega
  unfold reference? at h
  simp only [] at h
  split at h
  · rename_i hd
    cases h
    exact drops _ _ _ _ hd
  · rename_i hd
    split at h
    · rename_i hr
      cases h
      have h₁ := drops _ _ _ _ hd
      have h₂ := drops _ _ _ _ hr
      simp only [List.length_cons] at h₁
      simp only
      omega
    · cases h
  · cases h

/-- The text with its references replaced. A name that is not known stands for the default of its
reference. -/
def expand (known : String → Option (Option String)) (s : List Char) : List Char :=
  match s with
  | '$' :: '\x7b' :: rest =>
    match h : reference? rest with
    | some ((name, fallback), after) =>
      have : after.length < rest.length := length_of_reference? h
      let meant :=
        match known (String.ofList name) with
        | some value => (value.getD "").toList
        | none => fallback.getD []
      meant ++ expand known after
    | none => '$' :: expand known ('\x7b' :: rest)
  | c :: rest => c :: expand known rest
  | [] => []
termination_by s.length

/-- Gives a name a value: at its place if it has one, else at the end. -/
def set {α : Type} (name : String) (value : α) : List (String × α) → List (String × α)
  | [] => [(name, value)]
  | binding :: rest =>
    if binding.1 = name then (name, value) :: rest else binding :: set name value rest

/-- The variables that the lines set. A reference is looked up in the environment first and then
among the lines before; a name that comes twice stays at its first place and has its last value. -/
def resolve (environment : List (String × String)) (lines : List (String × Option String)) :
    List (String × Option String) :=
  lines.foldl (fun done (name, value) =>
    let known (wanted : String) :=
      ((environment.lookup wanted).map some).or (done.lookup wanted)
    set name (value.map fun v => String.ofList (expand known v.toList)) done) []

end SiteStats.EnvFile
