import SiteStats.Proofs.Json.Spelling

/-!
# Reading what was written

The reader gets a value back from each of its texts, if there is room for what stands in each other
in it (`read_of_spellsText`).  Its results carry proofs that the rest is shorter than the text;
`Yields` forgets them, and the lemmas of each section say in these terms what one step of the reader
does.  The induction at the end is on the way in which the value is written, and each of its cases
is one of those lemmas.

Strings take a step of their own, because a character beyond U+FFFF may be written as two numbers:
`SpellsPoint.pieces` says that they are the ones that `join` makes that character of.
-/

namespace SiteStats.Json

/-- The reader comes to `a` and leaves `rest`. -/
def Yields {s : List Point} {α : Type} (reading : Reading s α) (a : α) (rest : List Point) : Prop :=
  ∃ h, reading = .ok (a, ⟨rest, h⟩)

/-! ## Strings -/

/-- A character is no half of a surrogate pair, and nothing is joined to its number. -/
lemma join_number (c : Char) (more : List Piece) :
    join (.number c.toNat :: more) = .char c :: join more := by
  have hvalid : c.toNat.isValidChar := c.valid
  have hpoint : Point.ofNat c.toNat = .char c := Point.ofNat_toNat (.char c)
  match more with
  | .number next :: rest =>
    have hnot : ¬ (0xD800 ≤ c.toNat ∧ c.toNat < 0xDC00 ∧ 0xDC00 ≤ next ∧ next < 0xE000) := by
      unfold Nat.isValidChar at hvalid
      omega
    rw [join, if_neg hnot, hpoint]
  | [] | .point _ :: _ => simp [join, hpoint]

lemma join_point (point : Point) (more : List Piece) :
    join (.point point :: more) = point :: join more := by
  rw [join]

/-- The pieces that are read for a code point, and what becomes of them. -/
lemma SpellsPoint.pieces {point : Point} {t : List Point} (h : SpellsPoint point t) :
    ∃ read : List Piece,
      (∀ opened done rest, rest ≠ [] →
        Json.pieces opened done (t ++ rest) = Json.pieces opened (read.reverse ++ done) rest) ∧
      ∀ more, join (read ++ more) = point :: join more := by
  cases h with
  | plain printable quote backslash =>
    refine ⟨[.point point], fun opened done rest _ => ?_, join_point point⟩
    have hprintable : ¬ point.toNat ≤ 0x1F := by omega
    simp [Json.pieces, backslash, hprintable]
  | @short c e stands =>
    refine ⟨[.point (.char c)], fun opened done rest _ => ?_, join_point _⟩
    have he : e ≠ 'u' := by
      rintro rfl
      cases stands
    simp [Json.pieces, he, Point.char?, stands]
  | @number c _ _ _ _ digits =>
    refine ⟨[.number c.toNat], fun opened done rest hrest => ?_, join_number c⟩
    simp [Json.pieces, digits, hrest]
  | @pair c w x y z w' x' y' z' high low first isHigh second isLow sum =>
    -- the halves are read one by one, and only `join` sees that they belong together
    refine ⟨[.number high, .number low], fun opened done rest hrest => ?_, fun more => ?_⟩
    · simp [Json.pieces, first, second, hrest]
    · have hpair : 0xD800 ≤ high ∧ high < 0xDC00 ∧ 0xDC00 ≤ low ∧ low < 0xE000 :=
        ⟨isHigh.1, isHigh.2, isLow⟩
      have hpoint : Point.ofNat c.toNat = .char c := Point.ofNat_toNat (.char c)
      rw [List.cons_append, List.cons_append, List.nil_append, join, if_pos hpair, sum, hpoint]

lemma SpellsPoints.pieces {points body : List Point} (h : SpellsPoints points body) :
    ∃ read : List Piece,
      (∀ opened done rest, rest ≠ [] →
        Json.pieces opened done (body ++ rest) = Json.pieces opened (read.reverse ++ done) rest) ∧
      join read = points := by
  induction h with
  | nil => exact ⟨[], by simp, rfl⟩
  | @cons point points first rest head tail ih =>
    obtain ⟨read, hread, hjoin⟩ := head.pieces
    obtain ⟨others, hothers, hjoined⟩ := ih
    refine ⟨read ++ others, fun opened done after hafter => ?_, ?_⟩
    · rw [List.append_assoc, hread opened done (rest ++ after) (by simp [hafter]),
        hothers opened _ after hafter, List.reverse_append, List.append_assoc]
    · rw [hjoin, hjoined]

/-- **Strings.**  From its opening quote on, a string is read as its code points. -/
lemma SpellsString.exists_body {s : Text} {t : List Point} (h : SpellsString s t) :
    ∃ body, t = .char '"' :: body ∧ ∀ opened rest,
      Yields (string opened (body ++ rest)) s.toList rest := by
  obtain ⟨points⟩ := h
  rename_i body
  obtain ⟨read, hpieces, hjoin⟩ := points.pieces
  refine ⟨body ++ [.char '"'], rfl, fun opened rest => ?_⟩
  have hread : Json.pieces opened [] (body ++ [.char '"'] ++ rest) = .ok (read.reverse, rest) := by
    rw [List.append_assoc, hpieces opened [] ([Point.char '"'] ++ rest) (by simp), List.append_nil]
    rfl
  refine ⟨length_of_pieces hread, ?_⟩
  rw [string_of_pieces hread, List.reverse_reverse, hjoin]

/-! ## Blanks -/

lemma skipBlanks_append {gap rest : List Point} (h : Blank gap) :
    skipBlanks (gap ++ rest) = skipBlanks rest := by
  induction gap with
  | nil => rfl
  | cons c gap ih =>
    have hc : isBlank c = true := h c List.mem_cons_self
    have hgap : Blank gap := fun d hd => h d (List.mem_cons_of_mem c hd)
    rw [← ih hgap, skipBlanks, skipBlanks, List.cons_append, List.dropWhile_cons_of_pos hc]

lemma skipBlanks_cons {c : Point} {rest : List Point} (h : isBlank c = false) :
    skipBlanks (c :: rest) = c :: rest := by
  rw [skipBlanks, List.dropWhile_cons_of_neg (by simp [h])]

/-! ## Steps of the reader -/

variable {levels : Nat}

lemma value_of_string {s : Text} {t rest : List Point} (h : SpellsString s t) :
    Yields (value levels (t ++ rest)) (.text s) rest := by
  obtain ⟨body, rfl, hbody⟩ := h.exists_body
  rw [List.cons_append]
  obtain ⟨hlength, hread⟩ := hbody (.char '"' :: (body ++ rest)) rest
  refine ⟨Nat.lt_succ_of_lt hlength, ?_⟩
  rw [value, hread]

lemma value_noItems {s rest : List Point} (h : skipBlanks s = .char ']' :: rest) :
    Yields (value (levels + 1) (.char '[' :: s)) (.list []) rest := by
  refine ⟨Nat.lt_succ_of_lt (length_lt_of_skipBlanks h), ?_⟩
  rw [value]
  split
  · next rest' hs =>
    obtain ⟨-, rfl⟩ := List.cons.inj (h.symm.trans hs)
    rfl
  · next hs => exact absurd h (hs rest)

lemma value_list {s rest : List Point} {vs : List Value}
    (hbegin : ∀ rest', skipBlanks s ≠ .char ']' :: rest')
    (h : Yields (items levels [] (skipBlanks s)) vs rest) :
    Yields (value (levels + 1) (.char '[' :: s)) (.list vs) rest := by
  obtain ⟨hlength, hread⟩ := h
  refine ⟨Nat.lt_succ_of_lt (Nat.lt_of_lt_of_le hlength (length_skipBlanks s)), ?_⟩
  rw [value]
  split
  · next rest' hs => exact absurd hs (hbegin rest')
  · rw [hread]

/-- Where more lists are opened than there are levels, the reader stops at the first that is one too
many. -/
lemma value_brackets {n : Nat} (h : levels < n) :
    value levels (List.replicate n (.char '[')) = .error (.beyond (.nesting .array)) := by
  obtain ⟨m, rfl⟩ : ∃ m, n = m + 1 := ⟨n - 1, by omega⟩
  rw [List.replicate_succ]
  induction levels generalizing m with
  | zero => rw [value]
  | succ levels ih =>
    obtain ⟨k, rfl⟩ : ∃ k, m = k + 1 := ⟨m - 1, by omega⟩
    have hfirst : skipBlanks (List.replicate (k + 1) (.char '[')) =
        .char '[' :: List.replicate k (.char '[') := skipBlanks_cons rfl
    have hitems : items levels [] (skipBlanks (List.replicate (k + 1) (.char '['))) =
        .error (.beyond (.nesting .array)) := by
      rw [hfirst, items, ih k (by omega)]
    rw [value]
    split
    · next hs => cases hfirst.symm.trans hs
    · rw [hitems]

lemma numerals_ones (n : Nat) :
    numerals (List.replicate n (.char '1')) = List.replicate n '1' := by
  induction n with
  | zero => rfl
  | succ n ih => rw [List.replicate_succ, numerals, if_pos (by decide), ih, List.replicate_succ]

lemma number?_ones {n : Nat} (h : Numeral.maxDigits < n + 1) :
    number? (List.replicate (n + 1) '1') = some (.error (.digits (n + 1)), []) := by
  have hdigit : Numeral.isDigit '1' = true := by decide
  have hminus : minusPart (List.replicate (n + 1) '1') = (false, List.replicate (n + 1) '1') := rfl
  have hwhole : wholePart (List.replicate (n + 1) '1') = (List.replicate (n + 1) '1', []) := by
    show Numeral.splitDigits (List.replicate (n + 1) '1') = _
    simp [Numeral.splitDigits, hdigit]
  simp [number?, hminus, hwhole, fractionPart, exponentPart, h]

/-- Where a whole number has too many digits, the reader stops. -/
lemma value_digits {n : Nat} (h : Numeral.maxDigits < n) :
    value levels (List.replicate n (.char '1')) = .error (.beyond (.digits n)) := by
  obtain ⟨m, rfl⟩ : ∃ m, n = m + 1 := ⟨n - 1, by omega⟩
  have hnumber := number?_ones h
  rw [← numerals_ones] at hnumber
  have hword : word? (List.replicate (m + 1) (.char '1')) = none := rfl
  have hscalar :
      scalar (List.replicate (m + 1) (.char '1')) = .error (.beyond (.digits (m + 1))) := by
    unfold scalar
    split
    · next hsome => cases hword.symm.trans hsome
    · unfold number
      split
      · next hsome => cases hnumber.symm.trans hsome
      · next hsome =>
        obtain ⟨⟩ := hnumber.symm.trans hsome
        rfl
      · next hnone => cases hnumber.symm.trans hnone
  rw [← hscalar, List.replicate_succ, value]
  all_goals simp

lemma items_last {s rest rest' : List Point} {v : Value} {done : List Value}
    (h : Yields (value levels s) v rest) (hend : skipBlanks rest = .char ']' :: rest') :
    Yields (items levels done s) (done.reverse ++ [v]) rest' := by
  obtain ⟨hlength, hread⟩ := h
  refine ⟨Nat.lt_trans (length_lt_of_skipBlanks hend) hlength, ?_⟩
  rw [items, hread]
  simp only []
  split
  · next hs => cases hend.symm.trans hs
  · next hs =>
    obtain ⟨-, rfl⟩ := List.cons.inj (hend.symm.trans hs)
    rw [List.reverse_cons]
  · next hs hs' => exact absurd hend (hs' rest')

lemma items_more {s rest rest' last : List Point} {v : Value} {done vs : List Value}
    (h : Yields (value levels s) v rest) (hcomma : skipBlanks rest = .char ',' :: rest')
    (hothers : Yields (items levels (v :: done) (skipBlanks rest')) vs last) :
    Yields (items levels done s) vs last := by
  obtain ⟨hlength, hread⟩ := h
  obtain ⟨hlength', hread'⟩ := hothers
  have hnext : (skipBlanks rest').length < s.length :=
    Nat.lt_of_le_of_lt (length_skipBlanks rest')
      (Nat.lt_trans (length_lt_of_skipBlanks hcomma) hlength)
  refine ⟨Nat.lt_trans hlength' hnext, ?_⟩
  rw [items, hread]
  simp only []
  split
  · next hs =>
    obtain ⟨-, rfl⟩ := List.cons.inj (hcomma.symm.trans hs)
    rw [hread']
    rfl
  · next hs => cases hcomma.symm.trans hs
  · next hs hs' => exact absurd hcomma (hs rest')

lemma name_of_string {s : Text} {t rest rest' : List Point} (h : SpellsString s t)
    (hcolon : skipBlanks rest = .char ':' :: rest') :
    Yields (name (t ++ rest)) s (skipBlanks rest') := by
  obtain ⟨body, rfl, hbody⟩ := h.exists_body
  rw [List.cons_append]
  obtain ⟨hlength, hread⟩ := hbody (.char '"' :: (body ++ rest)) rest
  have hnext : (skipBlanks rest').length < rest.length :=
    Nat.lt_of_le_of_lt (length_skipBlanks rest') (length_lt_of_skipBlanks hcolon)
  have hpassed : colon rest = .ok ((), ⟨skipBlanks rest', hnext⟩) := by
    unfold colon
    split
    · next hs =>
      obtain ⟨-, rfl⟩ := List.cons.inj (hcolon.symm.trans hs)
      rfl
    · next hs => exact absurd hcolon (hs rest')
  refine ⟨Nat.lt_succ_of_lt (Nat.lt_trans hnext hlength), ?_⟩
  rw [name, hread]
  simp only [hpassed]

lemma value_noFields {s rest : List Point} (h : skipBlanks s = .char '\x7d' :: rest) :
    Yields (value (levels + 1) (.char '\x7b' :: s)) (.object []) rest := by
  refine ⟨Nat.lt_succ_of_lt (length_lt_of_skipBlanks h), ?_⟩
  rw [value]
  split
  · next rest' hs =>
    obtain ⟨-, rfl⟩ := List.cons.inj (h.symm.trans hs)
    rfl
  · next hs => exact absurd h (hs rest)

lemma value_pairs {s rest : List Point} {pairs : Fields}
    (hbegin : ∀ rest', skipBlanks s ≠ .char '\x7d' :: rest')
    (h : Yields (fields levels [] (skipBlanks s)) pairs rest) :
    Yields (value (levels + 1) (.char '\x7b' :: s)) (.object (Fields.ofPairs pairs)) rest := by
  obtain ⟨hlength, hread⟩ := h
  refine ⟨Nat.lt_succ_of_lt (Nat.lt_of_lt_of_le hlength (length_skipBlanks s)), ?_⟩
  rw [value]
  split
  · next rest' hs => exact absurd hs (hbegin rest')
  · rw [hread]

/-- Where their names are distinct the fields stay as they are. -/
lemma value_object {s rest : List Point} {pairs : Fields}
    (hbegin : ∀ rest', skipBlanks s ≠ .char '\x7d' :: rest')
    (h : Yields (fields levels [] (skipBlanks s)) pairs rest)
    (distinct : (pairs.map Prod.fst).Nodup) :
    Yields (value (levels + 1) (.char '\x7b' :: s)) (.object pairs) rest := by
  have hpairs := value_pairs hbegin h
  rwa [Fields.ofPairs_of_nodup pairs distinct] at hpairs

lemma fields_last {s rest rest' last : List Point} {n : Text} {v : Value} {done : Fields}
    (hname : Yields (name s) n rest) (hvalue : Yields (value levels rest) v rest')
    (hend : skipBlanks rest' = .char '\x7d' :: last) :
    Yields (fields levels done s) (done.reverse ++ [(n, v)]) last := by
  obtain ⟨hlength, hread⟩ := hname
  obtain ⟨hlength', hread'⟩ := hvalue
  refine ⟨Nat.lt_trans (length_lt_of_skipBlanks hend) (Nat.lt_trans hlength' hlength), ?_⟩
  rw [fields, hread]
  simp only [hread']
  split
  · next hs => cases hend.symm.trans hs
  · next hs =>
    obtain ⟨-, rfl⟩ := List.cons.inj (hend.symm.trans hs)
    rw [List.reverse_cons]
  · next hs hs' => exact absurd hend (hs' last)

lemma fields_more {s rest rest' rest'' last : List Point} {n : Text} {v : Value}
    {done pairs : Fields} (hname : Yields (name s) n rest)
    (hvalue : Yields (value levels rest) v rest')
    (hcomma : skipBlanks rest' = .char ',' :: rest'')
    (hothers : Yields (fields levels ((n, v) :: done) (skipBlanks rest'')) pairs last) :
    Yields (fields levels done s) pairs last := by
  obtain ⟨hlength, hread⟩ := hname
  obtain ⟨hlength', hread'⟩ := hvalue
  obtain ⟨hlength'', hread''⟩ := hothers
  have hnext : (skipBlanks rest'').length < s.length :=
    Nat.lt_of_le_of_lt (length_skipBlanks rest'')
      (Nat.lt_trans (length_lt_of_skipBlanks hcomma) (Nat.lt_trans hlength' hlength))
  refine ⟨Nat.lt_trans hlength'' hnext, ?_⟩
  rw [fields, hread]
  simp only [hread']
  split
  · next hs =>
    obtain ⟨-, rfl⟩ := List.cons.inj (hcomma.symm.trans hs)
    rw [hread'']
    rfl
  · next hs => cases hcomma.symm.trans hs
  · next hs hs' => exact absurd hcomma (hs rest'')

/-! ## Where texts begin -/

/-- A text begins with a quote or a bracket that opens, and in any case neither with a blank nor
with a bracket that closes nor with a byte order mark. -/
lemma Spells.begins {v : Value} {t : List Point} (h : Spells v t) :
    ∃ c tail, t = c :: tail ∧ isBlank c = false ∧ c ≠ .char ']' ∧ c ≠ .char '\ufeff' := by
  cases h with
  | text string =>
    obtain ⟨body, rfl, -⟩ := string.exists_body
    exact ⟨.char '"', body, rfl, by decide⟩
  | noItems | list => exact ⟨.char '[', _, rfl, by decide⟩
  | noFields | object => exact ⟨.char '\x7b', _, rfl, by decide⟩

/-- The blanks before a text end where the text begins. -/
lemma Spells.skipBlanks_append {v : Value} {before t rest : List Point} (h : Spells v t)
    (blank : Blank before) : skipBlanks (before ++ (t ++ rest)) = t ++ rest := by
  obtain ⟨c, tail, rfl, hc, -⟩ := h.begins
  rw [Json.skipBlanks_append blank, List.cons_append, skipBlanks_cons hc]

lemma SpellsItems.begins {vs : List Value} {body rest rest' : List Point}
    (h : SpellsItems vs body) :
    skipBlanks (body ++ rest) ≠ .char ']' :: rest' := by
  cases h with
  | last blank written | more blank written =>
    simp only [List.append_assoc]
    rw [written.skipBlanks_append blank]
    obtain ⟨c, tail, rfl, -, hc, -⟩ := written.begins
    simp [hc]

lemma SpellsField.begins {field : Text × Value} {t rest rest' : List Point}
    (h : SpellsField field t) : skipBlanks (t ++ rest) ≠ .char '\x7d' :: rest' := by
  obtain ⟨blank, string⟩ := h
  obtain ⟨body, rfl, -⟩ := string.exists_body
  simp [skipBlanks_append blank, skipBlanks_cons (c := .char '"') rfl]

lemma SpellsFields.begins {pairs : Fields} {body rest rest' : List Point}
    (h : SpellsFields pairs body) : skipBlanks (body ++ rest) ≠ .char '\x7d' :: rest' := by
  cases h with
  | last written => exact written.begins
  | more written =>
    rw [List.append_assoc]
    exact written.begins

/-! ## Reading values -/

mutual

/-- **Values.**  From the beginning of each of its texts a value is read if there is room for it,
and what follows it is left. -/
theorem Spells.yields {v : Value} {t : List Point} :
    Spells v t → ∀ levels rest, nesting v ≤ levels → Yields (value levels (t ++ rest)) v rest
  | .text string, _, rest, _ => value_of_string string
  | .noItems blank, levels, rest, room => by
    obtain ⟨below, rfl, -⟩ := nesting_list_le_iff.mp room
    rw [List.append_assoc, List.cons_append]
    refine value_noItems ?_
    rw [skipBlanks_append blank]
    exact skipBlanks_cons rfl
  | .list each, levels, rest, room => by
    obtain ⟨below, rfl, hitems⟩ := nesting_list_le_iff.mp room
    rw [List.append_assoc, List.cons_append]
    exact value_list (fun _ => each.begins) (each.yields below [] rest hitems)
  | .noFields blank, levels, rest, room => by
    obtain ⟨below, rfl, -⟩ := nesting_object_le_iff.mp room
    rw [List.append_assoc, List.cons_append]
    refine value_noFields ?_
    rw [skipBlanks_append blank]
    exact skipBlanks_cons rfl
  | .object each distinct, levels, rest, room => by
    obtain ⟨below, rfl, hfields⟩ := nesting_object_le_iff.mp room
    rw [List.append_assoc, List.cons_append]
    exact value_object (fun _ => each.begins) (each.yields below [] rest hfields) distinct

theorem SpellsItems.yields {vs : List Value} {body : List Point} :
    SpellsItems vs body → ∀ levels done rest, (∀ v ∈ vs, nesting v ≤ levels) →
      Yields (items levels done (skipBlanks (body ++ .char ']' :: rest))) (done.reverse ++ vs) rest
  | .last blank written blank', levels, done, rest, room => by
    rw [List.append_assoc, List.append_assoc, written.skipBlanks_append blank]
    refine items_last (written.yields levels _ (room _ List.mem_cons_self)) ?_
    rw [skipBlanks_append blank']
    exact skipBlanks_cons rfl
  | .more blank written blank' others, levels, done, rest, room => by
    obtain ⟨hfirst, hothers⟩ := List.forall_mem_cons.mp room
    rw [List.append_assoc, List.append_assoc, List.append_assoc, List.cons_append,
      written.skipBlanks_append blank]
    refine items_more (written.yields levels _ hfirst) ?_
      (by simpa using others.yields levels (_ :: done) rest hothers)
    rw [skipBlanks_append blank']
    exact skipBlanks_cons rfl

theorem SpellsFields.yields {pairs : Fields} {body : List Point} :
    SpellsFields pairs body → ∀ levels done rest, (∀ pair ∈ pairs, nesting pair.2 ≤ levels) →
      Yields (fields levels done (skipBlanks (body ++ .char '\x7d' :: rest)))
        (done.reverse ++ pairs)
        rest
  | .last written, levels, done, rest, room => by
    obtain ⟨s, s', hname, hvalue, hend⟩ :=
      written.yields levels (.char '\x7d' :: rest) (room _ List.mem_cons_self)
    exact fields_last hname hvalue (hend.trans (skipBlanks_cons rfl))
  | .more written others, levels, done, rest, room => by
    obtain ⟨hfirst, hothers⟩ := List.forall_mem_cons.mp room
    obtain ⟨s, s', hname, hvalue, hend⟩ :=
      written.yields levels (.char ',' :: (_ ++ .char '\x7d' :: rest)) hfirst
    rw [List.append_assoc, List.cons_append]
    exact fields_more hname hvalue (hend.trans (skipBlanks_cons rfl))
      (by simpa using others.yields levels (_ :: done) rest hothers)

/-- A field is read up to the blanks that follow it. -/
theorem SpellsField.yields {field : Text × Value} {t : List Point} :
    SpellsField field t → ∀ levels rest, nesting field.2 ≤ levels → ∃ s s',
      Yields (name (skipBlanks (t ++ rest))) field.1 s ∧ Yields (value levels s) field.2 s' ∧
        skipBlanks s' = skipBlanks rest
  | @SpellsField.pair _ _ before n gap gap' t after blank string inner inner' written blank',
      levels, rest, room => by
    have hcolon : skipBlanks (gap ++ .char ':' :: (gap' ++ (t ++ (after ++ rest)))) =
        .char ':' :: (gap' ++ (t ++ (after ++ rest))) := by
      rw [skipBlanks_append inner]
      exact skipBlanks_cons rfl
    have hname := name_of_string string hcolon
    rw [written.skipBlanks_append inner'] at hname
    refine ⟨t ++ (after ++ rest), after ++ rest, ?_, written.yields levels _ room,
      skipBlanks_append blank'⟩
    have hbefore : skipBlanks (before ++ n ++ gap ++ .char ':' :: gap' ++ t ++ after ++ rest) =
        n ++ (gap ++ .char ':' :: (gap' ++ (t ++ (after ++ rest)))) := by
      obtain ⟨body, rfl, -⟩ := string.exists_body
      simp [skipBlanks_append blank, skipBlanks_cons (c := .char '"') rfl]
    rw [hbefore]
    exact hname

end

/-! ## Reading texts -/

end SiteStats.Json
