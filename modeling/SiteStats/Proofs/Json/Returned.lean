import Mathlib.Data.List.TakeWhile
import SiteStats.Json.Encoding
import SiteStats.Proofs.Common
import SiteStats.Proofs.Json.Reading

/-!
# What the reader returns

Not every value can be read from a text: there are no days in JSON, nothing in it is built already,
and a whole number with too many digits stops the reader.  `Readable` says which values are left,
and `readable_of_read` that nothing else is ever returned.  From this it follows that whatever has
been read can be written out (`Readable.isWritable`).

The lemmas `value_cases`, `items_cases` and `fields_cases` say once what a step of the reader can
have done; the induction after them follows the recursion of the reader and never looks at its
definition.
-/

namespace SiteStats.Json

/-- The values that can be read from a text. -/
inductive Readable : Value → Prop
  | null : Readable .null
  | bool (value : Bool) : Readable (.bool value)
  | int {value : Int} (writable : Numeral.isWritable value = true) : Readable (.int value)
  | float (value : Float) : Readable (.float value)
  | text (value : Text) : Readable (.text value)
  | list {items : List Value} (each : ∀ item ∈ items, Readable item) : Readable (.list items)
  | object {fields : Fields} (each : ∀ field ∈ fields, Readable field.2) : Readable (.object fields)

theorem Readable.isWritable {v : Value} (h : Readable v) : v.isWritable = true := by
  induction h with
  | int writable => simpa [Value.isWritable] using writable
  | list _ ih => exact Value.isWritable_list.mpr ih
  | object _ ih => exact Value.isWritable_object.mpr ih
  | null | bool | float | text => rfl

/-! ## Steps of the reader -/

section Cases

variable {levels : Nat} {s rest : List Point}

@[simp] lemma yields_ok {t : List Point} {α : Type} {a b : α} {h : t.length < s.length} :
    Yields (.ok (a, ⟨t, h⟩) : Reading s α) b rest ↔ a = b ∧ t = rest := by
  constructor
  · rintro ⟨_, hread⟩
    obtain ⟨rfl, hrest⟩ := Prod.mk.inj (Except.ok.inj hread)
    exact ⟨rfl, congrArg Subtype.val hrest⟩
  · rintro ⟨rfl, rfl⟩
    exact ⟨h, rfl⟩

@[simp] lemma yields_error {α : Type} {a : α} {fault : Fault} :
    ¬ Yields (.error fault : Reading s α) a rest := by
  rintro ⟨_, ⟨⟩⟩

lemma Yields.length_lt {α : Type} {reading : Reading s α} {a : α} (h : Yields reading a rest) :
    rest.length < s.length :=
  h.1

/-- To forget how much shorter the rest is changes neither what is read nor the rest. -/
lemma yields_widen {t : List Point} {α : Type} {reading : Reading t α} {a : α}
    {hle : t.length ≤ s.length} (h : Yields (reading.widen hle) a rest) :
    Yields reading a rest := by
  obtain fault | ⟨b, rest', hlt⟩ := reading
  · exact absurd h yields_error
  · obtain ⟨rfl, rfl⟩ := yields_ok.mp h
    exact yields_ok.mpr ⟨rfl, rfl⟩

/-- The value at the start of a text is a string, a list, an object, or else a word or a number.  A
list or an object takes a level, and it ends at once or after what stands in it. -/
lemma value_cases {v : Value} (h : Yields (value levels s) v rest) :
    (∃ t, v = .text t) ∨ Yields (scalar s) v rest ∨
      (∃ below inner, levels = below + 1 ∧ s = .char '[' :: inner ∧
        (v = .list [] ∨ ∃ items', v = .list items' ∧
          Yields (items below [] (skipBlanks inner)) items' rest)) ∨
      (∃ below inner, levels = below + 1 ∧ s = .char '\x7b' :: inner ∧
        (skipBlanks inner = .char '\x7d' :: rest ∧ v = .object [] ∨
          ∃ members, v = .object (Fields.ofPairs members) ∧
            Yields (fields below [] (skipBlanks inner)) members rest)) := by
  rw [value.eq_def] at h
  split at h
  · split at h
    · exact .inl ⟨_, (yields_ok.mp h).1.symm⟩
    · exact absurd h yields_error
  · next inner =>
    refine .inr (.inr (.inl ?_))
    split at h
    · exact absurd h yields_error
    · next below =>
      refine ⟨below, inner, rfl, rfl, ?_⟩
      split at h
      · exact .inl (yields_ok.mp h).1.symm
      · split at h
        · next items' _ hlength hread =>
          obtain ⟨rfl, rfl⟩ := yields_ok.mp h
          exact .inr ⟨items', rfl, hlength, hread⟩
        · exact absurd h yields_error
  · next inner =>
    refine .inr (.inr (.inr ?_))
    split at h
    · exact absurd h yields_error
    · next below =>
      refine ⟨below, inner, rfl, rfl, ?_⟩
      split at h
      · next closed =>
        obtain ⟨rfl, rfl⟩ := yields_ok.mp h
        exact .inl ⟨closed, rfl⟩
      · split at h
        · next members _ hlength hread =>
          obtain ⟨rfl, rfl⟩ := yields_ok.mp h
          exact .inr ⟨members, rfl, hlength, hread⟩
        · exact absurd h yields_error
  · exact .inr (.inl h)

lemma items_cases {done vs : List Value} (h : Yields (items levels done s) vs rest) :
    ∃ v after, Yields (value levels s) v after ∧
      (vs = (v :: done).reverse ∨ ∃ next, skipBlanks after = .char ',' :: next ∧
        Yields (items levels (v :: done) (skipBlanks next)) vs rest) := by
  rw [items.eq_def] at h
  split at h
  · next v after hlt hread =>
    refine ⟨v, after, ⟨hlt, hread⟩, ?_⟩
    split at h
    · next next hcomma => exact .inr ⟨next, hcomma, yields_widen h⟩
    · exact .inl (yields_ok.mp h).1.symm
    · exact absurd h yields_error
  · exact absurd h yields_error

lemma fields_cases {done pairs : Fields} (h : Yields (fields levels done s) pairs rest) :
    ∃ n v between after, Yields (name s) n between ∧ Yields (value levels between) v after ∧
      (pairs = ((n, v) :: done).reverse ∨ ∃ next, skipBlanks after = .char ',' :: next ∧
        Yields (fields levels ((n, v) :: done) (skipBlanks next)) pairs rest) := by
  rw [fields.eq_def] at h
  split at h
  · next n between hlt hname =>
    split at h
    · next v after hlt' hread =>
      refine ⟨n, v, between, after, ⟨hlt, hname⟩, ⟨hlt', hread⟩, ?_⟩
      split at h
      · next next hcomma => exact .inr ⟨next, hcomma, yields_widen h⟩
      · exact .inl (yields_ok.mp h).1.symm
      · exact absurd h yields_error
    · exact absurd h yields_error
  · exact absurd h yields_error

end Cases

/-! ## Words and numbers -/

lemma digitValue_lt {c : Char} (h : Numeral.isDigit c = true) : Numeral.digitValue c < 10 := by
  rw [Numeral.isDigit, Bool.and_eq_true, decide_eq_true_iff, decide_eq_true_iff] at h
  have hle : c.toNat ≤ '9'.toNat := h.2
  show c.toNat - '0'.toNat < 10
  have hnine : '9'.toNat = '0'.toNat + 9 := rfl
  omega

lemma ofDigits_lt {digits : List Char} (h : ∀ c ∈ digits, Numeral.isDigit c = true) :
    Numeral.ofDigits digits < Nat.pow 10 digits.length := by
  rw [Nat.pow_eq]
  induction digits using List.reverseRecOn with
  | nil => simp [Numeral.ofDigits]
  | append_singleton digits c ih =>
    rw [List.forall_mem_append] at h
    have hdigit := digitValue_lt (h.2 c (List.mem_singleton_self c))
    have hrest := ih h.1
    rw [Numeral.ofDigits, List.foldl_append, ← Numeral.ofDigits, List.length_append,
      List.length_singleton, Nat.pow_succ]
    simp only [List.foldl_cons, List.foldl_nil]
    omega

lemma isDigit_of_mem_wholePart {s : List Char} {c : Char} (h : c ∈ (wholePart s).1) :
    Numeral.isDigit c = true := by
  unfold wholePart at h
  split at h
  · rw [List.mem_singleton.mp h]
    rfl
  · exact List.mem_takeWhile_imp h

/-- A whole number that is read has no more digits than it may have. -/
lemma readable_of_number? {s rest : List Char} {v : Value}
    (h : number? s = some (.ok v, rest)) : Readable v := by
  unfold number? at h
  simp only [] at h
  split at h
  · cases h
  · split at h
    · split at h
      · cases h
      · next hdigits =>
        cases h
        refine .int ?_
        have hlt := ofDigits_lt fun c hc => isDigit_of_mem_wholePart (s := (minusPart s).2) hc
        have hmax :=
          Nat.lt_of_lt_of_le hlt (Nat.pow_le_pow_right (by decide) (Nat.not_lt.mp hdigits))
        rw [Numeral.isWritable, decide_eq_true_iff]
        split <;> simpa using hmax
    · cases h
      exact .float _

lemma readable_of_word {word : Text} {v : Value} (h : (word, v) ∈ words) : Readable v := by
  simp only [words, List.mem_cons, Prod.mk.injEq, List.not_mem_nil, or_false] at h
  obtain ⟨-, rfl⟩ | ⟨-, rfl⟩ | ⟨-, rfl⟩ | ⟨-, rfl⟩ | ⟨-, rfl⟩ | ⟨-, rfl⟩ := h
  · exact .null
  · exact .bool true
  · exact .bool false
  all_goals exact .float _

lemma readable_of_scalar {s rest : List Point} {v : Value} (h : Yields (scalar s) v rest) :
    Readable v := by
  unfold scalar at h
  split at h
  · next found rest' hword =>
    obtain ⟨⟨word, value⟩, hmem, hfound⟩ := List.exists_of_findSome?_eq_some hword
    simp only [Option.ite_none_right_eq_some, Option.some.injEq, Prod.mk.injEq] at hfound
    obtain ⟨-, rfl, -⟩ := hfound
    obtain ⟨rfl, -⟩ := yields_ok.mp h
    exact readable_of_word hmem
  · unfold number at h
    split at h
    · next hnumber =>
      obtain ⟨rfl, -⟩ := yields_ok.mp h
      exact readable_of_number? hnumber
    · exact absurd h yields_error
    · exact absurd h yields_error

/-! ## Whole values -/

/-- What fields are set from is all that they hold. -/
lemma mem_of_mem_ofPairs {pairs : List (Text × Value)} {field : Text × Value}
    (h : field ∈ Fields.ofPairs pairs) : field ∈ pairs := by
  have hset : ∀ (name : Text) (value : Value) (fields : Fields),
      field ∈ Fields.set name value fields → field = (name, value) ∨ field ∈ fields := by
    intro name value fields
    induction fields with
    | nil => simp [Fields.set]
    | cons first rest ih =>
      rw [Fields.set]
      split
      · simp only [List.mem_cons]
        exact Or.imp_right .inr
      · simp only [List.mem_cons]
        rintro (rfl | hrest)
        · exact .inr (.inl rfl)
        · exact (ih hrest).imp_right .inr
  have hfold : ∀ (pairs : List (Text × Value)) (fields : Fields),
      field ∈ pairs.foldl (fun fields pair => Fields.set pair.1 pair.2 fields) fields →
        field ∈ fields ∨ field ∈ pairs := by
    intro pairs
    induction pairs with
    | nil => simp
    | cons pair pairs ih =>
      intro fields hfield
      obtain hheld | hlater := ih _ hfield
      · obtain rfl | hbefore := hset _ _ _ hheld
        · exact .inr List.mem_cons_self
        · exact .inl hbefore
      · exact .inr (List.mem_cons_of_mem _ hlater)
  simpa using hfold pairs [] h

mutual

/-- **Values.**  What is read from the start of a text can be read. -/
theorem readable_of_value {levels : Nat} {s rest : List Point} {v : Value}
    (h : Yields (value levels s) v rest) : Readable v := by
  have hshorter : ∀ {first inner}, s = first :: inner → (skipBlanks inner).length < s.length := by
    rintro first inner rfl
    exact Nat.lt_succ_of_le (length_skipBlanks inner)
  obtain ⟨t, rfl⟩ | hscalar | ⟨below, inner, -, hs, rfl | ⟨vs, rfl, hitems⟩⟩ |
    ⟨below, inner, -, hs, ⟨-, rfl⟩ | ⟨members, rfl, hfields⟩⟩ := value_cases h
  · exact .text t
  · exact readable_of_scalar hscalar
  · exact .list (by simp)
  · exact .list (readable_of_items (by simp) hitems)
  · exact .object (by simp)
  · have hmembers := readable_of_fields (by simp) hfields
    exact .object fun field hfield => hmembers field (mem_of_mem_ofPairs hfield)
termination_by (s.length, 0)
decreasing_by
  all_goals exact Prod.Lex.left _ _ (hshorter hs)

theorem readable_of_items {levels : Nat} {s rest : List Point} {done vs : List Value}
    (hdone : ∀ v ∈ done, Readable v) (h : Yields (items levels done s) vs rest) :
    ∀ v ∈ vs, Readable v := by
  obtain ⟨v, after, hvalue, hend⟩ := items_cases h
  have hall : ∀ w ∈ v :: done, Readable w :=
    List.forall_mem_cons.mpr ⟨readable_of_value hvalue, hdone⟩
  obtain rfl | ⟨next, hcomma, hothers⟩ := hend
  · exact fun w hw => hall w (List.mem_reverse.mp hw)
  · have hshorter : (skipBlanks next).length < s.length :=
      Nat.lt_of_le_of_lt (length_skipBlanks next)
        (Nat.lt_trans (length_lt_of_skipBlanks hcomma) hvalue.length_lt)
    exact readable_of_items hall hothers
termination_by (s.length, 1)
decreasing_by
  · exact Prod.Lex.right _ Nat.zero_lt_one
  · exact Prod.Lex.left _ _ hshorter

theorem readable_of_fields {levels : Nat} {s rest : List Point} {done pairs : Fields}
    (hdone : ∀ field ∈ done, Readable field.2) (h : Yields (fields levels done s) pairs rest) :
    ∀ field ∈ pairs, Readable field.2 := by
  obtain ⟨n, v, between, after, hname, hvalue, hend⟩ := fields_cases h
  have hbetween := hname.length_lt
  have hall : ∀ field ∈ (n, v) :: done, Readable field.2 :=
    List.forall_mem_cons.mpr ⟨readable_of_value hvalue, hdone⟩
  obtain rfl | ⟨next, hcomma, hothers⟩ := hend
  · exact fun field hfield => hall field (List.mem_reverse.mp hfield)
  · have hshorter : (skipBlanks next).length < s.length :=
      Nat.lt_of_le_of_lt (length_skipBlanks next)
        (Nat.lt_trans (length_lt_of_skipBlanks hcomma) (Nat.lt_trans hvalue.length_lt hbetween))
    exact readable_of_fields hall hothers
termination_by (s.length, 1)
decreasing_by
  · exact Prod.Lex.left _ _ hbetween
  · exact Prod.Lex.left _ _ hshorter

end

/-! ## Whole texts and bodies -/

/-- A text is one value when nothing but blanks comes before and after it. -/
lemma whole_eq_ok_iff {levels : Nat} {text : List Point} {v : Value} :
    whole levels text = .ok v ↔
      ∃ rest, Yields (value levels (skipBlanks text)) v rest ∧ skipBlanks rest = [] := by
  unfold whole
  constructor
  · intro h
    split at h
    · next found rest hlength hread =>
      split at h
      · next hend =>
        cases h
        exact ⟨rest, ⟨hlength, hread⟩, hend⟩
      · cases h
    · cases h
  · rintro ⟨rest, ⟨hlength, hread⟩, hend⟩
    rw [hread]
    simp only [hend]

variable [Room] {v : Value}

lemma readable_of_readPoints {points : List Point} (h : readPoints points = .ok v) :
    Readable v := by
  obtain ⟨rest, hvalue, -⟩ := whole_eq_ok_iff.mp (Except.mapError_eq_ok_iff.mp h)
  exact readable_of_value hvalue

/-- **Texts.**  What is read from a text can be read. -/
theorem readable_of_read {text : Text} (h : read text = .ok v) : Readable v := by
  unfold read at h
  split at h
  · cases h
  · exact readable_of_readPoints h

/-- **Bodies.**  So is what is read from a body. -/
theorem readable_of_readBody {body : List UInt8} (h : readBody body = .ok v) : Readable v := by
  unfold readBody at h
  simp only [] at h
  split at h
  · exact readable_of_readPoints (Except.mapError_eq_ok_iff.mp h)
  · cases h

end SiteStats.Json
