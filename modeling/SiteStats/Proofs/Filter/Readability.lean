import SiteStats.Proofs.Filter.Reduction

/-!
# Unique readability of filters

The text of a filter is not read back anywhere, but it could be: two filters with one text have one
outline.  Three things could be in the way.  The sign `|` separates both alternatives and the
children of an *or*; parentheses show only around a nested group of several children; and values are
written as they are, without any quoting.  The demand on values that makes up for it is
`Operand.Plain`: no punctuation, and no alternative after the first that reads as the beginning of a
condition.

Reading goes from left to right.  The lemmas below say of each part of a filter, followed by a rest,
that the part and the rest are determined by the whole.  For conditions and nodes the rest has to
begin with something that can follow a node (`Follows`); that is what tells the next alternative
from the next child.  The argument runs over compact trees, in which every level shows in the text;
`Node.text_reduced` carries it over to all others.
-/

namespace SiteStats.Filter

open Text (Stops append_inj_of_stops toList_intercalate_cons)

/-! ## What values have to keep clear of -/

/-- The characters that structure a filter. -/
def IsPunctuation (c : Point) : Prop :=
  c = .char ';' ∨ c = .char '|' ∨ c = .char '(' ∨ c = .char ')'

instance : DecidablePred IsPunctuation := fun c =>
  inferInstanceAs (Decidable (c = .char ';' ∨ c = .char '|' ∨ c = .char '(' ∨ c = .char ')'))

/-- A text that begins as a condition does, with a property and a sign directly after it. -/
def BeginsCondition (s : List Point) : Prop :=
  ∃ (p : Property) (c : Comparison), (p.text ++ c.text : Text).toList <+: s

instance : DecidablePred BeginsCondition := fun s =>
  decidable_of_iff (∃ p ∈ Property.all, ∃ c ∈ Vocabulary.members (α := Comparison),
      (p.text ++ c.text : Text).toList <+: s) <| by
    constructor
    · rintro ⟨p, -, c, -, h⟩
      exact ⟨p, c, h⟩
    · rintro ⟨p, c, h⟩
      exact ⟨p, Vocabulary.mem_members p, c, Vocabulary.mem_members c, h⟩

/-- Values without punctuation; and none of them, except the first, begins as a condition does. -/
def PlainEntries (values : List Text) : Prop :=
  (∀ value ∈ values, ∀ c ∈ value.toList, ¬ IsPunctuation c) ∧
    ∀ value ∈ values.tail, ¬ BeginsCondition value.toList

-- Only the characters of the value are to be tried, and not all that there are.
instance : DecidablePred fun value : Text => ∀ c ∈ value.toList, ¬ IsPunctuation c :=
  fun value => List.decidableBAll (fun c => ¬ IsPunctuation c) value.toList

instance : DecidablePred PlainEntries := fun values =>
  inferInstanceAs (Decidable ((∀ value ∈ values, ∀ c ∈ value.toList, ¬ IsPunctuation c) ∧
    ∀ value ∈ values.tail, ¬ BeginsCondition value.toList))

/-- The values that an operand offers are plain. -/
def Operand.Plain (o : Operand) : Prop :=
  PlainEntries o.entries

instance : DecidablePred Operand.Plain := fun o =>
  inferInstanceAs (Decidable (PlainEntries o.entries))

/-- All values of a tree are plain. -/
def Node.Plain (node : Node) : Prop :=
  ∀ leaf ∈ node.leaves, leaf.operand.Plain

/-- All values of a filter are plain. -/
def Group.Plain (g : Group) : Prop :=
  ∀ leaf ∈ g.leaves, leaf.operand.Plain

instance : DecidablePred Group.Plain := fun g =>
  inferInstanceAs (Decidable (∀ leaf ∈ g.leaves, leaf.operand.Plain))

lemma Node.Plain.child {c : Combinator} {children : List Node} (h : (Node.group c children).Plain)
    {child : Node} (hmem : child ∈ children) : child.Plain := by
  intro leaf hleaf
  exact h leaf (Node.mem_leaves_of_child hmem hleaf)

lemma Node.Plain.reduced {node : Node} (h : node.Plain) : node.reduced.Plain := by
  intro leaf hleaf
  rw [Node.leaves_reduced, List.mem_map] at hleaf
  obtain ⟨original, hmem, rfl⟩ := hleaf
  simpa [Operand.Plain, Condition.reduced] using h original hmem

/-! ## Properties and signs -/

/-- The sign of a combinator as a character. -/
def Combinator.mark : Combinator → Point
  | .all => .char ';'
  | .any => .char '|'

lemma Combinator.toList_text (c : Combinator) : (c.text : Text).toList = [c.mark] := by
  cases c <;> decide

lemma Combinator.mark_injective {c d : Combinator} (h : c.mark = d.mark) : c = d := by
  revert h; cases c <;> cases d <;> decide

lemma property_text_clear (p : Property) :
    ∀ c ∈ (p.text : Text).toList, ¬ (c = .char '=' ∨ c = .char '!') ∧ ¬ IsPunctuation c := by
  have hall : (p.text : Text).toList.all (fun c =>
      decide (¬ (c = .char '=' ∨ c = .char '!') ∧ ¬ IsPunctuation c)) = true := by
    cases p <;> decide
  intro c hc
  exact of_decide_eq_true (List.all_eq_true.mp hall c hc)

/-- The first character of a sign; the second is always the same. -/
def Comparison.mark : Comparison → Point
  | .equals => .char '='
  | .differs => .char '!'

lemma Comparison.toList_text (c : Comparison) : (c.text : Text).toList = [c.mark, .char '='] := by
  cases c <;> decide

lemma Comparison.mark_injective {c d : Comparison} (h : c.mark = d.mark) : c = d := by
  revert h; cases c <;> cases d <;> decide

lemma Comparison.mark_eq (c : Comparison) : c.mark = .char '=' ∨ c.mark = .char '!' := by
  cases c <;> decide

/-- The beginning of a condition is determined by any text that follows it. -/
lemma head_append_inj {p q : Property} {c d : Comparison} {rest rest' : List Point}
    (h : (p.text : Text).toList ++ ((c.text : Text).toList ++ rest) =
      (q.text : Text).toList ++ ((d.text : Text).toList ++ rest')) :
    p = q ∧ c = d ∧ rest = rest' := by
  rw [Comparison.toList_text, Comparison.toList_text] at h
  have hclear : ∀ property : Property, ∀ x ∈ (property.text : Text).toList,
      ¬ (x = .char '=' ∨ x = .char '!') :=
    fun property x hx => (property_text_clear property x hx).1
  obtain ⟨hword, hsign⟩ := append_inj_of_stops (hclear p) (hclear q)
    (by simpa using c.mark_eq) (by simpa using d.mark_eq) h
  simp only [List.cons_append, List.nil_append, List.cons.injEq, true_and] at hsign
  exact ⟨Vocabulary.text_injective (Text.ofString_inj.mp (Text.toList_inj.mp hword)),
    Comparison.mark_injective hsign.1, hsign.2⟩

/-! ## What can follow -/

/-- The characters that can stand right behind a value. -/
def EndsValue (c : Point) : Prop :=
  c = .char ';' ∨ c = .char '|' ∨ c = .char ')'

lemma EndsValue.isPunctuation {c : Point} (h : EndsValue c) : IsPunctuation c := by
  rcases h with rfl | rfl | rfl <;> decide

/-- A text that begins as a node does: with a parenthesis, or as a condition. -/
def OpensNode (s : List Point) : Prop :=
  (∃ t, s = .char '(' :: t) ∨ BeginsCondition s

/-- What can stand behind a node: nothing, the end of a group, or a sign and the next node.  Behind
`;` there is always a node, behind `|` it could be an alternative. -/
def Follows (rest : List Point) : Prop :=
  ∀ c t, rest = c :: t → c = .char ')' ∨ c = .char ';' ∨ (c = .char '|' ∧ OpensNode t)

lemma Follows.stops {rest : List Point} (h : Follows rest) : Stops EndsValue rest := by
  cases rest with
  | nil => simp
  | cons c t =>
    rw [Text.stops_cons]
    rcases h c t rfl with rfl | rfl | ⟨rfl, -⟩ <;> simp [EndsValue]

/-- Whether a text begins as a condition is settled before the first punctuation. -/
lemma BeginsCondition.of_append {s rest : List Point} (hrest : Stops EndsValue rest)
    (h : BeginsCondition (s ++ rest)) : BeginsCondition s := by
  obtain ⟨p, c, hprefix⟩ := h
  have hclear : ∀ x ∈ (p.text ++ c.text : Text).toList, ¬ IsPunctuation x := by
    intro x hx
    rw [Text.toList_append, List.mem_append, Comparison.toList_text, List.mem_pair] at hx
    rcases hx with hx | rfl | rfl
    · exact (property_text_clear p x hx).2
    · cases c <;> decide
    · decide
  refine ⟨p, c, ?_⟩
  rcases List.prefix_or_prefix_of_prefix hprefix (List.prefix_append s rest) with hle | hge
  · exact hle
  · -- the beginning would reach into the rest, whose first character is punctuation
    obtain ⟨extra, hextra⟩ := hge
    cases extra with
    | nil => exact ⟨[], by simpa using hextra.symm⟩
    | cons x extra =>
      rw [← hextra, List.prefix_append_right_inj] at hprefix
      obtain ⟨t, rfl⟩ := hprefix
      have hx : EndsValue x := by simpa using hrest
      exact absurd hx.isPunctuation (hclear x (by rw [← hextra]; simp))

/-- A plain alternative after the first is not taken for the beginning of a node. -/
lemma not_opensNode_append {s rest : List Point} (hs : ∀ c ∈ s, ¬ IsPunctuation c)
    (hnot : ¬ BeginsCondition s) (hrest : Stops EndsValue rest) : ¬ OpensNode (s ++ rest) := by
  rintro (⟨t, ht⟩ | hbegins)
  · cases s with
    | nil =>
      rw [List.nil_append] at ht
      subst ht
      simp [EndsValue] at hrest
    | cons c s =>
      rw [List.cons_append, List.cons.injEq] at ht
      exact hs c (by simp) (by simp [IsPunctuation, ht.1])
  · exact hnot (hbegins.of_append hrest)

/-! ## Conditions -/

/-- The alternatives after the first as they are written. -/
def alternativesTail (values : List Text) : List Point :=
  values.flatMap fun next => .char '|' :: next.toList

lemma stops_alternativesTail {values : List Text} {rest : List Point}
    (hrest : Stops EndsValue rest) : Stops EndsValue (alternativesTail values ++ rest) := by
  cases values with
  | nil => simpa [alternativesTail] using hrest
  | cons value values => simp [alternativesTail, EndsValue]

lemma toList_alternatives (value : Text) (values : List Text) :
    (Text.intercalate Operand.separator (value :: values)).toList =
      value.toList ++ alternativesTail values := by
  rw [toList_intercalate_cons]
  rfl

lemma PlainEntries.tail {v v' : Text} {vs : List Text} (h : PlainEntries (v :: v' :: vs)) :
    PlainEntries (v' :: vs) :=
  ⟨fun value hmem => h.1 value (List.mem_cons_of_mem _ hmem),
    fun value hmem => h.2 value (List.mem_cons_of_mem _ hmem)⟩

lemma PlainEntries.head {v : Text} {vs : List Text} (h : PlainEntries (v :: vs)) :
    ∀ c ∈ v.toList, ¬ EndsValue c :=
  fun c hc hend => h.1 v (by simp) c hc hend.isPunctuation

/-- Where a node can end, no further plain alternative begins. -/
lemma PlainEntries.not_follows {v v' : Text} {vs : List Text} {rest : List Point}
    (h : PlainEntries (v :: v' :: vs)) (hrest : Stops EndsValue rest) :
    ¬ Follows (alternativesTail (v' :: vs) ++ rest) := by
  intro hfollows
  have hopens : OpensNode (v'.toList ++ (alternativesTail vs ++ rest)) := by
    simpa using hfollows (.char '|') (v'.toList ++ (alternativesTail vs ++ rest))
      (by simp [alternativesTail])
  exact not_opensNode_append (h.1 v' (by simp)) (h.2 v' (by simp))
    (stops_alternativesTail hrest) hopens

/-- Plain alternatives are determined by their text, if a node can end behind them. -/
lemma alternatives_append_inj {v w : Text} {vs ws : List Text} {rest rest' : List Point}
    (hv : PlainEntries (v :: vs)) (hw : PlainEntries (w :: ws))
    (hrest : Follows rest) (hrest' : Follows rest')
    (h : v.toList ++ (alternativesTail vs ++ rest) = w.toList ++ (alternativesTail ws ++ rest')) :
    v :: vs = w :: ws ∧ rest = rest' := by
  induction vs generalizing v w ws with
  | nil =>
    obtain ⟨hfirst, htail⟩ := append_inj_of_stops hv.head hw.head
      (stops_alternativesTail hrest.stops) (stops_alternativesTail hrest'.stops) h
    obtain rfl := Text.toList_inj.mp hfirst
    cases ws with
    | nil => exact ⟨rfl, htail⟩
    | cons w' ws => exact absurd (htail ▸ hrest) (hw.not_follows hrest'.stops)
  | cons v' vs ih =>
    obtain ⟨hfirst, htail⟩ := append_inj_of_stops hv.head hw.head
      (stops_alternativesTail hrest.stops) (stops_alternativesTail hrest'.stops) h
    obtain rfl := Text.toList_inj.mp hfirst
    cases ws with
    | nil => exact absurd (htail.symm ▸ hrest') (hv.not_follows hrest.stops)
    | cons w' ws =>
      have htail' : v'.toList ++ (alternativesTail vs ++ rest) =
          w'.toList ++ (alternativesTail ws ++ rest') := by
        simpa [alternativesTail] using htail
      obtain ⟨hentries, hrests⟩ := ih hv.tail hw.tail htail'
      exact ⟨by rw [hentries], hrests⟩

lemma Operand.Compact.eq_of_entries {o o' : Operand} (ho : o.Compact) (ho' : o'.Compact)
    (h : o.entries = o'.entries) : o = o' := by
  cases o with
  | one v =>
    cases o' with
    | one w => simpa [Operand.entries] using h
    | anyOf ws =>
      obtain rfl : [v] = ws := h
      exact absurd ho' (by simp [Operand.Compact])
  | anyOf vs =>
    cases o' with
    | one w =>
      obtain rfl : vs = [w] := h
      exact absurd ho (by simp [Operand.Compact])
    | anyOf ws => simpa [Operand.entries] using h

/-- A plain condition is determined by its text and what can follow it. -/
lemma Condition.append_inj {a b : Condition} {rest rest' : List Point}
    (hac : a.operand.Compact) (hbc : b.operand.Compact)
    (hap : a.operand.Plain) (hbp : b.operand.Plain)
    (hrest : Follows rest) (hrest' : Follows rest')
    (h : a.text.toList ++ rest = b.text.toList ++ rest') : a = b ∧ rest = rest' := by
  obtain ⟨p, c, o⟩ := a
  obtain ⟨q, d, o'⟩ := b
  simp only [Condition.text, Text.toList_append, List.append_assoc] at h
  obtain ⟨rfl, rfl, hoperands⟩ := head_append_inj h
  obtain ⟨v, vs, hvs⟩ := List.exists_cons_of_ne_nil hac.entries_ne_nil
  obtain ⟨w, ws, hws⟩ := List.exists_cons_of_ne_nil hbc.entries_ne_nil
  rw [Operand.text_eq_entries, Operand.text_eq_entries, hvs, hws, toList_alternatives,
    toList_alternatives, List.append_assoc, List.append_assoc] at hoperands
  obtain ⟨hentries, hrests⟩ :=
    alternatives_append_inj (hvs ▸ hap) (hws ▸ hbp) hrest hrest' hoperands
  obtain rfl := hac.eq_of_entries hbc (by rw [hvs, hws, hentries])
  exact ⟨rfl, hrests⟩

/-! ## Nodes -/

/-- The children after the first as they are written, each behind the sign of the group. -/
def childrenTail (c : Combinator) (children : List Node) : List Point :=
  children.flatMap fun next => c.mark :: next.text.toList

lemma toList_children (c : Combinator) (first : Node) (others : List Node) :
    (Text.intercalate c.text ((first :: others).map Node.text)).toList =
      first.text.toList ++ childrenTail c others := by
  rw [List.map_cons, toList_intercalate_cons, List.flatMap_map, Combinator.toList_text]
  rfl

lemma Condition.opensNode (leaf : Condition) (rest : List Point) :
    OpensNode (leaf.text.toList ++ rest) := by
  refine .inr ⟨leaf.property, leaf.comparison, leaf.operand.text.toList ++ rest, ?_⟩
  simp [Condition.text]

lemma Node.toList_text_group {c : Combinator} {children : List Node} (h : 2 ≤ children.length) :
    (Node.group c children).text.toList =
      .char '(' :: ((Text.intercalate c.text (children.map Node.text)).toList ++ [.char ')']) := by
  rw [Node.text_group_of_length h, Group.text_eq]
  simp

/-- Compact nodes begin as nodes do, because there is no group that could hide. -/
lemma Node.Compact.opensNode {node : Node} (h : node.Compact) (rest : List Point) :
    OpensNode (node.text.toList ++ rest) := by
  cases node with
  | condition leaf =>
    rw [Node.text_condition]
    exact leaf.opensNode rest
  | group c children =>
    rw [Node.toList_text_group ((Node.compact_group c children).mp h).1]
    exact .inl ⟨_, rfl⟩

/-- A condition does not begin with a parenthesis, and so it is no group. -/
lemma Condition.toList_text_ne (leaf : Condition) (rest t : List Point) :
    leaf.text.toList ++ rest ≠ .char '(' :: t := by
  intro h
  have hhead : (leaf.property.text : Text).toList ++ (leaf.comparison.mark :: .char '=' ::
      (leaf.operand.text.toList ++ rest)) = .char '(' :: t := by
    rw [← h, Condition.text, Text.toList_append, Text.toList_append, Comparison.toList_text]
    simp
  cases hword : (leaf.property.text : Text).toList with
  | nil =>
    rw [hword, List.nil_append, List.cons.injEq] at hhead
    rcases leaf.comparison.mark_eq with hmark | hmark <;>
      exact absurd (hmark.symm.trans hhead.1) (by decide)
  | cons x word =>
    rw [hword, List.cons_append, List.cons.injEq] at hhead
    refine (property_text_clear leaf.property x (by rw [hword]; simp)).2 ?_
    simp [IsPunctuation, hhead.1]

/-- Nothing is left, or a group ends here. -/
def Closes (rest : List Point) : Prop :=
  Stops (· = .char ')') rest

lemma Closes.follows {rest : List Point} (h : Closes rest) : Follows rest := by
  rintro c t rfl
  exact .inl (by simpa [Closes] using h)

lemma follows_childrenTail {c : Combinator} {children : List Node} {rest : List Point}
    (hcompact : ∀ child ∈ children, child.Compact) (hrest : Closes rest) :
    Follows (childrenTail c children ++ rest) := by
  cases children with
  | nil => simpa [childrenTail] using hrest.follows
  | cons child children =>
    rintro x t hxt
    have hopens : OpensNode (child.text.toList ++ (childrenTail c children ++ rest)) :=
      (hcompact child (by simp)).opensNode _
    simp only [childrenTail, List.flatMap_cons, List.cons_append, List.append_assoc,
      List.cons.injEq] at hxt
    obtain ⟨rfl, rfl⟩ := hxt
    cases c with
    | all => exact .inr (.inl rfl)
    | any => exact .inr (.inr ⟨rfl, hopens⟩)

/-- The node and what follows it are determined by the text of both. -/
def Node.Readable (a : Node) : Prop :=
  ∀ (b : Node) (rest rest' : List Point), b.Compact → b.Plain → Follows rest → Follows rest' →
    a.text.toList ++ rest = b.text.toList ++ rest' → a = b ∧ rest = rest'

/-- Further children are determined by their text up to the end of the group, and with at least one
of them so is the way in which the group joins them. -/
lemma childrenTail_append_inj {c d : Combinator} {children children' : List Node}
    {rest rest' : List Point}
    (hread : ∀ child ∈ children, child.Readable) (hcompact : ∀ child ∈ children, child.Compact)
    (hcompact' : ∀ child ∈ children', child.Compact) (hplain' : ∀ child ∈ children', child.Plain)
    (hrest : Closes rest) (hrest' : Closes rest')
    (h : childrenTail c children ++ rest = childrenTail d children' ++ rest') :
    children = children' ∧ rest = rest' ∧ (children ≠ [] → c = d) := by
  have mark_ne : ∀ {e : Combinator} {t : List Point}, ¬ Closes (e.mark :: t) := by
    intro e t
    cases e <;> simp [Closes, Combinator.mark]
  induction children generalizing children' with
  | nil =>
    cases children' with
    | nil => exact ⟨rfl, by simpa [childrenTail] using h, by simp⟩
    | cons child' children' =>
      have hnext : rest =
          d.mark :: (child'.text.toList ++ (childrenTail d children' ++ rest')) := by
        simpa [childrenTail] using h
      exact absurd (hnext ▸ hrest) mark_ne
  | cons child children ih =>
    cases children' with
    | nil =>
      have hnext : rest' = c.mark :: (child.text.toList ++ (childrenTail c children ++ rest)) := by
        simpa [childrenTail] using h.symm
      exact absurd (hnext ▸ hrest') mark_ne
    | cons child' children' =>
      have hparts : c.mark = d.mark ∧ child.text.toList ++ (childrenTail c children ++ rest) =
          child'.text.toList ++ (childrenTail d children' ++ rest') := by
        simpa [childrenTail] using h
      rw [List.forall_mem_cons] at hread hcompact hcompact' hplain'
      obtain ⟨rfl, htails⟩ := hread.1 child' _ _ hcompact'.1 hplain'.1
        (follows_childrenTail hcompact.2 hrest) (follows_childrenTail hcompact'.2 hrest') hparts.2
      obtain ⟨rfl, hrests, -⟩ := ih hread.2 hcompact.2 hcompact'.2 hplain'.2 htails
      exact ⟨rfl, hrests, fun _ => Combinator.mark_injective hparts.1⟩

/-- The same for all children of a group that has at least one; a single child does not show how it
would be joined to others. -/
lemma children_append_inj {c d : Combinator} {children children' : List Node}
    {rest rest' : List Point} (hne : children ≠ []) (hne' : children' ≠ [])
    (hread : ∀ child ∈ children, child.Readable) (hcompact : ∀ child ∈ children, child.Compact)
    (hcompact' : ∀ child ∈ children', child.Compact) (hplain' : ∀ child ∈ children', child.Plain)
    (hrest : Closes rest) (hrest' : Closes rest')
    (h : (Text.intercalate c.text (children.map Node.text)).toList ++ rest =
      (Text.intercalate d.text (children'.map Node.text)).toList ++ rest') :
    children = children' ∧ rest = rest' ∧ (2 ≤ children.length → c = d) := by
  obtain ⟨first, others, rfl⟩ := List.exists_cons_of_ne_nil hne
  obtain ⟨first', others', rfl⟩ := List.exists_cons_of_ne_nil hne'
  rw [toList_children, toList_children, List.append_assoc, List.append_assoc] at h
  rw [List.forall_mem_cons] at hread hcompact hcompact' hplain'
  obtain ⟨rfl, htails⟩ := hread.1 first' _ _ hcompact'.1 hplain'.1
    (follows_childrenTail hcompact.2 hrest) (follows_childrenTail hcompact'.2 hrest') h
  obtain ⟨rfl, hrests, hjoined⟩ := childrenTail_append_inj hread.2 hcompact.2 hcompact'.2 hplain'.2
    hrest hrest' htails
  refine ⟨rfl, hrests, fun hlength => hjoined ?_⟩
  rintro rfl
  simp at hlength

/-- A compact plain node and what follows it are determined by the text of both. -/
theorem Node.Compact.readable {a : Node} (hcompact : a.Compact) (hplain : a.Plain) :
    a.Readable := by
  induction a with
  | condition leaf =>
    intro b rest rest' hbc hbp hrest hrest' h
    cases b with
    | condition leaf' =>
      rw [Node.text_condition, Node.text_condition] at h
      obtain ⟨rfl, hrests⟩ := Condition.append_inj ((Node.compact_condition _).mp hcompact)
        ((Node.compact_condition _).mp hbc) (hplain leaf (by simp)) (hbp leaf' (by simp))
        hrest hrest' h
      exact ⟨rfl, hrests⟩
    | group d children' =>
      rw [Node.text_condition, Node.toList_text_group ((Node.compact_group d children').mp hbc).1]
        at h
      exact absurd h (leaf.toList_text_ne _ _)
  | group c children ih =>
    intro b rest rest' hbc hbp hrest hrest' h
    obtain ⟨hlength, hchildren⟩ := (Node.compact_group c children).mp hcompact
    rw [Node.toList_text_group hlength] at h
    cases b with
    | condition leaf' =>
      rw [Node.text_condition] at h
      exact absurd h.symm (leaf'.toList_text_ne _ _)
    | group d children' =>
      obtain ⟨hlength', hchildren'⟩ := (Node.compact_group d children').mp hbc
      rw [Node.toList_text_group hlength'] at h
      simp only [List.cons_append, List.append_assoc, List.nil_append, List.cons.injEq,
        true_and] at h
      obtain ⟨rfl, hclosed, hjoined⟩ := children_append_inj
        (List.ne_nil_of_length_pos (by omega)) (List.ne_nil_of_length_pos (by omega))
        (fun child hmem => ih child hmem (hchildren child hmem) (hplain.child hmem))
        hchildren hchildren' (fun child hmem => hbp.child hmem)
        (by simp [Closes]) (by simp [Closes]) h
      obtain rfl := hjoined hlength
      exact ⟨rfl, by simpa using hclosed⟩

/-! ## Filters -/

/-- The outline of a valid filter has children, and they are compact. -/
lemma Group.Valid.compact_outline {g : Group} (h : g.Valid) :
    g.outline.children ≠ [] ∧ ∀ child ∈ g.outline.children, child.Compact := by
  rw [Group.valid_iff] at h
  rw [Group.outline, Node.allReduced_eq_map]
  refine ⟨by simpa using h.1, ?_⟩
  intro child hmem
  obtain ⟨original, horiginal, rfl⟩ := List.mem_map.mp hmem
  exact (h.2 original horiginal).compact_reduced

lemma Group.Plain.plain_outline {g : Group} (h : g.Plain) :
    ∀ child ∈ g.outline.children, child.Plain := by
  rw [Group.outline, Node.allReduced_eq_map]
  intro child hmem
  obtain ⟨original, horiginal, rfl⟩ := List.mem_map.mp hmem
  refine Node.Plain.reduced fun leaf hleaf => h leaf ?_
  exact Group.mem_leaves.mpr ⟨original, horiginal, hleaf⟩

/-- How the children are joined is left out exactly when there is only one. -/
lemma Group.combinator_outline (g : Group) :
    g.outline.combinator =
      if g.outline.children.length = 1 then none else some g.combinator := by
  simp [Group.outline, Node.allReduced_eq_map]

/-- **Unique readability.**  Two valid filters with plain values have the same text exactly when
they have the same outline: structure, combinators, comparisons, properties and values all show in
the text, up to the three details that mean nothing. -/
theorem Group.text_eq_iff_outline_eq {a b : Group} (ha : a.Valid) (hb : b.Valid)
    (hap : a.Plain) (hbp : b.Plain) : a.text = b.text ↔ a.outline = b.outline := by
  constructor
  · intro htext
    obtain ⟨hane, hac⟩ := ha.compact_outline
    obtain ⟨hbne, hbc⟩ := hb.compact_outline
    rw [Group.text_eq_outline_text, Group.text_eq_outline_text] at htext
    have hwhole : a.outline.text.toList ++ [] = b.outline.text.toList ++ [] := by rw [htext]
    obtain ⟨hchildren, -, hjoined⟩ := children_append_inj hane hbne
      (fun child hmem => (hac child hmem).readable (hap.plain_outline child hmem))
      hac hbc hbp.plain_outline (by simp [Closes]) (by simp [Closes]) hwhole
    refine Outline.ext ?_ hchildren
    rw [a.combinator_outline, b.combinator_outline, ← hchildren] at hjoined ⊢
    by_cases hone : a.outline.children.length = 1
    · rw [if_pos hone, if_pos hone]
    · have htwo : 2 ≤ a.outline.children.length := by
        have hpos := List.length_pos_iff.mpr hane
        omega
      rw [if_neg hone, if_neg hone] at hjoined ⊢
      exact congrArg some (hjoined htwo)
  · intro houtline
    rw [Group.text_eq_outline_text, Group.text_eq_outline_text, houtline]

/-- Two ways to write down one filter, which differ in the groups around one child and in the
combinators of groups that have only one. -/
theorem Group.text_eq_iff_outline_eq_wrapped :
    let a : Group := ⟨.all, [.group .any [.condition ⟨.page, .equals, .anyOf ["/a", "/b"]⟩,
      .group .all [.condition ⟨.country, .differs, .one "DE"⟩]]]⟩
    let b : Group := ⟨.any, [.group .all [.group .any [
      .group .all [.condition ⟨.page, .equals, .anyOf ["/a", "/b"]⟩],
      .condition ⟨.country, .differs, .one "DE"⟩]]]⟩
    a.Valid ∧ b.Valid ∧ a.Plain ∧ b.Plain ∧ (a.text = b.text ↔ a.outline = b.outline) := by
  intro a b
  have ha : a.Valid := by simp [a, Group.valid_iff, Condition.Valid, Operand.Valid]
  have hb : b.Valid := by simp [b, Group.valid_iff, Condition.Valid, Operand.Valid]
  have hap : a.Plain := by decide
  have hbp : b.Plain := by decide
  exact ⟨ha, hb, hap, hbp, Group.text_eq_iff_outline_eq ha hb hap hbp⟩

end SiteStats.Filter
