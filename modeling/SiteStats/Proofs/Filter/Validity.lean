import SiteStats.Filter.Build
import SiteStats.Proofs.Filter.Grammar
import SiteStats.Proofs.Json.Returned

/-!
# Every way to a filter keeps the rules

Alternatives are never none and stand only after `==`, and a group is never empty: `Part.Valid` says
so of whatever can be built of a filter.  Each section takes one way by which filters come to exist
and shows that what comes of it is valid: the checks of explicit filters, documents, and filters
that are put together from parts.

What is checked may hold parts that exist already, and the checks take these as they are. `Holds`
says which parts a value holds; a check keeps the rules if these do.  A text holds none, even when a
document is read from it.
-/

namespace SiteStats.Filter

open SiteStats.Schema

/-! ## Parts of filters -/

/-- Alternatives are valid when there are any, and a node is as a node. -/
def Part.Valid : Part → Prop
  | .alternatives values => values ≠ []
  | .node tree => tree.Valid

/-- The parts of filters that a value holds, at whatever depth. -/
inductive Holds : Value → Part → Prop
  | self (part : Part) : Holds (.part part) part
  | item {items : List Value} {item : Value} {part : Part} (mem : item ∈ items)
      (inside : Holds item part) : Holds (.list items) part
  | field {fields : Fields} {name : Text} {value : Value} {part : Part}
      (lookup : fields.lookup name = some value) (inside : Holds value part) :
      Holds (.object fields) part

/-- What is read from a text holds no part of a filter. -/
lemma not_holds_of_readable {value : Value} (h : Json.Readable value) (part : Part) :
    ¬ Holds value part := by
  intro hholds
  induction hholds with
  | self => cases h
  | item mem _ ih =>
    cases h with
    | list each => exact ih (each _ mem)
  | field lookup _ ih =>
    cases h with
    | object each =>
      obtain ⟨before, after, hfields, -⟩ := List.lookup_eq_some_iff.mp lookup
      exact ih (each _ (hfields ▸ List.mem_append_right before List.mem_cons_self))

/-! ## Conditions -/

lemma Operand.valid_of_checkAlternatives {value : Value} {values : List Text}
    (inside : ∀ part, Holds value part → part.Valid)
    (h : Operand.checkAlternatives value = .ok values) : values ≠ [] := by
  obtain rfl | ⟨_, -, -, -, hfilled⟩ := Operand.checkAlternatives_eq_ok_iff.mp h
  · exact inside _ (.self _)
  · exact hfilled

lemma Operand.valid_of_check {value : Value} {o : Operand}
    (inside : ∀ part, Holds value part → part.Valid) (h : Operand.check value = .ok o) :
    o.Valid := by
  obtain ⟨t, rfl, rfl⟩ | ⟨values, halternatives, rfl⟩ := Operand.check_eq_ok_iff.mp h
  · trivial
  · exact Operand.valid_of_checkAlternatives inside halternatives

lemma Condition.valid_of_allowed {c : Condition} (hoperand : c.operand.Valid)
    (hallowed : c.allowed = true) : c.Valid :=
  ⟨hoperand, Condition.allowed_iff.mp hallowed⟩

lemma Condition.valid_of_ofFields {fields : Fields} {c : Condition}
    (inside : ∀ part, Holds (.object fields) part → part.Valid)
    (h : Condition.ofFields fields = .ok c) : c.Valid := by
  obtain ⟨-, -, -, ⟨value, hvalue, hcheck⟩, hallowed⟩ := Condition.ofFields_eq_ok_iff.mp h
  have hoperand : c.operand.Valid :=
    Operand.valid_of_check (fun part hpart => inside part (.field hvalue hpart)) hcheck
  exact Condition.valid_of_allowed hoperand hallowed

/-! ## Explicit filters -/

/-- A group that is accepted is valid if its children are, each of which comes of one of the
items. -/
lemma Group.valid_of_ofFields {levels : Nat} {fields : Fields} {g : Group}
    (h : Group.ofFields fields (checkChildrenField levels fields) = .ok g)
    (each : ∀ items, fields.lookup "children" = some (.list items) → ∀ item ∈ items,
      ∀ node ∈ g.children, checkChild levels item = .ok node → node.Valid) : g.Valid := by
  obtain ⟨-, -, items, hlist, hitems, hfilled⟩ := Group.ofFields_eq_ok_iff.mp h
  refine (Group.valid_iff g).mpr ⟨hfilled, fun child hchild => ?_⟩
  obtain ⟨item, hitem, hcheck⟩ := hitems.exists_of_mem hchild
  exact each items hlist item hitem child hchild hcheck

/-- **Nodes.**  A node that is accepted is valid if the parts inside the value are. -/
theorem valid_of_checkChild {levels : Nat} {value : Value} {node : Node}
    (inside : ∀ part, Holds value part → part.Valid) (h : checkChild levels value = .ok node) :
    node.Valid := by
  induction node generalizing levels value with
  | condition leaf =>
    obtain ⟨rfl, -⟩ | ⟨fields, rfl, ⟨-, _, hleaf, ⟨⟩⟩ | ⟨-, _, -, ⟨_, _⟩, -, ⟨⟩⟩⟩ :=
      checkChild_eq_ok_iff.mp h
    · exact inside _ (.self _)
    · exact (Node.valid_condition leaf).mpr (Condition.valid_of_ofFields inside hleaf)
  | group c children ih =>
    obtain ⟨rfl, -⟩ | ⟨fields, rfl, ⟨-, _, -, ⟨⟩⟩ | ⟨-, below, rfl, ⟨_, _⟩, hg, ⟨⟩⟩⟩ :=
      checkChild_eq_ok_iff.mp h
    · exact inside _ (.self _)
    · refine Group.valid_of_ofFields hg fun items hlist item hitem child hchild hcheck => ?_
      exact ih child hchild (fun part hpart => inside part (.field hlist (.item hitem hpart)))
        hcheck

/-- **Groups.**  So is a group. -/
theorem Group.valid_of_check {value : Value} {g : Group}
    (inside : ∀ part, Holds value part → part.Valid) (h : Group.check value = .ok g) : g.Valid := by
  cases value with
  | part built =>
    rcases built with values | (leaf | ⟨c, children⟩)
    · simp [Group.check] at h
    · simp [Group.check] at h
    · obtain rfl : Group.mk c children = g := Except.ok.inj h
      exact inside _ (.self _)
  | object fields =>
    refine Group.valid_of_ofFields h fun items hlist item hitem child _ hcheck => ?_
    exact valid_of_checkChild (fun part hpart => inside part (.field hlist (.item hitem hpart)))
      hcheck
  | _ => simp [Group.check] at h

/-- **Conditions.**  And a condition. -/
theorem Condition.valid_of_check {value : Value} {c : Condition}
    (inside : ∀ part, Holds value part → part.Valid) (h : Condition.check value = .ok c) :
    c.Valid := by
  cases value with
  | part built =>
    rcases built with values | (leaf | ⟨c, children⟩)
    · simp [Condition.check] at h
    · obtain rfl : leaf = c := Except.ok.inj h
      exact (Node.valid_condition leaf).mp (inside _ (.self _))
    · simp [Condition.check] at h
  | object fields => exact Condition.valid_of_ofFields inside h
  | _ => simp [Condition.check] at h

/-! ## Documents -/

/-- What is described is valid if what is built in the document already is. -/
lemma Describes.valid {value : Value} {node : Node}
    (inside : ∀ part, Holds value part → part.Valid) (h : Describes value node) : node.Valid := by
  induction node generalizing value with
  | condition leaf =>
    obtain ⟨-, -, -, value, hvalue, hoperand⟩ := h
    rw [Node.valid_condition]
    obtain ⟨p, c, o⟩ := leaf
    obtain ⟨t, c⟩ | values | ⟨-, -, hfilled⟩ := hoperand
    · exact ⟨trivial, by simp⟩
    · exact ⟨inside _ (.field hvalue (.self _)), by simp⟩
    · exact ⟨hfilled, by simp⟩
  | group c children ih =>
    obtain - | ⟨hlist, -, hitems, hfilled⟩ := h
    rw [Node.valid_group, Node.allValid_iff]
    refine ⟨hfilled, fun child hchild => ?_⟩
    obtain ⟨item, hmem, hitem⟩ := hitems.exists_of_mem hchild
    exact ih child hchild (fun part hpart => inside part (.field hlist (.item hmem hpart))) hitem

/-- **Documents.**  A filter that is read from a document, be it an object or a text, is valid. -/
theorem Group.valid_of_ofDocument [Json.Room] {document : Value} {g : Group}
    (inside : ∀ part, Holds document part → part.Valid)
    (h : Group.ofDocument document = .ok g) : g.Valid := by
  have hobject : ∀ value, (∀ part, Holds value part → part.Valid) →
      Group.ofObject value = .ok g → g.Valid := fun value hvalue hread =>
    (Group.ofObject_eq_ok_iff.mp hread).1.valid hvalue
  by_cases htext : ∃ t, document = .text t
  · obtain ⟨t, rfl⟩ := htext
    obtain ⟨value, hread, hvalue⟩ := Except.bind_eq_ok_iff.mp h
    have hreadable := Json.readable_of_read (Except.mapError_eq_ok_iff.mp hread)
    exact hobject value (fun part hpart => absurd hpart (not_holds_of_readable hreadable part))
      hvalue
  · rw [Group.ofDocument_of_not_text fun t ht => htext ⟨t, ht⟩] at h
    exact hobject document inside h

/-! ## Parts put together -/

lemma titled_eq_ok_iff {α : Type} {title : String} {checked : Checked α} {a : α} :
    checked.titled title = .ok a ↔ checked = .ok a :=
  Except.mapError_eq_ok_iff

theorem Group.valid_of_build {c : Combinator} {children : List Node} {g : Group}
    (inside : ∀ child ∈ children, child.Valid) (h : Group.build c children = .ok g) : g.Valid := by
  rw [Group.build, titled_eq_ok_iff, Checked.map_eq_ok_iff] at h
  obtain ⟨nodes, hnodes, rfl⟩ := h
  rw [Checked.under_eq_ok_iff, Checked.obeying_eq_ok_iff] at hnodes
  obtain ⟨⟨⟩, hfilled⟩ := hnodes
  exact (Group.valid_iff _).mpr ⟨by simpa using hfilled, inside⟩

lemma Operand.valid_of_build {value : Value} {checked : Checked Operand} {o : Operand}
    (inside : ∀ part, Holds value part → part.Valid)
    (h : Operand.build value = .ok checked) (hchecked : checked = .ok o) : o.Valid := by
  subst hchecked
  cases value with
  | list items =>
    obtain ⟨values, hvalues, heq⟩ := Except.map_eq_ok_iff.mp h
    rw [titled_eq_ok_iff, Checked.under_eq_ok_iff] at hvalues
    obtain rfl : Operand.anyOf values = o := Except.ok.inj heq
    exact (alternatives_eq_ok_iff.mp hvalues).2
  | _ =>
    have hcheck := Checked.under_eq_ok_iff.mp (Except.ok.inj h)
    exact Operand.valid_of_check inside hcheck

/-- **Conditions.**  A condition that is put together of its parts is valid. -/
theorem Condition.valid_of_build {property comparison operand : Value} {c : Condition}
    (inside : ∀ part, Holds operand part → part.Valid)
    (h : Condition.build property comparison operand = .ok c) : c.Valid := by
  obtain ⟨checked, hoperand, h⟩ := Except.bind_eq_ok_iff.mp h
  obtain ⟨p, -, h⟩ := Except.bind_eq_ok_iff.mp h
  obtain ⟨sign, -, h⟩ := Except.bind_eq_ok_iff.mp h
  rw [titled_eq_ok_iff, Condition.ofParts, Checked.obeying_eq_ok_iff, Checked.map_eq_ok_iff] at h
  obtain ⟨⟨o, hchecked, rfl⟩, hallowed⟩ := h
  exact Condition.valid_of_allowed (Operand.valid_of_build inside hoperand hchecked) hallowed

end SiteStats.Filter
