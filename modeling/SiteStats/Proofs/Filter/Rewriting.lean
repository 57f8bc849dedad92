import Mathlib.Logic.Relation
import SiteStats.Proofs.Filter.Reduction

/-!
# Rewrites that leave the text alone

A node can be wrapped into a group of its own, a single value can stand as the only alternative, and
a group of one child can join it in the other way: none of this shows in the text of a filter,
however deep in the tree it happens.  `Neutral` lists these changes to one node and `Group.Rewrite`
makes one of them at some position of a filter.

That nothing shows is not plain from the texts of the nodes alone, because a group decides about the
parentheses of a child by how many children that child has, and wrapping changes their number.
`Node.text_replaced` is the way around: the text of a tree depends on the subtree at a position only
through the text that this subtree has below the root, parentheses included.

The root is different.  It stands in no parentheses itself, but it would below another root, so
wrapping it leaves the text alone only if it has a single child (`Group.text_wrapped`).
-/

namespace SiteStats.Filter

/-! ## Positions -/

/-- The node at a position of a tree, which is given by the numbers of the children on the way. -/
def Node.at? : Node → List Nat → Option Node
  | node, [] => some node
  | .condition _, _ :: _ => none
  | .group _ children, i :: path => children[i]?.bind fun child => child.at? path

/-- The tree with another node at a position; where there is no such position it stays as it is. -/
def Node.replaced : Node → List Nat → Node → Node
  | _, [], new => new
  | .condition leaf, _ :: _, _ => .condition leaf
  | .group c children, i :: path, new =>
    .group c (children.modify i fun child => child.replaced path new)

/-- The node at a position strictly below the root: at a child, or on from there. -/
def Group.at? (g : Group) (i : Nat) (path : List Nat) : Option Node :=
  g.children[i]?.bind fun child => child.at? path

/-- The filter with another node at a position strictly below the root. -/
def Group.replaced (g : Group) (i : Nat) (path : List Nat) (new : Node) : Group :=
  { g with children := g.children.modify i fun child => child.replaced path new }

/-- A position below a root leads through one of the children, and replacing what is there replaces
something in that child alone. -/
lemma Group.at?_eq_some {g : Group} {i : Nat} {path : List Nat} {node : Node}
    (h : g.at? i path = some node) :
    ∃ before child after, g.children = before ++ child :: after ∧ child.at? path = some node ∧
      ∀ new, (g.replaced i path new).children = before ++ child.replaced path new :: after := by
  obtain ⟨child, hchild, hat⟩ := Option.bind_eq_some_iff.mp h
  obtain ⟨hi, rfl⟩ := List.getElem?_eq_some_iff.mp hchild
  refine ⟨g.children.take i, g.children[i], g.children.drop (i + 1), ?_, hat, fun new => ?_⟩
  · rw [← List.drop_eq_getElem_cons hi, List.take_append_drop]
  · exact List.modify_eq_take_cons_drop hi

/-- So does a position in a node that is not the node itself. -/
lemma Node.at?_cons_eq_some {tree : Node} {i : Nat} {path : List Nat} {node : Node}
    (h : tree.at? (i :: path) = some node) :
    ∃ g : Group, tree = g.node ∧ g.at? i path = some node ∧
      ∀ new, tree.replaced (i :: path) new = (g.replaced i path new).node := by
  cases tree with
  | condition leaf => simp [Node.at?] at h
  | group c children => exact ⟨⟨c, children⟩, rfl, h, fun new => rfl⟩

/-! ## What a position contributes -/

/-- The text of a group depends on its children only through their texts below the root. -/
lemma Group.text_congr {g : Group} {children : List Node}
    (htexts : children.map Node.text = g.children.map Node.text) :
    (Group.mk g.combinator children).text = g.text ∧
      (Group.mk g.combinator children).node.text = g.node.text := by
  have hlength : children.length = g.children.length := by
    simpa using congrArg List.length htexts
  constructor
  · rw [Group.text_eq, Group.text_eq, htexts]
  · simp only [Group.node, Node.text, Node.texts_eq_map, htexts, hlength]

/-- A node that is written as the one at a position can take its place without a trace in the
text. -/
lemma Node.text_replaced {path : List Nat} {tree node new : Node}
    (hat : tree.at? path = some node) (htext : new.text = node.text) :
    (tree.replaced path new).text = tree.text := by
  induction path generalizing tree with
  | nil =>
    obtain rfl : tree = node := by simpa [Node.at?] using hat
    simpa [Node.replaced] using htext
  | cons i path ih =>
    obtain ⟨g, rfl, hbelow, hreplaced⟩ := Node.at?_cons_eq_some hat
    obtain ⟨before, child, after, hchildren, hchild, hnew⟩ := Group.at?_eq_some hbelow
    have htexts : (g.replaced i path new).children.map Node.text = g.children.map Node.text := by
      rw [hnew, hchildren, List.map_append, List.map_append, List.map_cons, List.map_cons,
        ih hchild]
    rw [hreplaced]
    exact (Group.text_congr htexts).2

lemma Group.text_replaced {g : Group} {i : Nat} {path : List Nat} {node new : Node}
    (hat : g.at? i path = some node) (htext : new.text = node.text) :
    (g.replaced i path new).text = g.text := by
  obtain ⟨before, child, after, hchildren, hchild, hnew⟩ := Group.at?_eq_some hat
  have htexts : (g.replaced i path new).children.map Node.text = g.children.map Node.text := by
    rw [hnew, hchildren, List.map_append, List.map_append, List.map_cons, List.map_cons,
      Node.text_replaced hchild htext]
  exact (Group.text_congr htexts).1

lemma Node.valid_replaced {path : List Nat} {tree node new : Node}
    (hat : tree.at? path = some node) (hnew : node.Valid → new.Valid) (htree : tree.Valid) :
    (tree.replaced path new).Valid := by
  induction path generalizing tree with
  | nil =>
    obtain rfl : tree = node := by simpa [Node.at?] using hat
    simpa [Node.replaced] using hnew htree
  | cons i path ih =>
    obtain ⟨g, rfl, hbelow, hreplaced⟩ := Node.at?_cons_eq_some hat
    obtain ⟨before, child, after, hchildren, hchild, hchanged⟩ := Group.at?_eq_some hbelow
    have hvalid : ∀ other ∈ before ++ child :: after, other.Valid :=
      hchildren ▸ ((Group.valid_iff g).mp htree).2
    rw [List.forall_mem_append, List.forall_mem_cons] at hvalid
    obtain ⟨hbefore, hhere, hafter⟩ := hvalid
    rw [hreplaced]
    refine (Group.valid_iff _).mpr ?_
    rw [hchanged, List.forall_mem_append, List.forall_mem_cons]
    exact ⟨by simp, hbefore, ih hchild hhere, hafter⟩

lemma Group.valid_replaced {g : Group} {i : Nat} {path : List Nat} {node new : Node}
    (hat : g.at? i path = some node) (hnew : node.Valid → new.Valid) (hg : g.Valid) :
    (g.replaced i path new).Valid := by
  have hnode : g.node.at? (i :: path) = some node := hat
  exact Node.valid_replaced hnode hnew hg

/-! ## The rewrites -/

/-- Changes to a node that mean nothing: to wrap it into a group of its own, to give a single value
as the only alternative and the other way round, and to let a group of one child join it
differently. -/
inductive Neutral : Node → Node → Prop
  | wrap (c : Combinator) (node : Node) : Neutral node (.group c [node])
  | list (p : Property) (value : Text) :
    Neutral (.condition ⟨p, .equals, .one value⟩) (.condition ⟨p, .equals, .anyOf [value]⟩)
  | unlist (p : Property) (value : Text) :
    Neutral (.condition ⟨p, .equals, .anyOf [value]⟩) (.condition ⟨p, .equals, .one value⟩)
  | rejoin (c d : Combinator) (child : Node) : Neutral (.group c [child]) (.group d [child])

/-- A filter with one such change at one position of it.  The root can only be joined
differently. -/
inductive Group.Rewrite : Group → Group → Prop
  | below {g : Group} {i : Nat} {path : List Nat} {node new : Node}
    (isThere : g.at? i path = some node) (neutral : Neutral node new) :
    Rewrite g (g.replaced i path new)
  | root (c d : Combinator) (child : Node) : Rewrite ⟨c, [child]⟩ ⟨d, [child]⟩

lemma Operand.text_anyOf_singleton (value : Text) :
    (Operand.anyOf [value]).text = (Operand.one value).text := by
  simp [Operand.text]

lemma Neutral.text_eq {node new : Node} (h : Neutral node new) : new.text = node.text := by
  cases h with
  | wrap c node => exact Node.text_group_singleton c node
  | list p value => simp [Condition.text, Operand.text_anyOf_singleton]
  | unlist p value => simp [Condition.text, Operand.text_anyOf_singleton]
  | rejoin c d child => rw [Node.text_group_singleton, Node.text_group_singleton]

lemma Neutral.valid {node new : Node} (h : Neutral node new) (hnode : node.Valid) :
    new.Valid := by
  cases h with
  | wrap c node => simpa using hnode
  | list p value => simp [Condition.Valid, Operand.Valid]
  | unlist p value => simp [Condition.Valid, Operand.Valid]
  | rejoin c d child => simpa using hnode

lemma Group.Rewrite.text_eq {g g' : Group} (h : Group.Rewrite g g') : g'.text = g.text := by
  cases h with
  | below isThere neutral => exact Group.text_replaced isThere neutral.text_eq
  | root c d child => simp [Group.text_eq]

lemma Group.Rewrite.valid {g g' : Group} (h : Group.Rewrite g g') (hg : g.Valid) : g'.Valid := by
  cases h with
  | below isThere neutral => exact Group.valid_replaced isThere neutral.valid hg
  | root c d child => exact hg

/-- Below another root a filter of one child is written as before, and any other stands in
parentheses. -/
lemma Group.text_wrapped {g : Group} (hg : g.children ≠ []) (c : Combinator) :
    (Group.mk c [g.node]).text =
      if g.children.length = 1 then g.text else "(" ++ g.text ++ ")" := by
  have hwhole : (Group.mk c [g.node]).text = g.node.text := by simp [Group.text_eq]
  rw [hwhole]
  obtain ⟨child, hone⟩ | hseveral := Node.singleton_or_several hg
  · have hlength : g.children.length = 1 := by rw [hone, List.length_singleton]
    rw [if_pos hlength, Group.node, Group.text_eq, hone]
    simp
  · rw [if_neg (by omega)]
    exact Node.text_group_of_length hseveral

/-- **Rewrites.**  However many changes that mean nothing are made to a valid filter, wherever and
in whichever order, what results is a valid filter with the same text.  To put the filter below
another root changes its text by one pair of parentheses, and not even that if the filter has a
single child. -/
theorem Group.text_of_rewrites {g g' : Group} (hg : g.Valid)
    (rewrites : Relation.ReflTransGen Group.Rewrite g g') :
    (g'.Valid ∧ g'.text = g.text) ∧
      ∀ c, (Group.mk c [g.node]).Valid ∧ (Group.mk c [g.node]).text =
        if g.children.length = 1 then g.text else "(" ++ g.text ++ ")" := by
  have hfilled : g.children ≠ [] := ((Group.valid_iff g).mp hg).1
  refine ⟨?_, fun c => ⟨(Group.valid_iff _).mpr ?_, Group.text_wrapped hfilled c⟩⟩
  · induction rewrites with
    | refl => exact ⟨hg, rfl⟩
    | tail _ step ih =>
      obtain ⟨hvalid, htext⟩ := ih
      exact ⟨step.valid hvalid, step.text_eq.trans htext⟩
  · have hnode : g.node.Valid := hg
    simpa using hnode

/-- Three changes to a filter of one group of two conditions: the group is wrapped, the value of its
first condition becomes the only alternative, and the root is joined differently.  Before and after
them another root leaves the text without parentheses. -/
theorem Group.text_of_rewrites_nested :
    let differing : Node := .condition ⟨.country, .differs, .one "DE"⟩
    let pair (o : Operand) : Node := .group .any [.condition ⟨.page, .equals, o⟩, differing]
    let g : Group := ⟨.all, [pair (.one "/a")]⟩
    let g' : Group := ⟨.any, [.group .any [pair (.anyOf ["/a"])]]⟩
    g.Valid ∧ Relation.ReflTransGen Group.Rewrite g g' ∧ g'.Valid ∧ g'.text = g.text ∧
      (Group.mk .any [g.node]).text = g.text := by
  intro differing pair g g'
  have hg : g.Valid := by
    simp [g, pair, differing, Group.valid_iff, Condition.Valid, Operand.Valid]
  have hpair : g.at? 0 [] = some (pair (.one "/a")) := rfl
  have hwrap : Group.Rewrite g ⟨.all, [.group .any [pair (.one "/a")]]⟩ :=
    .below hpair (.wrap .any _)
  have hvalue : (Group.mk .all [.group .any [pair (.one "/a")]]).at? 0 [0, 0] =
      some (.condition ⟨.page, .equals, .one "/a"⟩) := rfl
  have hlist : Group.Rewrite ⟨.all, [.group .any [pair (.one "/a")]]⟩
      ⟨.all, [.group .any [pair (.anyOf ["/a"])]]⟩ := .below hvalue (.list .page "/a")
  have hroot : Group.Rewrite ⟨.all, [.group .any [pair (.anyOf ["/a"])]]⟩ g' := .root _ _ _
  have hrewrites : Relation.ReflTransGen Group.Rewrite g g' :=
    ((Relation.ReflTransGen.single hwrap).tail hlist).tail hroot
  obtain ⟨⟨hvalid, htext⟩, hwrapped⟩ := Group.text_of_rewrites hg hrewrites
  exact ⟨hg, hrewrites, hvalid, htext, (hwrapped .any).2⟩

end SiteStats.Filter
