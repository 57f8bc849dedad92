import SiteStats.Filter.Text
import SiteStats.Proofs.Common
import SiteStats.Proofs.Filter.Tree

/-!
# The properties of a filter in their order

`Group.properties` is a traversal with a list in hand: what it makes of a subtree depends on all
that it has met before.  That it nevertheless answers a question about the leaves alone rests on one
invariant, `Node.noteProperties_eraseDups`: as long as the list in hand is what is left of some
properties when repetitions are left out, it is so afterwards, with the properties of the subtree
put behind the others.  The list in hand may not be generalized further; a list with a repetition in
it is none that the traversal ever has in hand, and it would stay in the result.

What follows about order, about subtrees taken by themselves and about changes that leave the
properties of the leaves alone, is then about lists.
-/

namespace SiteStats.Filter

namespace Node

/-- The properties that the leaves of a tree name, from left to right and with repetitions. -/
def named (node : Node) : List Property :=
  node.leaves.map Condition.property

/-- The distinct properties of a tree that is taken by itself. -/
def properties (node : Node) : List Property :=
  node.noteProperties []

@[simp] lemma named_condition (leaf : Condition) :
    (Node.condition leaf).named = [leaf.property] := by
  simp [named]

@[simp] lemma named_group (c : Combinator) (children : List Node) :
    (Node.group c children).named = children.flatMap named := by
  rw [named, leaves_group, List.map_flatMap]
  rfl

lemma mem_named {node : Node} {p : Property} :
    p ∈ node.named ↔ ∃ leaf ∈ node.leaves, leaf.property = p := by
  simp [named]

/-! ## The traversal -/

/-- What is noted of nodes one after the other, when that is known for each of them. -/
lemma notePropertiesOf_eraseDups {children : List Node}
    (heach : ∀ child ∈ children, ∀ earlier,
      child.noteProperties earlier.eraseDups = (earlier ++ child.named).eraseDups)
    (earlier : List Property) :
    notePropertiesOf earlier.eraseDups children =
      (earlier ++ children.flatMap named).eraseDups := by
  induction children generalizing earlier with
  | nil => simp [notePropertiesOf]
  | cons child rest ih =>
    rw [List.forall_mem_cons] at heach
    obtain ⟨hchild, hrest⟩ := heach
    rw [notePropertiesOf, hchild, ih hrest, List.flatMap_cons, List.append_assoc]

/-- **The traversal.**  What has been noted of earlier properties and then of a tree is what is left
of the earlier ones followed by those of the leaves. -/
theorem noteProperties_eraseDups (node : Node) (earlier : List Property) :
    node.noteProperties earlier.eraseDups = (earlier ++ node.named).eraseDups := by
  induction node generalizing earlier with
  | condition leaf =>
    rw [noteProperties, named_condition]
    by_cases hseen : leaf.property ∈ earlier
    · rw [if_pos (List.mem_eraseDups.mpr hseen), List.eraseDups_concat_of_mem hseen]
    · rw [if_neg (mt List.mem_eraseDups.mp hseen), List.eraseDups_concat_of_notMem hseen]
  | group c children ih =>
    rw [noteProperties, named_group]
    exact notePropertiesOf_eraseDups ih earlier

/-- A tree taken by itself has the properties of its leaves, each where it comes first. -/
lemma properties_eq (node : Node) : node.properties = node.named.eraseDups := by
  have hnone : ([] : List Property).eraseDups = [] := List.eraseDups_nil
  have htree := node.noteProperties_eraseDups []
  rw [hnone, List.nil_append] at htree
  exact htree

/-! ## Changes that leave the properties alone -/

/-- The second tree is the first one with other values and signs in its conditions, with other
combinators, and with any of its nodes wrapped into groups of their own. -/
inductive Reworded : Node → Node → Prop
  | condition (p : Property) (c c' : Comparison) (o o' : Operand) :
    Reworded (.condition ⟨p, c, o⟩) (.condition ⟨p, c', o'⟩)
  | group (c c' : Combinator) {children children' : List Node}
      (each : List.Forall₂ Reworded children children') :
    Reworded (.group c children) (.group c' children')
  | wrapped (c : Combinator) {node node' : Node} (inner : Reworded node node') :
    Reworded node (.group c [node'])

lemma flatMap_named_congr {children children' : List Node}
    (h : List.Forall₂ (fun child child' => child'.named = child.named) children children') :
    children'.flatMap named = children.flatMap named := by
  induction h with
  | nil => rfl
  | cons hfirst _ ih => rw [List.flatMap_cons, List.flatMap_cons, hfirst, ih]

/-- A reworded tree names the same properties in the same places.  The induction is on the reworded
tree, which is the one that grows when a node is wrapped. -/
lemma Reworded.named_eq {node node' : Node} (h : Reworded node node') :
    node'.named = node.named := by
  induction node' generalizing node with
  | condition leaf =>
    cases h with
    | condition p c c' o o' => rw [named_condition, named_condition]
  | group d children' ih =>
    cases h with
    | @group c _ children _ each =>
      have heach : List.Forall₂ (fun child child' => child'.named = child.named) children
          children' :=
        each.imp_of_mem fun child' hchild' child hchild => ih child' hchild' hchild
      rw [named_group, named_group]
      exact flatMap_named_congr heach
    | @wrapped _ _ inner' inner =>
      have hinner : inner'.named = node.named := ih inner' (by simp) inner
      rw [named_group, List.flatMap_cons, List.flatMap_nil, List.append_nil, hinner]

end Node

/-! ## Filters -/

/-- The properties that the leaves of a filter name, from left to right and with repetitions. -/
def Group.named (g : Group) : List Property :=
  g.node.named

/-- **Properties in order.**  The properties of a filter are those of its leaves without
repetitions, each before those that are named first after it.  They are what is left of the
properties of the leaves, and also of the properties of the children taken one by one, when all but
the first of each are left out; and they stay the same when values, signs and combinators change and
nodes are wrapped. -/
theorem Group.properties_in_order (g : Group) :
    g.properties.Nodup ∧
      (∀ p, p ∈ g.properties ↔ ∃ leaf ∈ g.leaves, leaf.property = p) ∧
      g.properties.Pairwise (fun p q => g.named.idxOf p < g.named.idxOf q) ∧
      g.properties = g.named.eraseDups ∧
      g.properties = (g.children.flatMap Node.properties).eraseDups ∧
      ∀ g' : Group, g.node.Reworded g'.node → g'.properties = g.properties := by
  have hdistinct : ∀ g : Group, g.properties = g.named.eraseDups := fun g => g.node.properties_eq
  have horder : g.properties.Pairwise (fun p q => g.named.idxOf p < g.named.idxOf q) := by
    rw [hdistinct]
    exact List.pairwise_idxOf_eraseDups g.named
  refine ⟨?_, fun p => ?_, horder, hdistinct g, ?_, fun g' h => ?_⟩
  · refine List.Pairwise.imp ?_ horder
    rintro p q hlt rfl
    exact absurd hlt (Nat.lt_irrefl _)
  · rw [hdistinct, List.mem_eraseDups]
    exact Node.mem_named
  · have hchildren : g.named = g.children.flatMap Node.named :=
      Node.named_group g.combinator g.children
    have hproperties : Node.properties = fun child => child.named.eraseDups :=
      funext Node.properties_eq
    rw [hdistinct, hchildren, hproperties, List.eraseDups_flatMap_eraseDups]
  · rw [hdistinct, hdistinct]
    exact congrArg List.eraseDups h.named_eq

/-- The page is named twice and the country in between.  In the other filter the page comes with
other values and signs, the inner group is joined differently and wrapped, and the whole is wrapped
too. -/
theorem Group.properties_in_order_repeated :
    let country : Node := .condition ⟨.country, .equals, .anyOf ["DE", "FR"]⟩
    let g : Group := ⟨.all, [.condition ⟨.page, .equals, .one "/a"⟩,
      .group .any [country, .condition ⟨.page, .differs, .one "/b"⟩]]⟩
    let g' : Group := ⟨.any, [.group .any [.condition ⟨.page, .differs, .one "/c"⟩,
      .group .all [.group .all [country, .condition ⟨.page, .equals, .anyOf ["/d"]⟩]]]]⟩
    g.node.Reworded g'.node ∧ g'.properties = g.properties ∧ g.properties = [.page, .country] := by
  intro country g g'
  have hcountry : country.Reworded country := .condition _ _ _ _ _
  have hinner : (Node.group .any [country, .condition ⟨.page, .differs, .one "/b"⟩]).Reworded
      (.group .all [.group .all [country, .condition ⟨.page, .equals, .anyOf ["/d"]⟩]]) :=
    .wrapped _ (.group _ _ (.cons hcountry (.cons (.condition _ _ _ _ _) .nil)))
  have hreworded : g.node.Reworded g'.node :=
    .wrapped _ (.group _ _ (.cons (.condition _ _ _ _ _) (.cons hinner .nil)))
  obtain ⟨-, -, -, -, -, hsame⟩ := Group.properties_in_order g
  exact ⟨hreworded, hsame g' hreworded, rfl⟩

end SiteStats.Filter
