import DocWeave.Proofs.Script.Focus

/-!
# The order of the visit

The visit takes places from a stack. What it comes to is told by recursion on the tree: a place is
met before those below it, and these from left to right.

* `visit_eq_places` — the places that are visited are those of the recursion, in the same order
* `map_tree_places` — the nodes at these places are the nodes of the tree in pre-order

The induction is on the walk, of which every place on the stack owes the places in its own tree.
-/

namespace DocWeave.Script.Focus

mutual

/-- The places in a tree at the end of a way up, a place before those below it. -/
def places (above : List Frame) : Tree → List Focus
  | .node l cs => ⟨.node l cs, above⟩ :: placesBelow l above [] cs

/-- The places in trees that stand side by side below `parent` and behind `before`. -/
def placesBelow (parent : Label) (above : List Frame) (before : List Tree) :
    List Tree → List Focus
  | [] => []
  | c :: after =>
    places (⟨parent, before, after⟩ :: above) c ++ placesBelow parent above (c :: before) after

end

mutual

theorem map_tree_places (above : List Frame) (t : Tree) :
    (places above t).map tree = t.preorder := by
  cases t with
  | node l cs => rw [places, List.map_cons, map_tree_placesBelow, Tree.preorder]

theorem map_tree_placesBelow (parent : Label) (above : List Frame) (before after : List Tree) :
    (placesBelow parent above before after).map tree = Tree.preorders after := by
  cases after with
  | nil => rfl
  | cons c after =>
    rw [placesBelow, List.map_append, map_tree_places, map_tree_placesBelow, Tree.preorders]

end

theorem flatMap_places_split (parent : Label) (above : List Frame) (before after : List Tree) :
    (split parent above before after).flatMap (fun f => places f.above f.tree)
      = placesBelow parent above before after := by
  induction after generalizing before with
  | nil => rfl
  | cons c after ih => rw [split, List.flatMap_cons, ih, placesBelow]

/-- The places in a tree are the place of its root and the places in the trees below. -/
theorem places_eq (f : Focus) :
    places f.above f.tree = f :: f.children.flatMap fun g => places g.above g.tree := by
  obtain ⟨⟨l, cs⟩, above⟩ := f
  rw [children, flatMap_places_split]
  rfl

/-- A walk meets the places in the trees of its stack, one tree after the other. -/
theorem walk_eq_flatMap_places (stack : List Focus) :
    walk stack = stack.flatMap fun f => places f.above f.tree := by
  fun_induction walk stack with
  | case1 => rfl
  | case2 f rest ih => rw [ih, List.flatMap_append, List.flatMap_cons, places_eq, List.cons_append]

/-- The visit meets the places of a tree in pre-order. -/
theorem visit_eq_places (t : Tree) : visit t = places [] t := by
  rw [visit, walk_eq_flatMap_places, List.flatMap_singleton]
  rfl

end DocWeave.Script.Focus
