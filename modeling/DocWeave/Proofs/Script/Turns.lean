import DocWeave.Proofs.Script.Addresses

/-!
# The walk, turn by turn

At every turn the walk takes the place on top of its stack and puts the children of this place
there. What counts is what is owed for the whole stack: the places taken so far and those that a
walk of what is left would take are always the same row, and the nodes under the stack grow fewer by
one at every turn.

* `Turns.mass_eq`, `Turns.walk_eq` — what any number of turns leaves
* `visit_inOrder` — a visit comes to an end, and takes every place once, in pre-order
-/

namespace DocWeave.Script.Focus

/-- Turns of the walk from a stack: the places that are taken, in order, and the stack they leave. -/
inductive Turns : List Focus → List Focus → List Focus → Prop where
  | none (stack : List Focus) : Turns stack [] stack
  | take {f : Focus} {rest taken left : List Focus} (more : Turns (f.children ++ rest) taken left) :
      Turns (f :: rest) (f :: taken) left

variable {stack taken left : List Focus}

/-- A turn takes one node from under the stack. -/
theorem mass_cons (f : Focus) (rest : List Focus) :
    mass (f :: rest) = mass (f.children ++ rest) + 1 := by
  obtain ⟨⟨l, cs⟩, above⟩ := f
  simp only [mass, List.map_append, map_tree_children, Tree.sizes_append, List.map_cons, Tree.sizes,
    Tree.size, Tree.children]
  omega

/-- There are as many turns as there are nodes that are under the stack no more. -/
theorem Turns.mass_eq (h : Turns stack taken left) : mass stack = taken.length + mass left := by
  induction h with
  | none stack => exact (Nat.zero_add _).symm
  | take more ih => rw [mass_cons, ih, List.length_cons, Nat.add_right_comm]

/-- The places that have been taken are those that the walk meets first, and what is left owes the
others. -/
theorem Turns.walk_eq (h : Turns stack taken left) : walk stack = taken ++ walk left := by
  induction h with
  | none stack => rfl
  | take more ih => rw [walk, ih, List.cons_append]

/-- As long as there is something on the stack there is another turn. -/
theorem Turns.exists_more (h : Turns stack taken left) (hleft : left ≠ []) :
    ∃ f left', Turns stack (taken ++ [f]) left' := by
  induction h with
  | none stack =>
    obtain ⟨f, rest, rfl⟩ := List.exists_cons_of_ne_nil hleft
    exact ⟨f, f.children ++ rest, .take (.none _)⟩
  | take more ih =>
    obtain ⟨g, left', hmore⟩ := ih hleft
    exact ⟨g, left', .take hmore⟩

/-- The walk is made of turns, and nothing is left on the stack in the end. -/
theorem turns_walk (stack : List Focus) : Turns stack (walk stack) [] := by
  fun_induction walk stack with
  | case1 => exact .none []
  | case2 f rest ih => exact .take ih

/-- The places of a nested tree are visited in the order in which their nodes begin. -/
theorem pairwise_start_visit {t : Tree} (h : t.Nested) :
    (visit t).Pairwise fun f g => f.label.start.offset ≤ g.label.start.offset := by
  have hstarts := Tree.pairwise_start_preorder h
  rw [← map_tree_places [], ← visit_eq_places, List.pairwise_map] at hstarts
  exact hstarts

/-- A visit takes turns until nothing is left on its stack. However far it has come, as many turns
are left as there are nodes under the stack, there is a next one unless there are none, and the
places taken so far are the first ones of the visit. All in all it takes the places of the tree, each
of them once, and the nodes at these places are those of the tree in pre-order; in a nested tree they
never begin before one that was taken earlier. -/
theorem visit_inOrder (t : Tree) :
    Turns [root t] (visit t) []
      ∧ (∀ taken left, Turns [root t] taken left →
        t.size = taken.length + mass left ∧ visit t = taken ++ walk left
          ∧ (left ≠ [] → ∃ f left', Turns [root t] (taken ++ [f]) left'))
      ∧ (visit t).map tree = t.preorder
      ∧ (∀ f, f ∈ visit t ↔ f.top = t)
      ∧ (visit t).Pairwise (fun f g => f.address ≠ g.address)
      ∧ (t.Nested → (visit t).Pairwise fun f g => f.label.start.offset ≤ g.label.start.offset) := by
  refine ⟨turns_walk [root t], fun taken left h => ⟨?_, h.walk_eq, h.exists_more⟩, ?_,
    fun _ => mem_visit_iff, pairwise_address_ne_visit t, pairwise_start_visit⟩
  · rw [← h.mass_eq]
    simp [mass, Tree.sizes, root]
  · rw [visit_eq_places, map_tree_places]

/-- A program of a block with two statements and an empty one behind it. -/
def branching : Tree :=
  .node { kind := "program", start := {}, stop := 9 } [
    .node { kind := "block", start := {}, stop := 7 } [
      .node { kind := "break", start := { offset := 1 }, stop := 3 } [],
      .node { kind := "continue", start := { offset := 3 }, stop := 6 } []],
    .node { kind := "empty", start := { offset := 7 }, stop := 7 } []]

/-- The statements in the block are visited in front of the one behind it. -/
theorem visit_inOrder_branching :
    branching.Nested
      ∧ (visit branching).map kind = ["program", "block", "break", "continue", "empty"]
      ∧ (visit branching).Pairwise fun f g => f.label.start.offset ≤ g.label.start.offset := by
  obtain ⟨-, -, htrees, -, -, hstarts⟩ := visit_inOrder branching
  have hnested : branching.Nested := by decide
  refine ⟨hnested, ?_, hstarts hnested⟩
  rw [show kind = Tree.kind ∘ tree from rfl, ← List.map_map, htrees]
  rfl

end DocWeave.Script.Focus
