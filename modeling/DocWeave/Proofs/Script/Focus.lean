import DocWeave.Script.Tree

/-!
# Places in a tree

A place is a node and the way up from it, and `Focus.top` is the tree to which the way leads. Steps
to a child, to the parent or to a sibling lead to no other tree.

* `top_of_mem_visit` — every place that is visited lies in the tree that is visited
* `mem_preorder_top` — the node at a place, and all nodes below it, are nodes of its tree
-/

namespace DocWeave.Script

namespace Tree

theorem self_mem_preorder (t : Tree) : t ∈ t.preorder := by
  cases t
  exact List.mem_cons_self

theorem mem_preorders {c t : Tree} {cs : List Tree} (hc : c ∈ cs) (ht : t ∈ c.preorder) :
    t ∈ preorders cs := by
  induction cs with
  | nil => cases hc
  | cons d ds ih =>
    rcases List.mem_cons.mp hc with rfl | hc
    · exact List.mem_append_left _ ht
    · exact List.mem_append_right _ (ih hc)

/-- The nodes of a child are nodes of the tree. -/
theorem mem_preorder_of_mem_children {c t u : Tree} (hc : c ∈ u.children) (ht : t ∈ c.preorder) :
    t ∈ u.preorder := by
  obtain ⟨l, cs⟩ := u
  exact List.mem_cons_of_mem _ (mem_preorders hc ht)

theorem child?_mem_preorder {t c : Tree} {name : String} (h : t.child? name = some c) :
    c ∈ t.preorder :=
  mem_preorder_of_mem_children (List.mem_of_find?_eq_some h) c.self_mem_preorder

end Tree

namespace Focus

/-- The tree around a node. -/
def plug (t : Tree) : List Frame → Tree
  | [] => t
  | fr :: above => plug (.node fr.parent (fr.before.reverse ++ t :: fr.after)) above

/-- The tree in which a place lies. -/
def top (f : Focus) : Tree := plug f.tree f.above

theorem mem_preorder_plug {t u : Tree} (h : t ∈ u.preorder) (above : List Frame) :
    t ∈ (plug u above).preorder := by
  induction above generalizing u with
  | nil => exact h
  | cons fr above ih =>
    refine ih (Tree.mem_preorder_of_mem_children (c := u) ?_ h)
    exact List.mem_append_right _ List.mem_cons_self

/-- The nodes below a place are nodes of its tree. -/
theorem mem_preorder_top {f : Focus} {t : Tree} (h : t ∈ f.tree.preorder) : t ∈ f.top.preorder :=
  mem_preorder_plug h f.above

/-! ## Steps -/

theorem top_of_mem_split {parent : Label} {above : List Frame} {before after : List Tree}
    {g : Focus} (h : g ∈ split parent above before after) :
    g.top = plug (.node parent (before.reverse ++ after)) above := by
  induction after generalizing before with
  | nil => cases h
  | cons c after ih =>
    rcases List.mem_cons.mp h with rfl | h
    · rfl
    · rw [ih h, List.reverse_cons, List.append_assoc]
      rfl

theorem top_of_mem_children {f g : Focus} (h : g ∈ f.children) : g.top = f.top := by
  obtain ⟨⟨l, cs⟩, above⟩ := f
  exact top_of_mem_split h

theorem top_of_parent? {f p : Focus} (h : f.parent? = some p) : p.top = f.top := by
  obtain ⟨t, above⟩ := f
  cases above with
  | nil => cases h
  | cons fr above =>
    cases h
    rfl

/-! ## Visits -/

theorem exists_top_of_mem_walk {stack : List Focus} {f : Focus} (h : f ∈ walk stack) :
    ∃ g ∈ stack, f.top = g.top := by
  fun_induction walk stack with
  | case1 => cases h
  | case2 g rest ih =>
    rcases List.mem_cons.mp h with rfl | h
    · exact ⟨f, List.mem_cons_self, rfl⟩
    · obtain ⟨k, hk, htop⟩ := ih h
      rcases List.mem_append.mp hk with hk | hk
      · exact ⟨g, List.mem_cons_self, by rw [htop, top_of_mem_children hk]⟩
      · exact ⟨k, List.mem_cons_of_mem g hk, htop⟩

/-- Every place that is visited lies in the tree that is visited. -/
theorem top_of_mem_visit {t : Tree} {f : Focus} (h : f ∈ visit t) : f.top = t := by
  obtain ⟨g, hg, htop⟩ := exists_top_of_mem_walk h
  rw [htop, List.mem_singleton.mp hg]
  rfl

end Focus

end DocWeave.Script
