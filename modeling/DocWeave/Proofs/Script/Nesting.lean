import DocWeave.Proofs.Script.Focus
import Mathlib.Data.List.Chain

/-!
# Nested trees

In a nested tree every node lies in its parent, and of two neighbours the first one ends before the
second one begins. So much is asked of nodes and the nodes next to them; what follows is about any
two nodes of the tree.

* `within_of_mem_preorder` — a node lies in every node above it
* `nested_or_apart` — of two nodes, one lies in the other or one ends before the other begins
* `pairwise_start_preorder` — in pre-order, no node begins before one that is listed in front of it
-/

namespace DocWeave.Script

namespace Label

/-- The bytes of the first node are among those of the second one. -/
def Within (a b : Label) : Prop := b.start.offset ≤ a.start.offset ∧ a.stop ≤ b.stop

/-- The first node ends before the second one begins. -/
def Before (a b : Label) : Prop := a.stop ≤ b.start.offset

instance (a b : Label) : Decidable (Within a b) := inferInstanceAs (Decidable (_ ∧ _))

instance (a b : Label) : Decidable (Before a b) := inferInstanceAs (Decidable (_ ≤ _))

theorem Within.refl (a : Label) : a.Within a := ⟨Nat.le_refl _, Nat.le_refl _⟩

theorem Within.trans {a b c : Label} (hab : a.Within b) (hbc : b.Within c) : a.Within c :=
  ⟨Nat.le_trans hbc.1 hab.1, Nat.le_trans hab.2 hbc.2⟩

/-- What lies in two nodes one behind the other is one behind the other. -/
theorem Before.of_within {a b c d : Label} (h : c.Before d) (hac : a.Within c) (hbd : b.Within d) :
    a.Before b := Nat.le_trans hac.2 (Nat.le_trans h hbd.1)

end Label

namespace Tree

/-- A node that does not end before it begins, in which its children lie one behind the other. -/
structure Orderly (t : Tree) : Prop where
  le : t.label.start.offset ≤ t.label.stop
  within : ∀ c ∈ t.children, c.label.Within t.label
  inOrder : t.children.IsChain fun c d => c.label.Before d.label

instance (t : Tree) : Decidable t.Orderly :=
  decidable_of_iff (t.label.start.offset ≤ t.label.stop ∧ (∀ c ∈ t.children, c.label.Within t.label)
    ∧ t.children.IsChain fun c d => c.label.Before d.label)
    ⟨fun h => ⟨h.1, h.2.1, h.2.2⟩, fun h => ⟨h.le, h.within, h.inOrder⟩⟩

/-- All nodes of the tree are orderly. -/
def Nested (t : Tree) : Prop := ∀ u ∈ t.preorder, u.Orderly

instance (t : Tree) : Decidable t.Nested := inferInstanceAs (Decidable (∀ u ∈ t.preorder, _))

theorem Nested.orderly {t : Tree} (h : t.Nested) : t.Orderly := h t t.self_mem_preorder

theorem Nested.of_mem_children {c t : Tree} (h : t.Nested) (hc : c ∈ t.children) : c.Nested :=
  fun u hu => h u (mem_preorder_of_mem_children hc hu)

theorem exists_mem_of_mem_preorders {u : Tree} {cs : List Tree} (h : u ∈ preorders cs) :
    ∃ c ∈ cs, u ∈ c.preorder := by
  induction cs with
  | nil => cases h
  | cons c cs ih =>
    rcases List.mem_append.mp h with h | h
    · exact ⟨c, List.mem_cons_self, h⟩
    · obtain ⟨d, hd, hu⟩ := ih h
      exact ⟨d, List.mem_cons_of_mem c hd, hu⟩

/-- A node of a tree is its root or a node of one of its children. -/
theorem mem_preorder_cases {t u : Tree} (h : u ∈ t.preorder) :
    u = t ∨ ∃ c ∈ t.children, u ∈ c.preorder := by
  obtain ⟨l, cs⟩ := t
  rcases List.mem_cons.mp h with rfl | h
  · exact Or.inl rfl
  · exact Or.inr (exists_mem_of_mem_preorders h)

theorem size_lt_of_mem_children {c t : Tree} (h : c ∈ t.children) : c.size < t.size := by
  obtain ⟨l, cs⟩ := t
  obtain ⟨front, back, rfl⟩ := List.append_of_mem h
  rw [size, sizes_append, sizes]
  omega

/-- Children are in order not only next to each other. -/
theorem pairwise_before {cs : List Tree} (hle : ∀ c ∈ cs, c.label.start.offset ≤ c.label.stop)
    (h : cs.IsChain fun c d => c.label.Before d.label) :
    cs.Pairwise fun c d => c.label.Before d.label := by
  induction h with
  | nil => exact .nil
  | singleton a => exact List.pairwise_singleton _ a
  | @cons_cons a b cs hab _ ih =>
    have hrest := ih fun c hc => hle c (List.mem_cons_of_mem a hc)
    refine .cons (fun c hc => ?_) hrest
    rcases List.mem_cons.mp hc with rfl | hc
    · exact hab
    · -- the neighbour lies between the two
      have hb := hle b (List.mem_cons_of_mem a List.mem_cons_self)
      exact Nat.le_trans hab (Nat.le_trans hb (List.rel_of_pairwise_cons hrest hc))

theorem eq_or_rel_of_pairwise {α : Type} {R : α → α → Prop} {l : List α} (h : l.Pairwise R)
    {a b : α} (ha : a ∈ l) (hb : b ∈ l) : a = b ∨ R a b ∨ R b a := by
  obtain ⟨front, back, rfl⟩ := List.append_of_mem ha
  obtain ⟨-, hback, hacross⟩ := List.pairwise_append.mp h
  rcases List.mem_append.mp hb with hb | hb
  · exact Or.inr (Or.inr (hacross b hb a List.mem_cons_self))
  · rcases List.mem_cons.mp hb with rfl | hb
    · exact Or.inl rfl
    · exact Or.inr (Or.inl (List.rel_of_pairwise_cons hback hb))

/-- The nodes of a nested tree lie in its root. -/
theorem within_of_mem_preorder {t u : Tree} (h : t.Nested) (hu : u ∈ t.preorder) :
    u.label.Within t.label := by
  rcases mem_preorder_cases hu with rfl | ⟨c, hc, hu⟩
  · exact .refl _
  · have := size_lt_of_mem_children hc
    exact (within_of_mem_preorder (h.of_mem_children hc) hu).trans (h.orderly.within c hc)
termination_by t.size

/-- Of two nodes of a nested tree, one lies in the other or one ends before the other begins. -/
theorem nested_or_apart {t u v : Tree} (h : t.Nested) (hu : u ∈ t.preorder) (hv : v ∈ t.preorder) :
    u.label.Within v.label ∨ v.label.Within u.label
      ∨ u.label.Before v.label ∨ v.label.Before u.label := by
  rcases mem_preorder_cases hu with rfl | ⟨c, hc, huc⟩
  · exact Or.inr (Or.inl (within_of_mem_preorder h hv))
  rcases mem_preorder_cases hv with rfl | ⟨d, hd, hvd⟩
  · exact Or.inl (within_of_mem_preorder h hu)
  have hwu := within_of_mem_preorder (h.of_mem_children hc) huc
  have hwv := within_of_mem_preorder (h.of_mem_children hd) hvd
  have hpair := pairwise_before (fun e he => (h.of_mem_children he).orderly.le) h.orderly.inOrder
  -- the two children are one child, or one of them is in front of the other
  rcases eq_or_rel_of_pairwise hpair hc hd with rfl | hbefore | hbefore
  · have := size_lt_of_mem_children hc
    exact nested_or_apart (h.of_mem_children hc) huc hvd
  · exact Or.inr (Or.inr (Or.inl (hbefore.of_within hwu hwv)))
  · exact Or.inr (Or.inr (Or.inr (hbefore.of_within hwv hwu)))
termination_by t.size

mutual

/-- The nodes of a nested tree, in pre-order, begin one after the other or at one byte. -/
theorem pairwise_start_preorder {t : Tree} (h : t.Nested) :
    t.preorder.Pairwise fun u v => u.label.start.offset ≤ v.label.start.offset := by
  cases t with
  | node l cs =>
    have hle : ∀ c ∈ cs, c.label.start.offset ≤ c.label.stop :=
      fun c hc => (h.of_mem_children hc).orderly.le
    refine .cons (fun v hv => (within_of_mem_preorder h (List.mem_cons_of_mem _ hv)).1) ?_
    exact pairwise_start_preorders (fun c hc => h.of_mem_children hc)
      (pairwise_before hle h.orderly.inOrder)

/-- So do the nodes of nested trees that stand one behind the other. -/
theorem pairwise_start_preorders {cs : List Tree} (h : ∀ c ∈ cs, c.Nested)
    (horder : cs.Pairwise fun c d => c.label.Before d.label) :
    (preorders cs).Pairwise fun u v => u.label.start.offset ≤ v.label.start.offset := by
  cases cs with
  | nil => exact .nil
  | cons c cs =>
    obtain ⟨hc, hcs⟩ := List.forall_mem_cons.mp h
    refine List.pairwise_append.mpr ⟨pairwise_start_preorder hc,
      pairwise_start_preorders hcs horder.of_cons, fun u hu v hv => ?_⟩
    -- the first node does not begin behind the end of its tree, and the second one's tree is behind it
    obtain ⟨d, hd, hvd⟩ := exists_mem_of_mem_preorders hv
    have huc := within_of_mem_preorder hc hu
    have hbefore := (List.rel_of_pairwise_cons horder hd).of_within huc
      (within_of_mem_preorder (hcs d hd) hvd)
    have hle : u.label.start.offset ≤ u.label.stop := (hc u hu).le
    exact Nat.le_trans hle hbefore

end

end Tree

end DocWeave.Script
