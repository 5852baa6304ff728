import DocWeave.Proofs.Script.Nesting
import DocWeave.Proofs.Script.Visit
import Mathlib.Data.List.Lex

/-!
# Addresses

The address of a place is the row of child indices on the way down to it. An address that goes on
from another one is that of a place below, and the visit takes the places of a tree in the order of
their addresses.

* `eq_of_address_eq` — two places of one tree that have one address are one place
* `mem_visit_iff` — all places of a tree are visited
* `pairwise_address_visit` — each address comes behind those of the places visited before, so that
  no place is visited twice
* `encloses_or_before` — in a nested tree, of two places one lies below the other, or the node at one
  ends before the node at the other begins
-/

namespace DocWeave.Script.Focus

/-- The child indices on a way up, in the order of the way down. -/
def route (above : List Frame) : List Nat := (above.map fun fr => fr.before.length).reverse

theorem route_cons (fr : Frame) (above : List Frame) :
    route (fr :: above) = route above ++ [fr.before.length] := by
  rw [route, List.map_cons, List.reverse_cons]
  rfl

/-- The second place lies below the first one: its address goes on from that of the first. -/
def Encloses (f g : Focus) : Prop := f.address <+: g.address ∧ f.address ≠ g.address

instance (f g : Focus) : Decidable (f.Encloses g) := inferInstanceAs (Decidable (_ ∧ _))

/-! ## One address, one place -/

theorem eq_of_plug_eq {t u : Tree} {above above' : List Frame} (h : plug t above = plug u above')
    (hroute : above.map (fun fr => fr.before.length) = above'.map fun fr => fr.before.length) :
    t = u ∧ above = above' := by
  induction above generalizing t u above' with
  | nil =>
    obtain rfl : above' = [] := List.map_eq_nil_iff.mp hroute.symm
    exact ⟨h, rfl⟩
  | cons fr above ih =>
    cases above' with
    | nil => cases hroute
    | cons fr' above' =>
      obtain ⟨hlen, hrest⟩ := List.cons.inj hroute
      rw [plug, plug] at h
      obtain ⟨hnode, rfl⟩ := ih h hrest
      obtain ⟨hparent, hchildren⟩ := Tree.node.inj hnode
      obtain ⟨hbefore, hbehind⟩ := List.append_inj hchildren (by simpa using hlen)
      obtain ⟨rfl, hafter⟩ := List.cons.inj hbehind
      obtain ⟨parent, before, after⟩ := fr
      obtain rfl : fr' = ⟨parent, before, after⟩ := by
        obtain ⟨parent', before', after'⟩ := fr'
        rw [Frame.mk.injEq]
        exact ⟨hparent.symm, List.reverse_inj.mp hbefore.symm, hafter.symm⟩
      exact ⟨rfl, rfl⟩

/-- In one tree, a place is known by its address. -/
theorem eq_of_address_eq {f g : Focus} (htop : f.top = g.top) (h : f.address = g.address) :
    f = g := by
  obtain ⟨t, above⟩ := f
  obtain ⟨u, above'⟩ := g
  obtain ⟨rfl, rfl⟩ := eq_of_plug_eq htop (List.reverse_inj.mp h)
  rfl

/-! ## All places are visited -/

theorem mem_placesBelow_of_mem_places {parent : Label} {above : List Frame}
    {before front back : List Tree} {c : Tree} {g : Focus}
    (h : g ∈ places (⟨parent, front.reverse ++ before, back⟩ :: above) c) :
    g ∈ placesBelow parent above before (front ++ c :: back) := by
  induction front generalizing before with
  | nil => exact List.mem_append_left _ h
  | cons d front ih =>
    rw [List.reverse_cons, List.append_assoc] at h
    exact List.mem_append_right _ (ih h)

theorem mem_places_plug {above : List Frame} {t : Tree} {g : Focus} (h : g ∈ places above t) :
    g ∈ places [] (plug t above) := by
  induction above generalizing t with
  | nil => exact h
  | cons fr above ih =>
    refine ih (List.mem_cons_of_mem _ (mem_placesBelow_of_mem_places ?_))
    rwa [List.reverse_reverse, List.append_nil]

/-- The places that are visited are those of the tree. -/
theorem mem_visit_iff {t : Tree} {f : Focus} : f ∈ visit t ↔ f.top = t := by
  refine ⟨top_of_mem_visit, ?_⟩
  rintro rfl
  rw [visit_eq_places]
  refine mem_places_plug ?_
  rw [places_eq]
  exact List.mem_cons_self

/-! ## The order of the visit -/

mutual

/-- The addresses of the places in a tree go on from the way up to the tree. -/
theorem route_prefix_of_mem_places {above : List Frame} {t : Tree} {g : Focus}
    (h : g ∈ places above t) : route above <+: g.address := by
  cases t with
  | node l cs =>
    rcases List.mem_cons.mp h with rfl | h
    · exact List.prefix_rfl
    · obtain ⟨i, rest, -, hg⟩ := exists_address_of_mem_placesBelow h
      exact ⟨i :: rest, hg.symm⟩

/-- So do those of the places in trees side by side, each with the index of its tree. -/
theorem exists_address_of_mem_placesBelow {parent : Label} {above : List Frame}
    {before after : List Tree} {g : Focus} (h : g ∈ placesBelow parent above before after) :
    ∃ i rest, before.length ≤ i ∧ g.address = route above ++ i :: rest := by
  cases after with
  | nil => cases h
  | cons c after =>
    rcases List.mem_append.mp h with h | h
    · obtain ⟨rest, hrest⟩ := route_prefix_of_mem_places h
      refine ⟨before.length, rest, Nat.le_refl _, ?_⟩
      rw [← hrest, route_cons, List.append_assoc]
      rfl
    · obtain ⟨i, rest, hi, hg⟩ := exists_address_of_mem_placesBelow h
      rw [List.length_cons] at hi
      exact ⟨i, rest, by omega, hg⟩

end

/-- The places in the trees below a node are below it. -/
theorem encloses_of_mem_placesBelow {parent : Label} {above : List Frame}
    {before after : List Tree} {t : Tree} {g : Focus}
    (h : g ∈ placesBelow parent above before after) : Encloses ⟨t, above⟩ g := by
  obtain ⟨i, rest, -, hg⟩ := exists_address_of_mem_placesBelow h
  refine ⟨⟨i :: rest, hg.symm⟩, fun heq => ?_⟩
  exact List.cons_ne_nil i rest (List.self_eq_append_right.mp (heq.trans hg))

theorem Encloses.lex {f g : Focus} (h : f.Encloses g) : List.Lex (· < ·) f.address g.address := by
  obtain ⟨⟨rest, hrest⟩, hne⟩ := h
  cases rest with
  | nil => exact absurd (by simpa using hrest) hne
  | cons i rest =>
    have hnil : List.Lex (· < ·) [] (i :: rest) := .nil
    have hlex := hnil.append_left (· < ·) f.address
    rwa [List.append_nil, hrest] at hlex

mutual

/-- The places in a tree are in the order of their addresses. -/
theorem pairwise_address_places (above : List Frame) (t : Tree) :
    (places above t).Pairwise fun f g => List.Lex (· < ·) f.address g.address := by
  cases t with
  | node l cs =>
    exact .cons (fun g hg => (encloses_of_mem_placesBelow hg).lex)
      (pairwise_address_placesBelow l above [] cs)

theorem pairwise_address_placesBelow (parent : Label) (above : List Frame)
    (before after : List Tree) : (placesBelow parent above before after).Pairwise
      fun f g => List.Lex (· < ·) f.address g.address := by
  cases after with
  | nil => exact .nil
  | cons c after =>
    refine List.pairwise_append.mpr ⟨pairwise_address_places _ c,
      pairwise_address_placesBelow parent above (c :: before) after, fun f hf g hg => ?_⟩
    -- the two ways part at the parent, and the second one goes on by a greater index
    obtain ⟨rest, hf⟩ := route_prefix_of_mem_places hf
    obtain ⟨i, rest', hi, hg⟩ := exists_address_of_mem_placesBelow hg
    rw [List.length_cons] at hi
    rw [← hf, hg, route_cons, List.append_assoc]
    exact List.Lex.append_left (· < ·) (.rel (Nat.lt_of_succ_le hi)) _

end

/-- A place is visited behind all places whose addresses are in front of its own. -/
theorem pairwise_address_visit (t : Tree) :
    (visit t).Pairwise fun f g => List.Lex (· < ·) f.address g.address := by
  rw [visit_eq_places]
  exact pairwise_address_places [] t

/-- No place is visited twice. -/
theorem pairwise_address_ne_visit (t : Tree) :
    (visit t).Pairwise fun f g => f.address ≠ g.address :=
  (pairwise_address_visit t).imp fun h =>
    List.Lex.to_ne (List.Lex.imp (fun _ _ hlt => Nat.ne_of_lt hlt) _ _ h)

/-! ## Places in nested trees -/

theorem tree_mem_preorder_of_mem_places {above : List Frame} {t : Tree} {g : Focus}
    (h : g ∈ places above t) : g.tree ∈ t.preorder := by
  rw [← map_tree_places above]
  exact List.mem_map_of_mem h

mutual

/-- A place in a nested tree encloses those visited after it, or ends before they begin. -/
theorem pairwise_nested_places (above : List Frame) {t : Tree} (h : t.Nested) :
    (places above t).Pairwise fun f g => f.Encloses g ∨ f.label.Before g.label := by
  cases t with
  | node l cs =>
    have hle : ∀ c ∈ cs, c.label.start.offset ≤ c.label.stop :=
      fun c hc => (h.of_mem_children hc).orderly.le
    exact .cons (fun g hg => Or.inl (encloses_of_mem_placesBelow hg))
      (pairwise_nested_placesBelow l above [] (fun c hc => h.of_mem_children hc)
        (Tree.pairwise_before hle h.orderly.inOrder))

theorem pairwise_nested_placesBelow (parent : Label) (above : List Frame)
    (before : List Tree) {after : List Tree} (h : ∀ c ∈ after, c.Nested)
    (horder : after.Pairwise fun c d => c.label.Before d.label) :
    (placesBelow parent above before after).Pairwise
      fun f g => f.Encloses g ∨ f.label.Before g.label := by
  cases after with
  | nil => exact .nil
  | cons c after =>
    obtain ⟨hc, hafter⟩ := List.forall_mem_cons.mp h
    refine List.pairwise_append.mpr ⟨pairwise_nested_places _ hc,
      pairwise_nested_placesBelow parent above (c :: before) hafter horder.of_cons,
      fun f hf g hg => Or.inr ?_⟩
    -- each of the two nodes lies in one of the trees that stand side by side
    have hg' : g.tree ∈ Tree.preorders after := by
      rw [← map_tree_placesBelow parent above (c :: before)]
      exact List.mem_map_of_mem hg
    obtain ⟨d, hd, hgd⟩ := Tree.exists_mem_of_mem_preorders hg'
    have hfc := Tree.within_of_mem_preorder hc (tree_mem_preorder_of_mem_places hf)
    have hgd := Tree.within_of_mem_preorder (hafter d hd) hgd
    exact (List.rel_of_pairwise_cons horder hd).of_within hfc hgd

end

/-- Of two places in a nested tree, one lies below the other or one ends before the other begins. -/
theorem encloses_or_before {t : Tree} (h : t.Nested) {f g : Focus} (hf : f.top = t)
    (hg : g.top = t) (hne : f.address ≠ g.address) :
    (f.Encloses g ∨ f.label.Before g.label) ∨ g.Encloses f ∨ g.label.Before f.label := by
  have hpair := pairwise_nested_places [] h
  rw [← visit_eq_places] at hpair
  have hvisited := Tree.eq_or_rel_of_pairwise hpair (mem_visit_iff.mpr hf) (mem_visit_iff.mpr hg)
  exact hvisited.resolve_left fun heq => hne (congrArg address heq)

end DocWeave.Script.Focus
