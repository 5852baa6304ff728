import DocWeave.Proofs.Extraction.Nesting
import DocWeave.Proofs.Script.Addresses
import DocWeave.Proofs.Splice.Weaving

/-!
# Every construct has an anchor of its own

An anchor may be an export, a declaration or a decorator, and so cover more than the node it stands
for or something else. Yet it stands for no other construct: from an anchor the construct is found
again (`Focus.owner?`), as the only declaration that is exported, the only declarator of a
declaration, or the first node behind a row of decorators.

* `owner?_anchor` — the construct of an anchor is the one at whose place it was found
* `address_anchor_ne` — so different constructs have different anchors
* `run_apart` — and where no two anchors begin at one place for want of text between them, neither do
  any two spans, and no two blocks are put in at one place
-/

namespace DocWeave

open Script

namespace Script

/-! ## What grammars keep to -/

/-- The kinds of nodes that can be exported and get a comment, or hold something that does. -/
def declarationKinds : List String :=
  ["function_declaration", "generator_function_declaration", "lexical_declaration",
    "variable_declaration"]

namespace Tree

def isDeclarator (t : Tree) : Bool := t.label.named && t.kind == "variable_declarator"

/-- Behind such a node there are no more decorators of the same method. -/
def endsDecorators (t : Tree) : Bool := t.label.named && t.kind != "decorator"

/-- Declarators and methods are named nodes, and an export holds one declaration at most. -/
structure Conventional (t : Tree) : Prop where
  named : ∀ u ∈ t.preorder, u.kind = "variable_declarator" ∨ u.kind = "method_definition" →
    u.label.named = true
  exports : ∀ u ∈ t.preorder, u.kind = "export_statement" →
    (u.children.filter fun c => declarationKinds.contains c.kind).length ≤ 1

instance (t : Tree) : Decidable t.Conventional :=
  decidable_of_iff ((∀ u ∈ t.preorder, u.kind = "variable_declarator" ∨ u.kind = "method_definition" →
      u.label.named = true)
    ∧ ∀ u ∈ t.preorder, u.kind = "export_statement" →
      (u.children.filter fun c => declarationKinds.contains c.kind).length ≤ 1)
    ⟨fun h => ⟨h.1, h.2⟩, fun h => ⟨h.named, h.exports⟩⟩

end Tree

namespace Focus

/-! ## The only child of some kind -/

theorem mem_split (parent : Label) (above : List Frame) (before front : List Tree) (t : Tree)
    (back : List Tree) : ⟨t, ⟨parent, front.reverse ++ before, back⟩ :: above⟩
      ∈ split parent above before (front ++ t :: back) := by
  induction front generalizing before with
  | nil => exact List.mem_cons_self
  | cons c front ih =>
    rw [List.reverse_cons, List.append_assoc]
    exact List.mem_cons_of_mem _ (ih (c :: before))

theorem mem_children_of_parent? {f p : Focus} (h : f.parent? = some p) : f ∈ p.children := by
  obtain ⟨t, above⟩ := f
  cases above with
  | nil => cases h
  | cons fr above =>
    cases h
    have hmem := mem_split fr.parent above [] fr.before.reverse t fr.after
    rwa [List.reverse_reverse, List.append_nil] at hmem

/-- A child is found if there is no other one like it. -/
theorem find?_children {f p : Focus} {q : Tree → Bool} (h : f.parent? = some p)
    (hq : q f.tree = true) (hone : (p.tree.children.filter q).length ≤ 1) :
    (p.children.find? fun c => q c.tree) = some f := by
  have hlen : (p.children.filter fun c => q c.tree).length ≤ 1 := by
    rw [← map_tree_children, List.filter_map, List.length_map] at hone
    exact hone
  have hmem : f ∈ p.children.filter fun c => q c.tree :=
    List.mem_filter.mpr ⟨mem_children_of_parent? h, hq⟩
  obtain ⟨g, hg⟩ := List.length_eq_one_iff.mp (Nat.le_antisymm hlen (List.length_pos_of_mem hmem))
  rw [hg, List.mem_singleton] at hmem
  rw [← List.head?_filter, hg, hmem]
  rfl

/-! ## From an anchor to its construct -/

/-- The first declarator of a declaration of names; other nodes declare themselves. -/
def declared? (d : Focus) : Option Focus :=
  if d.kind = "lexical_declaration" ∨ d.kind = "variable_declaration" then
    d.children.find? fun c => c.tree.isDeclarator
  else some d

/-- From the node on, the first of its row that ends a row of decorators. -/
def undecorated? (a : Focus) : Option Focus :=
  match a.above with
  | [] => some a
  | fr :: above =>
    (split fr.parent above fr.before (a.tree :: fr.after)).find? fun c => c.tree.endsDecorators

/-- The node that an anchor stands for. -/
def owner? (a : Focus) : Option Focus :=
  if a.kind = "export_statement" then
    (a.children.find? fun c => declarationKinds.contains c.tree.kind).bind declared?
  else if a.kind = "decorator" ∨ a.kind = "method_definition" then a.undecorated?
  else a.declared?

variable {f : Focus}

theorem conventional_parent {p : Focus} (hroot : f.top.Conventional) (h : f.parent? = some p) :
    p.top.Conventional := by rwa [top_of_parent? h]

/-- An exported declaration is found again in its export. -/
theorem owner?_exported (hroot : f.top.Conventional) (hkind : f.kind ∈ declarationKinds) :
    f.exported.owner? = f.declared? := by
  have hself : f.owner? = f.declared? := by
    have hne : f.kind ≠ "export_statement" ∧ f.kind ≠ "decorator" ∧ f.kind ≠ "method_definition" := by
      simp only [declarationKinds, List.mem_cons, List.not_mem_nil, or_false] at hkind
      rcases hkind with h | h | h | h <;> rw [h] <;> decide
    rw [owner?, if_neg hne.1, if_neg (not_or.mpr hne.2)]
  unfold exported
  split
  · next p hp =>
    split
    · next hexport =>
      have hmem := mem_preorder_top p.tree.self_mem_preorder
      have hone := (conventional_parent hroot hp).exports p.tree hmem hexport
      have hcontains : declarationKinds.contains f.tree.kind = true := List.contains_iff_mem.mpr hkind
      rw [owner?, if_pos hexport, find?_children hp hcontains hone, Option.bind_some]
    · exact hself
  · exact hself

/-- A declarator is found again in its declaration, if it is the only one there. -/
theorem owner?_declarationAnchor (hroot : f.top.Conventional)
    (hkind : f.kind = "variable_declarator") : f.declarationAnchor.owner? = some f := by
  have hself : f.owner? = some f := by simp [owner?, declared?, hkind]
  have hnamed : f.tree.label.named = true :=
    hroot.named f.tree (mem_preorder_top f.tree.self_mem_preorder) (Or.inl hkind)
  unfold declarationAnchor
  split
  · exact hself
  · next d hd =>
    simp only
    split
    · next hdeclaration =>
      split
      · next hone =>
        have hmem : d.kind ∈ declarationKinds := by
          rcases hdeclaration with h | h <;> rw [h] <;> decide
        have hdeclarator : f.tree.isDeclarator = true := by
          rw [Tree.isDeclarator, hnamed]
          exact beq_iff_eq.mpr hkind
        rw [owner?_exported (conventional_parent hroot hd) hmem, declared?, if_pos hdeclaration]
        exact find?_children hd hdeclarator (Nat.le_of_eq hone)
      · exact hself
    · exact hself

/-- Going back over decorators and nodes without a name, the first node behind them stays the same.
-/
theorem undecorated?_firstDecorator {parent : Label} {above : List Frame} {anchor : Focus}
    {tree : Tree} {after before : List Tree} (hanchor : anchor.undecorated? = some f)
    (hhere : ((split parent above before (tree :: after)).find? fun c => c.tree.endsDecorators)
      = some f) :
    (firstDecorator parent above anchor tree after before).undecorated? = some f := by
  induction before generalizing anchor tree after with
  | nil => exact hanchor
  | cons c before ih =>
    have hstep (hc : c.endsDecorators = false) :
        ((split parent above before (c :: tree :: after)).find? fun c => c.tree.endsDecorators)
          = some f := by
      rw [split, List.find?_cons_of_neg (by simpa using hc)]
      exact hhere
    rw [firstDecorator]
    split
    · split
      · next hdecorator =>
        have hnext := hstep (by simp [Tree.endsDecorators, hdecorator])
        exact ih hnext hnext
      · exact hanchor
    · next hunnamed => exact ih hanchor (hstep (by simp [Tree.endsDecorators, hunnamed]))

/-- What comes of going back is the node itself or a decorator. -/
theorem firstDecorator_cases (parent : Label) (above : List Frame) (anchor : Focus) (tree : Tree)
    (after before : List Tree) : firstDecorator parent above anchor tree after before = anchor
      ∨ (firstDecorator parent above anchor tree after before).kind = "decorator" := by
  induction before generalizing anchor tree after with
  | nil => exact Or.inl rfl
  | cons c before ih =>
    rw [firstDecorator]
    split
    · split
      · next hdecorator =>
        refine Or.inr ((ih _ c (tree :: after)).elim (fun heq => ?_) id)
        rw [heq]
        exact hdecorator
      · exact Or.inl rfl
    · exact ih anchor c (tree :: after)

theorem decorated_cases (f : Focus) : f.decorated = f ∨ f.decorated.kind = "decorator" := by
  obtain ⟨t, above⟩ := f
  cases above with
  | nil => exact Or.inl rfl
  | cons fr above => exact firstDecorator_cases fr.parent above ⟨t, fr :: above⟩ t fr.after fr.before

theorem undecorated?_decorated (h : f.tree.endsDecorators = true) :
    f.decorated.undecorated? = some f := by
  obtain ⟨t, above⟩ := f
  cases above with
  | nil => rfl
  | cons fr above =>
    have hhere : ((split fr.parent above fr.before (t :: fr.after)).find? fun c =>
        c.tree.endsDecorators) = some ⟨t, fr :: above⟩ := List.find?_cons_of_pos h
    exact undecorated?_firstDecorator hhere hhere

/-- A method is found again behind its decorators. -/
theorem owner?_decorated (hroot : f.top.Conventional) (hkind : f.kind = "method_definition") :
    f.decorated.owner? = some f := by
  have hends : f.tree.endsDecorators = true := by
    have hne : f.kind ≠ "decorator" := by rw [hkind]; decide
    rw [Tree.endsDecorators, hroot.named f.tree (mem_preorder_top f.tree.self_mem_preorder)
      (Or.inr hkind)]
    exact bne_iff_ne.mpr hne
  have hanchor : f.decorated.kind = "decorator" ∨ f.decorated.kind = "method_definition" :=
    (decorated_cases f).symm.imp_right fun heq => by rw [heq, hkind]
  have hne : f.decorated.kind ≠ "export_statement" := by
    rcases hanchor with h | h <;> rw [h] <;> decide
  rw [owner?, if_neg hne, if_pos hanchor, undecorated?_decorated hends]

end Focus

end Script

namespace Construct

variable {f g : Focus} {c d : Construct}

/-- An anchor stands for the construct at whose place it was found. -/
theorem owner?_anchor (hroot : f.top.Conventional) (h : at? f = some c) :
    c.anchor.owner? = some f := by
  obtain ⟨-, ⟨hkind, hanchor⟩ | ⟨hkind, hanchor⟩ | ⟨hkind, hanchor⟩⟩ := at?_cases h
  · have hmem : f.kind ∈ declarationKinds := by
      rcases hkind with h | h <;> rw [h] <;> decide
    have hself : f.declared? = some f := by
      rw [Focus.declared?, if_neg]
      rcases hkind with h | h <;> rw [h] <;> decide
    rw [hanchor, Focus.owner?_exported hroot hmem, hself]
  · rw [hanchor, Focus.owner?_declarationAnchor hroot hkind]
  · rw [hanchor, Focus.owner?_decorated hroot hkind]

/-- Constructs at different places have different anchors. -/
theorem address_anchor_ne {root : Tree} (hroot : root.Conventional) (hf : f.top = root)
    (hg : g.top = root) (hc : at? f = some c) (hd : at? g = some d)
    (hne : f.address ≠ g.address) : c.anchor.address ≠ d.anchor.address := by
  subst hf
  intro haddress
  have htop : c.anchor.top = d.anchor.top := by
    rw [top_anchor_of_at? hc, top_anchor_of_at? hd, hg]
  have howner := owner?_anchor hroot hc
  rw [Focus.eq_of_address_eq htop haddress, owner?_anchor (by rwa [hg]) hd] at howner
  exact hne (congrArg Focus.address (Option.some.inj howner).symm)

/-- The constructs of a tree have anchors of their own, one by one. -/
theorem pairwise_address_anchor_ne {root : Tree} (hroot : root.Conventional) :
    (all root).Pairwise fun c d => c.anchor.address ≠ d.anchor.address := by
  have hvisit : (Focus.visit root).Pairwise fun f g =>
      ∀ c ∈ at? f, ∀ d ∈ at? g, c.anchor.address ≠ d.anchor.address := by
    refine (Focus.pairwise_address_ne_visit root).imp_of_mem ?_
    intro f g hf hg hne c hc d hd
    exact address_anchor_ne hroot (Focus.mem_visit_iff.mp hf) (Focus.mem_visit_iff.mp hg) hc hd hne
  exact hvisit.filterMap at? fun f g h => h

/-! ## Anchors that begin at different places -/

/-- Every anchor covers some text, and begins in front of all anchors below it. -/
structure Staggered (root : Tree) : Prop where
  nonempty : ∀ c ∈ all root, c.anchor.label.start.offset < c.anchor.label.stop
  below : ∀ c ∈ all root, ∀ d ∈ all root, c.anchor.Encloses d.anchor →
    c.anchor.label.start.offset < d.anchor.label.start.offset

instance (root : Tree) : Decidable (Staggered root) :=
  decidable_of_iff ((∀ c ∈ all root, c.anchor.label.start.offset < c.anchor.label.stop)
    ∧ ∀ c ∈ all root, ∀ d ∈ all root, c.anchor.Encloses d.anchor →
      c.anchor.label.start.offset < d.anchor.label.start.offset)
    ⟨fun h => ⟨h.1, h.2⟩, fun h => ⟨h.nonempty, h.below⟩⟩

theorem top_anchor {root : Tree} (h : c ∈ all root) : c.anchor.top = root := by
  obtain ⟨f, hf, hc⟩ := List.mem_filterMap.mp h
  rw [top_anchor_of_at? hc, Focus.top_of_mem_visit hf]

/-- Where anchors are staggered, no two of them begin at one place. -/
theorem Staggered.start_ne {root : Tree} (h : Staggered root) (hnested : root.Nested)
    (hc : c ∈ all root) (hd : d ∈ all root) (hne : c.anchor.address ≠ d.anchor.address) :
    c.anchor.label.start.offset ≠ d.anchor.label.start.offset := by
  have hordered {c d : Construct} (hc : c ∈ all root) (hd : d ∈ all root)
      (hcd : c.anchor.Encloses d.anchor ∨ c.anchor.label.Before d.anchor.label) :
      c.anchor.label.start.offset < d.anchor.label.start.offset := by
    rcases hcd with hbelow | hbefore
    · exact h.below c hc d hd hbelow
    · exact Nat.lt_of_lt_of_le (h.nonempty c hc) hbefore
  rcases Focus.encloses_or_before hnested (top_anchor hc) (top_anchor hd) hne with hcd | hdc
  · exact Nat.ne_of_lt (hordered hc hd hcd)
  · exact Nat.ne_of_gt (hordered hd hc hdc)

/-- In front of the second of two bounds there are more characters. -/
theorem index?_lt {text : Text} {m n i j : Nat} (hm : Utf8.IsBound text m)
    (hn : Utf8.IsBound text n) (hi : index? text m = some i) (hj : index? text n = some j)
    (h : m < n) : i < j := by
  obtain ⟨a, x, b, rfl, rfl, rfl⟩ := Utf8.exists_split_of_isBound (Nat.le_of_lt h) hm hn
  rw [index?_bound, Option.some_inj] at hj
  rw [List.append_assoc, index?_bound, Option.some_inj] at hi
  have hx : x ≠ [] := by
    rintro rfl
    rw [List.append_nil] at h
    exact Nat.lt_irrefl _ h
  have := List.length_pos_of_ne_nil hx
  rw [← hi, ← hj, List.length_append]
  omega

/-- Spans of anchors that begin at different places do so too. -/
theorem start_ne_of_span? {text : Text} {s t : Span} (hs : span? text c = some s)
    (ht : span? text d = some t) (hc : Fits text c.anchor.label) (hd : Fits text d.anchor.label)
    (h : c.anchor.label.start.offset ≠ d.anchor.label.start.offset) : s.start ≠ t.start := by
  obtain ⟨i, -, hi, -, hsi, -⟩ := span?_cases hs
  obtain ⟨j, -, hj, -, htj, -⟩ := span?_cases ht
  rcases Nat.lt_or_gt_of_ne h with hlt | hgt
  · have := index?_lt hc.start hd.start hi hj hlt
    omega
  · have := index?_lt hd.start hc.start hj hi hgt
    omega

end Construct

namespace Extraction

open Construct

variable {read : Language → Reading} {text : Text} {l : Language} {root : Tree}

/-- The spans of a tree with staggered anchors start at one place behind the other. -/
theorem ofTree_strictly_ascending {spans : List Span} (h : ofTree text root = some spans)
    (hroot : root.Conventional) (hnested : root.Nested)
    (hnodes : ∀ t ∈ root.preorder, Fits text t.label) (hstaggered : Staggered root) :
    spans.Pairwise fun s t => s.start < t.start := by
  have hordered := ofTree_ascending h
  obtain ⟨found, hfound, rfl⟩ := Option.map_eq_some_iff.mp h
  have hne : found.Pairwise fun s t => s.start ≠ t.start := by
    have hfound' : (found.map some).Pairwise fun a b => ∀ s ∈ a, ∀ t ∈ b, s.start ≠ t.start := by
      rw [map_some_of_mapM hfound, List.pairwise_map]
      refine (pairwise_address_anchor_ne hroot).imp_of_mem ?_
      intro c d hc hd hne s hs t ht
      exact start_ne_of_span? hs ht (hnodes _ (mem_preorder_of_mem_all hc).2)
        (hnodes _ (mem_preorder_of_mem_all hd).2) (hstaggered.start_ne hnested hc hd hne)
    exact (List.pairwise_map.mp hfound').imp fun h => h _ rfl _ rfl
  have hsorted : (Sorting.sort (fun s t => decide (s.start ≤ t.start)) found).Pairwise
      fun s t => s.start ≠ t.start :=
    ((Sorting.sort_perm _ found).pairwise_iff fun h => Ne.symm h).mpr hne
  exact (hordered.and hsorted).imp fun h => by omega

/-- In a nested tree of whole characters, constructs at different places have different anchors. If
the anchors are staggered as well, the spans start strictly one behind the other, and no two blocks
are ever put in at one place. -/
theorem run_apart (path : Text) (hread : (choose read l).2.1 = .tree root false)
    (hnested : root.Nested) (hnodes : ∀ t ∈ root.preorder, Fits text t.label)
    (hroot : root.Conventional) :
    (∀ f ∈ Focus.visit root, ∀ g ∈ Focus.visit root, f.address ≠ g.address →
        ∀ c d, at? f = some c → at? g = some d → c.anchor.address ≠ d.anchor.address)
      ∧ (Staggered root → ∃ spans, (run read text path l).result = .ok spans
        ∧ spans.Pairwise (fun s t => s.start < t.start)
        ∧ ∀ fileComment placements, placements.map Placement.span = spans →
          ∃ w : Weave Char, Splice.splice text fileComment placements = .ok w.woven
            ∧ w.plain = text
            ∧ w.inserted = (fileComment ++ Splice.fileSeparator)
              :: placements.map (fun p => p.block ++ Splice.blockSeparator)
            ∧ w.cuts = 0 :: placements.map (fun p => p.span.start.toNat)
            ∧ w.cuts.tail.Pairwise (· < ·)) := by
  constructor
  · intro f hf g hg hne c d hc hd
    exact address_anchor_ne hroot (Focus.top_of_mem_visit hf) (Focus.top_of_mem_visit hg) hc hd hne
  intro hstaggered
  have hcovered : ∀ c ∈ all root, ∃ s, span? text c = some s
      ∧ ∃ start stop, Covers text c.anchor.label s start stop := by
    intro c hc
    obtain ⟨hname, hanchor⟩ := mem_preorder_of_mem_all hc
    obtain ⟨s, start, stop, hs, hcovers⟩ := span?_of_fits (hnodes _ hname) (hnodes _ hanchor)
    exact ⟨s, hs, start, stop, hcovers⟩
  obtain ⟨spans, hspans, hall⟩ := exists_ofTree fun c hc => (hcovered c hc).imp fun s hs => hs.1
  have hstrict := ofTree_strictly_ascending hspans hroot hnested hnodes hstaggered
  have hin : ∀ s ∈ spans, 0 ≤ s.start ∧ s.start ≤ text.length := by
    intro s hs
    obtain ⟨c, hc, hcs⟩ := hall s hs
    obtain ⟨s', hs', start, stop, hcovers⟩ := hcovered c hc
    obtain rfl : s' = s := Option.some_inj.mp (hs'.symm.trans hcs)
    have hle := Nat.le_trans hcovers.le hcovers.stop_le
    rw [hcovers.start_eq]
    omega
  refine ⟨spans, run_eq_of_ofTree path hread hspans, hstrict, ?_⟩
  rintro fileComment placements rfl
  rw [List.pairwise_map] at hstrict
  exact Splice.exists_weave_of_strictly_ascending fileComment
    (fun p hp => hin p.span (List.mem_map_of_mem hp)) hstrict

/-- Two declarators of one exported declaration, and two methods with decorators in front. -/
def crowded : Text := "export let a = () => 1, b = () => 2; class K { @d @e m() {} @g n() {} }".toList

/-- The four anchors are two declarators and two decorators, and all spans start at places of their
own. -/
theorem run_apart_crowded :
    ∃ root, (choose (Reading.ofText crowded) .typeScript).2.1 = .tree root false ∧ root.Nested
      ∧ (∀ t ∈ root.preorder, Fits crowded t.label) ∧ root.Conventional ∧ Staggered root
      ∧ (all root).map (fun c => c.anchor.kind)
        = ["variable_declarator", "variable_declarator", "decorator", "decorator"]
      ∧ (∀ f ∈ Focus.visit root, ∀ g ∈ Focus.visit root, f.address ≠ g.address →
        ∀ c d, at? f = some c → at? g = some d → c.anchor.address ≠ d.anchor.address)
      ∧ ∃ spans, (ofText crowded [] .typeScript).result = .ok spans
        ∧ spans.Pairwise (fun s t => s.start < t.start) := by
  have htree : (Language.typeScript.tree? crowded).any (fun root => decide (root.Nested
      ∧ (∀ t ∈ root.preorder, Fits crowded t.label) ∧ root.Conventional ∧ Staggered root
      ∧ (all root).map (fun c => c.anchor.kind)
        = ["variable_declarator", "variable_declarator", "decorator", "decorator"])) = true := by
    decide +kernel
  cases hroot : Language.typeScript.tree? crowded with
  | none => simp [hroot] at htree
  | some root =>
    have hread : (choose (Reading.ofText crowded) .typeScript).2.1 = .tree root false := by
      simp [choose, Reading.ofText, hroot, Reading.isFaulty]
    rw [hroot, Option.any_some, decide_eq_true_eq] at htree
    obtain ⟨hnested, hnodes, hconventional, hstaggered, hanchors⟩ := htree
    obtain ⟨hapart, hspans⟩ := run_apart [] hread hnested hnodes hconventional
    obtain ⟨spans, hresult, hstrict, -⟩ := hspans hstaggered
    exact ⟨root, hread, hnested, hnodes, hconventional, hstaggered, hanchors, hapart, spans,
      hresult, hstrict⟩

end Extraction

end DocWeave
