import DocWeave.Proofs.Extraction.Offsets
import DocWeave.Proofs.Script.Nesting

/-!
# Spans nest

Anchors are nodes of the tree, wherever they have been moved to: an export, a declaration or a
decorator is as much a node as the one from which it was found. So spans lie to each other as nodes
of a nested tree do, because counting characters instead of bytes keeps the order of places.

* `contains_of_within`, `stop_le_start_of_before` — spans lie to each other as their anchors do
* `run_nested` — no two spans of a nested tree overlap in part
-/

namespace DocWeave

open Script

namespace Construct

variable {text : Text} {c d : Construct} {s t : Span}

theorem index?_mono {m n i j : Nat} (hi : index? text m = some i) (hj : index? text n = some j)
    (h : m ≤ n) : i ≤ j := by
  unfold index? at hi hj
  split at hi
  · next hascii =>
    rw [if_pos hascii] at hj
    cases hi
    cases hj
    exact h
  · next hascii =>
    rw [if_neg hascii] at hj
    exact Utf8.index?_mono hi hj h

theorem span?_cases (h : span? text c = some s) :
    ∃ start stop, index? text c.anchor.label.start.offset = some start
      ∧ index? text c.anchor.label.stop = some stop ∧ s.start = start ∧ s.stop = stop := by
  unfold span? at h
  simp only [Option.bind_eq_bind, Option.bind_eq_some_iff, Option.some.injEq] at h
  obtain ⟨name, -, start, hstart, stop, hstop, rfl⟩ := h
  exact ⟨start, stop, hstart, hstop, rfl, rfl⟩

/-- The span of an anchor that lies in another one lies in the span of the other one. -/
theorem contains_of_within (hs : span? text c = some s) (ht : span? text d = some t)
    (h : c.anchor.label.Within d.anchor.label) : t.contains s = true := by
  obtain ⟨sstart, sstop, hsstart, hsstop, hs₁, hs₂⟩ := span?_cases hs
  obtain ⟨tstart, tstop, htstart, htstop, ht₁, ht₂⟩ := span?_cases ht
  have hstart := index?_mono htstart hsstart h.1
  have hstop := index?_mono hsstop htstop h.2
  simp only [Span.contains, Bool.and_eq_true, decide_eq_true_eq]
  omega

/-- The span of an anchor that ends before another one begins does so too. -/
theorem stop_le_start_of_before (hs : span? text c = some s) (ht : span? text d = some t)
    (h : c.anchor.label.Before d.anchor.label) : s.stop ≤ t.start := by
  obtain ⟨-, sstop, -, hsstop, -, hs₂⟩ := span?_cases hs
  obtain ⟨tstart, -, htstart, -, ht₁, -⟩ := span?_cases ht
  have := index?_mono hsstop htstart h
  omega

end Construct

namespace Extraction

open Construct

variable {read : Language → Reading} {text : Text} {l : Language} {root : Tree}

/-- Where the tree that counts is nested and all its nodes begin and end at bounds of characters,
there are spans, and any two of them have no character in common or one contains the other. -/
theorem run_nested (path : Text) (hread : (choose read l).2.1 = .tree root false)
    (hnested : root.Nested) (hnodes : ∀ t ∈ root.preorder, Fits text t.label) :
    ∃ spans, (run read text path l).result = .ok spans
      ∧ ∀ s ∈ spans, ∀ t ∈ spans,
        s.overlaps t = false ∨ s.contains t = true ∨ t.contains s = true := by
  have hspan : ∀ c ∈ Construct.all root, ∃ s, span? text c = some s := by
    intro c hc
    obtain ⟨hname, hanchor⟩ := mem_preorder_of_mem_all hc
    obtain ⟨s, -, -, hs, -⟩ := span?_of_fits (hnodes _ hname) (hnodes _ hanchor)
    exact ⟨s, hs⟩
  obtain ⟨spans, hspans, hall⟩ := exists_ofTree hspan
  refine ⟨spans, run_eq_of_ofTree path hread hspans, ?_⟩
  intro s hs t ht
  obtain ⟨c, hc, hcs⟩ := hall s hs
  obtain ⟨d, hd, hdt⟩ := hall t ht
  have hanchors := Tree.nested_or_apart hnested (mem_preorder_of_mem_all hc).2
    (mem_preorder_of_mem_all hd).2
  rcases hanchors with h | h | h | h
  · exact Or.inr (Or.inr (contains_of_within hcs hdt h))
  · exact Or.inr (Or.inl (contains_of_within hdt hcs h))
  · have := stop_le_start_of_before hcs hdt h
    left
    simp only [Span.overlaps, Bool.and_eq_false_iff, decide_eq_false_iff_not]
    omega
  · have := stop_le_start_of_before hdt hcs h
    left
    simp only [Span.overlaps, Bool.and_eq_false_iff, decide_eq_false_iff_not]
    omega

/-- An exported function around a class whose method has a decorator in front. -/
def decorated : Text := "export function é() { class A { @d m() {} } }".toList

/-- One anchor has been moved to the export and the other one to the decorator. -/
theorem run_nested_decorated :
    ∃ root, (choose (Reading.ofText decorated) .typeScript).2.1 = .tree root false ∧ root.Nested
      ∧ (∀ t ∈ root.preorder, Fits decorated t.label)
      ∧ ∃ spans, (ofText decorated [] .typeScript).result = .ok spans ∧ spans.length = 2
        ∧ ∀ s ∈ spans, ∀ t ∈ spans,
          s.overlaps t = false ∨ s.contains t = true ∨ t.contains s = true := by
  have htree : (Language.typeScript.tree? decorated).any (fun root => decide (root.Nested
      ∧ ∀ t ∈ root.preorder, Fits decorated t.label)) = true := by
    decide +kernel
  have hfound : (ofText decorated [] .typeScript).result.toOption.map List.length = some 2 := by
    decide +kernel
  cases hroot : Language.typeScript.tree? decorated with
  | none => simp [hroot] at htree
  | some root =>
    have hread : (choose (Reading.ofText decorated) .typeScript).2.1 = .tree root false := by
      simp [choose, Reading.ofText, hroot, Reading.isFaulty]
    obtain ⟨hnested, hnodes⟩ : root.Nested ∧ ∀ t ∈ root.preorder, Fits decorated t.label := by
      simpa [hroot] using htree
    obtain ⟨spans, hspans, hall⟩ := run_nested [] hread hnested hnodes
    have hlen : spans.length = 2 := by
      unfold ofText at hfound
      rw [hspans] at hfound
      exact Option.some_inj.mp hfound
    exact ⟨root, hread, hnested, hnodes, spans, hspans, hlen, hall⟩

end Extraction

end DocWeave
