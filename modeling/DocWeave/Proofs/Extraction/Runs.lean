import DocWeave.Extraction
import DocWeave.Proofs.Results
import DocWeave.Proofs.Sorting

/-!
# What comes of looking for spans

* `run_ok_cases`, `run_eq_of_ofTree` — there are spans exactly if the reading that counts is a tree
  without faults whose constructs all have spans
* `ofTree_ascending` — spans are in the order of their starts
-/

namespace DocWeave.Extraction

open Script

variable {read : Language → Reading} {text path : Text} {l : Language} {root : Tree}
  {spans : List Span}

theorem run_ok_cases (h : (run read text path l).result = .ok spans) :
    ∃ root, (choose read l).2.1 = .tree root false ∧ ofTree text root = some spans := by
  unfold run at h
  simp only at h
  split at h
  · next root hchoose =>
    split at h
    · next found hfound =>
      cases h
      exact ⟨root, hchoose, hfound⟩
    · cases h
  · split at h <;> cases h

theorem run_eq_of_ofTree (path : Text) (hread : (choose read l).2.1 = .tree root false)
    (h : ofTree text root = some spans) : (run read text path l).result = .ok spans := by
  unfold run
  simp only [hread, h]

/-- The spans of a tree are in the order of their starts. -/
theorem ofTree_ascending (h : ofTree text root = some spans) :
    spans.Pairwise fun a b => a.start ≤ b.start := by
  unfold ofTree at h
  obtain ⟨found, -, rfl⟩ := Option.map_eq_some_iff.mp h
  exact Sorting.pairwise_sort_key Span.start found

/-- A tree has spans if all its constructs have one, and every span is that of a construct. -/
theorem exists_ofTree (h : ∀ c ∈ Construct.all root, ∃ s, Construct.span? text c = some s) :
    ∃ spans, ofTree text root = some spans
      ∧ ∀ s ∈ spans, ∃ c ∈ Construct.all root, Construct.span? text c = some s := by
  obtain ⟨found, hfound, hall⟩ := exists_mapM_eq_some h
  refine ⟨Sorting.sort (fun a b => decide (a.start ≤ b.start)) found, ?_, ?_⟩
  · rw [ofTree, hfound]
    rfl
  · intro s hs
    exact hall s ((Sorting.mem_sort _).mp hs)

end DocWeave.Extraction
