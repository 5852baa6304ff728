import DocWeave.Sorting
import Mathlib.Data.List.Sort

/-!
# Sorting keeps what is level in order

* `sort_eq_insertionSort` — sorting is the library's `List.insertionSort`, from which it has that
  nothing is dropped or added, and that the result is in order
* `stablySorted_sort` — sorted by a number, the elements of a list are in the order of their
  numbers, and those of one number are in the order that they had in the list
* `StablySorted.unique` — there is but one such list, for the elements of every number are known
  with their order
* `sort_eq_of_filter_eq` — so lists that have the same elements of every number, in the same order,
  are sorted alike
-/

namespace DocWeave.Sorting

variable {α : Type}

/-! ## Sorting by insertion -/

section

variable (le : α → α → Bool)

theorem insert_eq_orderedInsert (a : α) (l : List α) :
    insert le a l = l.orderedInsert (fun a b => le a b = true) a := by
  induction l with
  | nil => rfl
  | cons b l ih => rw [insert, List.orderedInsert_cons, ih]

theorem sort_eq_insertionSort (l : List α) :
    sort le l = l.insertionSort fun a b => le a b = true := by
  induction l with
  | nil => rfl
  | cons a l ih => rw [sort, List.insertionSort_cons, ih, insert_eq_orderedInsert]

theorem sort_perm (l : List α) : (sort le l).Perm l := by
  rw [sort_eq_insertionSort]
  exact List.perm_insertionSort _ l

theorem mem_sort {a : α} {l : List α} : a ∈ sort le l ↔ a ∈ l := (sort_perm le l).mem_iff

theorem pairwise_sort (total : ∀ a b, le a b ∨ le b a) (trans : ∀ a b c, le a b → le b c → le a c)
    (l : List α) : (sort le l).Pairwise fun a b => le a b := by
  have : Std.Total fun a b => le a b = true := ⟨total⟩
  have : IsTrans α fun a b => le a b = true := ⟨trans⟩
  rw [sort_eq_insertionSort]
  exact List.pairwise_insertionSort _ l

theorem sort_eq_self {l : List α} (h : l.Pairwise fun a b => le a b) : sort le l = l := by
  rw [sort_eq_insertionSort]
  exact h.insertionSort_eq

end

/-- Sorted by a number, elements are in the order of their numbers. -/
theorem pairwise_sort_key (key : α → Int) (l : List α) :
    (sort (fun a b => key a ≤ key b) l).Pairwise fun a b => key a ≤ key b := by
  have h := pairwise_sort (fun a b => decide (key a ≤ key b))
    (fun a b => by simpa using Int.le_total (key a) (key b))
    (fun a b c hab hbc => by
      simp only [decide_eq_true_eq] at hab hbc ⊢
      exact Int.le_trans hab hbc) l
  exact h.imp fun hab => by simpa using hab

/-! ## What is level -/

/-- The elements of `l` in the order of their numbers, and where these are the same in the order
that they have in `l`. -/
structure StablySorted (key : α → Int) (l sorted : List α) : Prop where
  perm : sorted.Perm l
  ordered : sorted.Pairwise fun a b => key a ≤ key b
  level : ∀ k, sorted.filter (fun a => key a = k) = l.filter fun a => key a = k

/-- An element is put in behind others only if its number is not theirs. -/
theorem filter_insert (key : α → Int) (k : Int) (a : α) (l : List α) :
    (insert (fun a b => key a ≤ key b) a l).filter (fun a => key a = k)
      = (a :: l).filter fun a => key a = k := by
  fun_induction insert (fun a b => decide (key a ≤ key b)) a l with
  | case1 => rfl
  | case2 => rfl
  | case3 b l hab ih =>
    have hlt : key b < key a := by simpa using hab
    rw [List.filter_cons, ih]
    by_cases ha : key a = k
    · have hb : key b ≠ k := by omega
      simp [ha, hb]
    · simp [List.filter_cons, ha]

theorem stablySorted_sort (key : α → Int) (l : List α) :
    StablySorted key l (sort (fun a b => key a ≤ key b) l) where
  perm := sort_perm _ l
  ordered := pairwise_sort_key key l
  level := by
    intro k
    induction l with
    | nil => rfl
    | cons a l ih => rw [sort, filter_insert, List.filter_cons, ih, List.filter_cons]

/-! ## There is but one such list -/

theorem mem_iff_of_filter_eq {key : α → Int} {l m : List α}
    (h : ∀ k, l.filter (fun a => key a = k) = m.filter fun a => key a = k) (a : α) :
    a ∈ l ↔ a ∈ m := by
  have hmem (n : List α) : a ∈ n ↔ a ∈ n.filter fun b => key b = key a := by simp
  rw [hmem l, hmem m, h]

/-- What is in order is known from the elements of every number. -/
theorem eq_of_filter_eq {key : α → Int} {l m : List α}
    (hl : l.Pairwise fun a b => key a ≤ key b) (hm : m.Pairwise fun a b => key a ≤ key b)
    (h : ∀ k, l.filter (fun a => key a = k) = m.filter fun a => key a = k) : l = m := by
  induction l generalizing m with
  | nil =>
    cases m with
    | nil => rfl
    | cons b m => exact absurd ((mem_iff_of_filter_eq h b).mpr List.mem_cons_self) (by simp)
  | cons a l ih =>
    cases m with
    | nil => exact absurd ((mem_iff_of_filter_eq h a).mp List.mem_cons_self) (by simp)
    | cons b m =>
      -- each of the two heads stands in the other list, so neither number is below the other
      have hkey : key a = key b := by
        have hb : b ∈ a :: l := (mem_iff_of_filter_eq h b).mpr List.mem_cons_self
        have ha : a ∈ b :: m := (mem_iff_of_filter_eq h a).mp List.mem_cons_self
        have hab : key a ≤ key b := by
          rcases List.mem_cons.mp hb with rfl | hb
          · exact Int.le_refl _
          · exact List.rel_of_pairwise_cons hl hb
        have hba : key b ≤ key a := by
          rcases List.mem_cons.mp ha with rfl | ha
          · exact Int.le_refl _
          · exact List.rel_of_pairwise_cons hm ha
        exact Int.le_antisymm hab hba
      have hhead := h (key a)
      rw [List.filter_cons_of_pos (by simp), List.filter_cons_of_pos (by simp [hkey])] at hhead
      obtain ⟨rfl, -⟩ := List.cons.inj hhead
      have htail : ∀ k, l.filter (fun c => key c = k) = m.filter fun c => key c = k := by
        intro k
        have hk := h k
        by_cases hak : key a = k
        · simpa [hak] using hk
        · simpa [hak] using hk
      rw [ih hl.of_cons hm.of_cons htail]

theorem StablySorted.unique {key : α → Int} {l s t : List α} (hs : StablySorted key l s)
    (ht : StablySorted key l t) : s = t :=
  eq_of_filter_eq hs.ordered ht.ordered fun k => (hs.level k).trans (ht.level k).symm

theorem sort_eq_of_filter_eq {key : α → Int} {l m : List α}
    (h : ∀ k, l.filter (fun a => key a = k) = m.filter fun a => key a = k) :
    sort (fun a b => key a ≤ key b) l = sort (fun a b => key a ≤ key b) m := by
  refine eq_of_filter_eq (pairwise_sort_key key l) (pairwise_sort_key key m) ?_
  intro k
  rw [(stablySorted_sort key l).level k, h k, (stablySorted_sort key m).level k]

/-- Where no number stands twice, any two orders have the same elements of every number. -/
theorem filter_eq_of_perm {key : α → Int} {l m : List α} (hp : l.Perm m)
    (hn : (l.map key).Nodup) (k : Int) :
    l.filter (fun a => key a = k) = m.filter fun a => key a = k := by
  have halone {n : List α} (h : (n.map key).Nodup) :
      (n.filter fun a => key a = k).Pairwise fun _ _ => False := by
    have hpair : (n.filter fun a => key a = k).Pairwise fun a b => key a ≠ key b :=
      (List.pairwise_map.mp h).filter _
    refine hpair.imp_of_mem ?_
    intro a b ha hb hab
    have hak : key a = k := by simpa using (List.mem_filter.mp ha).2
    have hbk : key b = k := by simpa using (List.mem_filter.mp hb).2
    exact hab (hak.trans hbk.symm)
  exact (hp.filter _).eq_of_pairwise (fun _ _ _ _ h => h.elim) (halone hn)
    (halone ((hp.map key).nodup_iff.mp hn))

end DocWeave.Sorting
