import DocWeave.Text.Utf8

/-!
# Order

Texts are in the order of their code points, and a text stands in front of those that go on from it.
Any two texts can be compared (`Order.le_total`), and what is in order step by step is in order as a
whole (`Order.le_trans`).

Sorting is by insertion. Elements that may stand either way keep their order, and a list that is
nearly in order costs little: the constructs of a script are met nearly in the order of their places.
-/

namespace DocWeave.Order

def le : Text → Text → Bool
  | [], _ => true
  | _ :: _, [] => false
  | a :: s, b :: t => a < b || (a == b && le s t)

theorem le_cons_cons {a b : Char} {s t : Text} :
    le (a :: s) (b :: t) = true ↔ a < b ∨ (a = b ∧ le s t = true) := by simp [le]

theorem le_total (s t : Text) : le s t = true ∨ le t s = true := by
  induction s generalizing t with
  | nil => exact .inl rfl
  | cons a s ih =>
    cases t with
    | nil => exact .inr rfl
    | cons b t =>
      rw [le_cons_cons, le_cons_cons]
      by_cases h : a = b
      · subst h
        exact (ih t).imp (fun h => .inr ⟨rfl, h⟩) fun h => .inr ⟨rfl, h⟩
      · by_cases hab : a < b
        · exact .inl (.inl hab)
        · refine .inr (.inl (Decidable.byContradiction fun hba => h ?_))
          exact Char.le_antisymm (Char.not_lt.1 hba) (Char.not_lt.1 hab)

theorem le_trans {s t u : Text} (hst : le s t = true) (htu : le t u = true) : le s u = true := by
  induction s generalizing t u with
  | nil => rfl
  | cons a s ih =>
    cases t with
    | nil => simp [le] at hst
    | cons b t =>
      cases u with
      | nil => simp [le] at htu
      | cons c u =>
        rw [le_cons_cons] at hst htu ⊢
        rcases hst with hab | ⟨rfl, hst⟩
        · rcases htu with hbc | ⟨rfl, _⟩
          · exact .inl (Char.lt_trans hab hbc)
          · exact .inl hab
        · exact htu.imp_right fun ⟨hac, htu⟩ => ⟨hac, ih hst htu⟩

end DocWeave.Order

namespace DocWeave.Sorting

variable {α : Type} (le : α → α → Bool)

/-- Puts an element in front of the first one that may stand behind it. -/
def insert (a : α) : List α → List α
  | [] => [a]
  | b :: l => if le a b then a :: b :: l else b :: insert a l

/-- The elements in order. -/
def sort : List α → List α
  | [] => []
  | a :: l => insert le a (sort l)

end DocWeave.Sorting
