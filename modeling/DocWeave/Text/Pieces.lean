import DocWeave.Text.Utf8

/-!
# Texts in pieces

A text is split at a separator and joined with it again; one undoes the other.
-/

namespace DocWeave.Pieces

/-- The pieces between separators; there is one piece at least. -/
def split (separator : Char) : Text → List Text
  | [] => [[]]
  | c :: rest =>
    if c = separator then [] :: split separator rest
    else match split separator rest with
      | piece :: pieces => (c :: piece) :: pieces
      | [] => [[c]]

def join (separator : Char) (pieces : List Text) : Text := [separator].intercalate pieces

theorem split_ne_nil (separator : Char) (t : Text) : split separator t ≠ [] := by
  cases t with
  | nil => simp [split]
  | cons c rest =>
    rw [split]
    split
    · simp
    · split <;> simp

theorem join_split (separator : Char) (t : Text) : join separator (split separator t) = t := by
  induction t with
  | nil => simp [split, join]
  | cons c rest ih =>
    rw [split]
    cases h : split separator rest with
    | nil => exact absurd h (split_ne_nil separator rest)
    | cons piece pieces =>
      rw [h] at ih
      by_cases hc : c = separator
      · subst hc
        rw [if_pos rfl, ← ih]
        simp [join, List.intercalate]
      · rw [if_neg hc, ← ih]
        cases pieces <;> simp [join, List.intercalate]

end DocWeave.Pieces
