import DocWeave.Text.Utf8

/-!
# Lines

Where lines end, and texts in which all lines end alike.
-/

namespace DocWeave.Lines

/-- The characters that end a line. -/
def isBreak (c : Char) : Bool :=
  ('\n' ≤ c && c ≤ '\r') || ('\x1c' ≤ c && c ≤ '\x1e') || c == '\x85' || c == '\u2028'
    || c == '\u2029'

/-- The text up to the end of its first line. -/
def first (t : Text) : Text := t.takeWhile fun c => !isBreak c

/-- A carriage return, alone or in front of a line feed, becomes a line feed. -/
def unify : Text → Text
  | [] => []
  | '\r' :: '\n' :: rest => '\n' :: unify rest
  | c :: rest => (if c = '\r' then '\n' else c) :: unify rest

theorem unify_eq_self {t : Text} (h : '\r' ∉ t) : unify t = t := by
  fun_induction unify t with
  | case1 => rfl
  | case2 => simp at h
  | case3 c rest _ ih =>
    have hc : c ≠ '\r' := fun e => h (e ▸ List.mem_cons_self)
    rw [if_neg hc, ih fun hm => h (List.mem_cons_of_mem _ hm)]

theorem not_mem_unify (t : Text) : '\r' ∉ unify t := by
  fun_induction unify t with
  | case1 => simp
  | case2 rest ih => simpa using ih
  | case3 c rest _ ih =>
    by_cases h : c = '\r' <;> simp [h, ih]
    exact fun e => h e.symm

/-- Texts joined by a line feed. -/
def join (lines : List Text) : Text := ['\n'].intercalate lines

end DocWeave.Lines
