import DocWeave.Comment.Acceptance

/-!
# Where a comment ends

Whoever reads a script goes over a block comment by its marks alone: a slash and a star are skipped,
and the comment ends behind the first star and slash that follow. What stands behind it is code.

* `accept_isWhole` — an accepted answer ends where the reader of a script takes it to end, whatever
  code stands behind it

The closing mark is looked for behind the second character of a block, by the program as by the
reader, so that the last star of the opening may be the first character of the closing mark.
-/

namespace DocWeave.Comment

/-! ## Going over a comment -/

/-- The text behind the first closing mark. -/
def behindClosing : Text → Option Text
  | [] => none
  | '*' :: '/' :: rest => some rest
  | _ :: rest => behindClosing rest

/-- The code behind the block comment with which a text begins. -/
def skip? : Text → Option Text
  | '/' :: '*' :: rest => behindClosing rest
  | _ => none

/-- One block comment from its first character to its last. -/
structure IsWhole (block : Text) : Prop where
  opens : opening <+: block
  ends : ∀ code, skip? (block ++ code) = some code

/-! ## The first closing mark -/

theorem behindClosing_closing (rest : Text) : behindClosing (closing ++ rest) = some rest := rfl

theorem behindClosing_cons {c : Char} {rest : Text} (h : ¬ closing <+: c :: rest) :
    behindClosing (c :: rest) = behindClosing rest := by
  rw [behindClosing]
  rintro tail rfl rfl
  exact h ⟨tail, rfl⟩

theorem closing_isPrefixOf_iff (t : Text) : closing.isPrefixOf t = true ↔ closing <+: t :=
  List.isPrefixOf_iff_prefix

/-- A mark that begins in a text and not with it is not brought about by what is put behind it. -/
theorem not_closing_append {c : Char} {rest code : Text} {i : Nat}
    (h : ¬ closing <+: c :: rest) (hi : closingIndex? rest = some i) :
    ¬ closing <+: (c :: rest) ++ code := by
  intro hp
  refine h ?_
  -- a mark is two characters long, and `rest` has one at least
  cases rest with
  | nil => simp [closingIndex?] at hi
  | cons d rest =>
    obtain ⟨tail, ht⟩ := hp
    simp only [closing, List.cons_append, List.nil_append, List.cons.injEq] at ht
    obtain ⟨hc, hd, -⟩ := ht
    exact ⟨rest, by rw [← hc, ← hd]; rfl⟩

/-- What is put behind a text does not change where its first closing mark is. -/
theorem behindClosing_append {t : Text} {i : Nat} (h : closingIndex? t = some i) (code : Text) :
    behindClosing (t ++ code) = some (t.drop (i + closing.length) ++ code) := by
  induction t generalizing i with
  | nil => simp [closingIndex?] at h
  | cons c rest ih =>
    rw [closingIndex?] at h
    split at h
    · next hc =>
      obtain ⟨tail, ht⟩ := (closing_isPrefixOf_iff _).mp hc
      cases h
      rw [← ht, List.append_assoc, behindClosing_closing, Nat.zero_add, List.drop_left]
    · next hc =>
      obtain ⟨j, hj, rfl⟩ := Option.map_eq_some_iff.mp h
      have hc' : ¬ closing <+: c :: rest := fun hp => hc ((closing_isPrefixOf_iff _).mpr hp)
      have hstep : behindClosing (c :: (rest ++ code)) = behindClosing (rest ++ code) :=
        behindClosing_cons (not_closing_append hc' hj)
      rw [List.cons_append, hstep, ih hj, Nat.add_right_comm, List.drop_succ_cons]

/-! ## Accepted answers -/

/-- Each of the marks is added where it is missing, and nowhere else. -/
theorem exists_enclose (core : Text) : ∃ front back, enclose core = front ++ core ++ back
    ∧ (opening <+: core ∧ front = [] ∨ ¬ opening <+: core ∧ front = opening ++ ['\n'])
    ∧ (closing <:+ front ++ core ∧ back = []
      ∨ ¬ closing <:+ front ++ core ∧ back = ['\n', ' '] ++ closing) := by
  obtain ⟨front, hopened, hfront⟩ : ∃ front,
      (if opens core then core else opening ++ '\n' :: core) = front ++ core
        ∧ (opening <+: core ∧ front = [] ∨ ¬ opening <+: core ∧ front = opening ++ ['\n']) := by
    split
    · next h => exact ⟨[], rfl, Or.inl ⟨List.isPrefixOf_iff_prefix.mp h, rfl⟩⟩
    · next h =>
      exact ⟨opening ++ ['\n'], by simp, Or.inr ⟨mt List.isPrefixOf_iff_prefix.mpr h, rfl⟩⟩
  unfold enclose
  rw [hopened]
  simp only
  split
  · next h =>
    exact ⟨front, [], (List.append_nil _).symm, hfront,
      Or.inl ⟨List.isSuffixOf_iff_suffix.mp h, rfl⟩⟩
  · next h =>
    exact ⟨front, _, rfl, hfront, Or.inr ⟨mt List.isSuffixOf_iff_suffix.mpr h, rfl⟩⟩

/-- Every cleaned answer opens as a block. -/
theorem opening_prefix_enclose (core : Text) : opening <+: enclose core := by
  obtain ⟨front, back, heq, hfront, -⟩ := exists_enclose core
  rw [heq, List.append_assoc]
  rcases hfront with ⟨hopening, rfl⟩ | ⟨-, rfl⟩
  · exact hopening.trans (List.prefix_append _ _)
  · rw [List.append_assoc]
    exact List.prefix_append _ _

theorem closesAtEnd_iff {block : Text} :
    closesAtEnd block = true ↔
      ∃ i, closingIndex? (block.drop 2) = some i ∧ i + 2 + closing.length = block.length := by
  unfold closesAtEnd
  simp [Option.map_eq_some_iff]

theorem isWhole_of_closesAtEnd {block : Text} (ho : opening <+: block)
    (hc : closesAtEnd block = true) : IsWhole block := by
  refine ⟨ho, ?_⟩
  intro code
  obtain ⟨i, hi, hlen⟩ := closesAtEnd_iff.mp hc
  obtain ⟨rest, rfl⟩ := ho
  have hskip : skip? ((opening ++ rest) ++ code)
      = behindClosing ((opening ++ rest).drop 2 ++ code) := rfl
  rw [hskip, behindClosing_append hi, List.drop_drop, List.drop_eq_nil_of_le (by omega),
    List.nil_append]

theorem accept_eq_ok {answer block : Text} (h : accept answer = .ok block) :
    block = clean answer ∧ closesAtEnd block = true := by
  unfold accept at h
  split at h
  · cases h
  · simp only at h
    split at h
    · cases h
    · split at h
      · cases h
      · next hc =>
        cases h
        exact ⟨rfl, by simpa using hc⟩

/-- An accepted answer is one comment, and code behind it stays code. -/
theorem accept_isWhole {answer block : Text} (h : accept answer = .ok block) : IsWhole block := by
  obtain ⟨rfl, hc⟩ := accept_eq_ok h
  exact isWhole_of_closesAtEnd (opening_prefix_enclose _) hc

end DocWeave.Comment
