import DocWeave.Proofs.Comment.Cleaning
import DocWeave.Proofs.Comment.Closing

/-!
# Which answers are accepted

Whatever is answered, a cleaned answer is a block with nothing around it, so that no answer is
refused for its marks. What is left to decide is whether something was answered at all, and whether
the block ends with the first closing mark behind its opening.

* `isBlock_clean`, `trim_clean`, `not_mem_clean` — what cleaning gives of any answer
* `accept_exact` — the comment of an answer, and why there is none

The first closing mark is looked for from the last star of the opening on, as in `IsWhole`.
-/

namespace DocWeave.Comment

open Blank

/-! ## Cleaned answers -/

/-- Enclosing adds marks only. -/
theorem mem_enclose {c : Char} {core : Text} (h : c ∈ enclose core) :
    c ∈ core ∨ c ∈ opening ++ ['\n', ' '] ++ closing := by
  obtain ⟨front, back, heq, hfront, hback⟩ := exists_enclose core
  have hhead : opening ++ ['\n'] <+: opening ++ ['\n', ' '] ++ closing := ⟨[' '] ++ closing, rfl⟩
  rw [heq, List.mem_append, List.mem_append] at h
  rcases h with (h | h) | h
  · rcases hfront with ⟨-, rfl⟩ | ⟨-, rfl⟩
    · cases h
    · exact Or.inr (hhead.subset h)
  · exact Or.inl h
  · rcases hback with ⟨-, rfl⟩ | ⟨-, rfl⟩
    · cases h
    · exact Or.inr (List.mem_append_right opening h)

theorem closing_suffix_enclose (core : Text) : closing <:+ enclose core := by
  obtain ⟨front, back, heq, -, hback⟩ := exists_enclose core
  rw [heq]
  rcases hback with ⟨hclosing, rfl⟩ | ⟨-, rfl⟩
  · rwa [List.append_nil]
  · rw [← List.append_assoc]
    exact List.suffix_append _ _

theorem opening_prefix_clean (answer : Text) : opening <+: clean answer :=
  opening_prefix_enclose _

theorem closing_suffix_clean (answer : Text) : closing <:+ clean answer :=
  closing_suffix_enclose _

theorem not_mem_clean (answer : Text) : '\x60' ∉ clean answer := by
  intro h
  rcases mem_enclose h with h | h
  · exact not_mem_core answer h
  · exact absurd h (by decide)

/-- What begins and ends with the marks of a block does not begin or end with a blank. -/
theorem trim_between_of_marks {front block back : Text} (hfront : AllBlank front)
    (hback : AllBlank back) (ho : opening <+: block) (hc : closing <:+ block) :
    trim (front ++ block ++ back) = block := by
  refine trim_between hfront hback ?_ ?_
  · obtain ⟨rest, rfl⟩ := ho
    intro c hhead
    cases hhead
    decide
  · obtain ⟨rest, rfl⟩ := hc
    intro c hlast
    rw [List.getLast?_append] at hlast
    cases hlast
    decide

theorem trim_clean (answer : Text) : trim (clean answer) = clean answer := by
  have h := trim_between_of_marks (List.forall_mem_nil _) (List.forall_mem_nil _)
    (opening_prefix_clean answer) (closing_suffix_clean answer)
  rwa [List.nil_append, List.append_nil] at h

theorem isBlock_clean (answer : Text) : isBlock (clean answer) = true := by
  rw [isBlock, trim_clean, Bool.and_eq_true]
  exact ⟨List.isPrefixOf_iff_prefix.mpr (opening_prefix_clean answer),
    List.isSuffixOf_iff_suffix.mpr (closing_suffix_clean answer)⟩

/-! ## The first closing mark -/

/-- Of the closing marks that do not begin among the first `skipped` characters of a text, the first
one begins at `place`. -/
structure IsFirstClosing (t : Text) (skipped place : Nat) : Prop where
  skipped_le : skipped ≤ place
  here : closing <+: t.drop place
  first : ∀ i, skipped ≤ i → i < place → ¬ closing <+: t.drop i

theorem closingIndex?_eq_some_iff {t : Text} {place : Nat} :
    closingIndex? t = some place ↔
      closing <+: t.drop place ∧ ∀ i < place, ¬ closing <+: t.drop i := by
  induction t generalizing place with
  | nil => simp [closingIndex?, closing]
  | cons c rest ih =>
    rw [closingIndex?]
    by_cases hc : closing <+: c :: rest
    · rw [if_pos ((closing_isPrefixOf_iff _).mpr hc)]
      constructor
      · intro h
        cases h
        exact ⟨hc, fun i hi => absurd hi (Nat.not_lt_zero i)⟩
      · rintro ⟨-, hfirst⟩
        cases place with
        | zero => rfl
        | succ place => exact absurd hc (hfirst 0 (Nat.succ_pos place))
    · rw [if_neg fun h => hc ((closing_isPrefixOf_iff _).mp h)]
      cases place with
      | zero => simp [hc]
      | succ place =>
        have hsucc : (closingIndex? rest).map (· + 1) = some (place + 1)
            ↔ closingIndex? rest = some place := by simp
        rw [hsucc, ih, List.drop_succ_cons]
        refine and_congr_right fun _ => ⟨fun h i hi => ?_, fun h i hi => ?_⟩
        · cases i with
          | zero => exact hc
          | succ i => exact h i (Nat.lt_of_succ_lt_succ hi)
        · exact h (i + 1) (Nat.succ_lt_succ hi)

/-- A block closes at its end exactly if its last two characters are its first closing mark behind
the first two. -/
theorem closesAtEnd_iff_isFirstClosing {block : Text} (h : closing.length ≤ block.length) :
    closesAtEnd block = true ↔ IsFirstClosing block 2 (block.length - closing.length) := by
  rw [closesAtEnd_iff]
  constructor
  · rintro ⟨i, hi, hlen⟩
    obtain ⟨hhere, hfirst⟩ := closingIndex?_eq_some_iff.mp hi
    have hplace : block.length - closing.length = 2 + i := by omega
    rw [List.drop_drop] at hhere
    refine ⟨by omega, by rw [hplace]; exact hhere, ?_⟩
    intro j hj hlt
    have hnot := hfirst (j - 2) (by omega)
    rwa [List.drop_drop, Nat.add_sub_cancel' hj] at hnot
  · rintro ⟨hle, hhere, hfirst⟩
    refine ⟨block.length - closing.length - 2, closingIndex?_eq_some_iff.mpr ⟨?_, ?_⟩, by omega⟩
    · rwa [List.drop_drop, Nat.add_sub_cancel' hle]
    · intro i hi
      rw [List.drop_drop]
      exact hfirst (2 + i) (by omega) (by omega)

/-! ## The whole -/

/-- Something was answered: not every character is a blank. -/
def IsSaid (answer : Text) : Prop := ∃ c ∈ answer, isBlank c = false

theorem trim_eq_nil_iff_not_isSaid (answer : Text) : trim answer = [] ↔ ¬ IsSaid answer := by
  simp [trim_eq_nil_iff, IsSaid]

theorem accept_of_not_isSaid {answer : Text} (h : ¬ IsSaid answer) :
    accept answer = .error .empty := by
  rw [accept, if_pos ((trim_eq_nil_iff_not_isSaid answer).mpr h)]

theorem accept_of_isSaid {answer : Text} (h : IsSaid answer) :
    accept answer = if closesAtEnd (clean answer) then .ok (clean answer)
      else .error (.closesEarly (head (clean answer))) := by
  have hne : trim answer ≠ [] := fun he => (trim_eq_nil_iff_not_isSaid answer).mp he h
  rw [accept, if_neg hne]
  simp only [isBlock_clean, Bool.not_true, Bool.false_eq_true, if_false]
  cases closesAtEnd (clean answer) <;> rfl

/-- The block that cleaning makes of an answer ends with its first closing mark. -/
def ClosesOnce (answer : Text) : Prop :=
  IsFirstClosing (clean answer) 2 ((clean answer).length - closing.length)

theorem closesAtEnd_clean_iff (answer : Text) :
    closesAtEnd (clean answer) = true ↔ ClosesOnce answer :=
  closesAtEnd_iff_isFirstClosing (closing_suffix_clean answer).length_le

theorem accept_eq_ok_iff {answer block : Text} :
    accept answer = .ok block ↔ block = clean answer ∧ IsSaid answer ∧ ClosesOnce answer := by
  constructor
  · intro h
    obtain ⟨rfl, hcloses⟩ := accept_eq_ok h
    refine ⟨rfl, ?_, (closesAtEnd_clean_iff answer).mp hcloses⟩
    by_contra hsaid
    rw [accept_of_not_isSaid hsaid] at h
    cases h
  · rintro ⟨rfl, hsaid, honce⟩
    rw [accept_of_isSaid hsaid, if_pos ((closesAtEnd_clean_iff answer).mpr honce)]

theorem accept_eq_error_iff {answer : Text} {reason : Rejection} :
    accept answer = .error reason ↔
      (¬ IsSaid answer ∧ reason = .empty)
        ∨ (IsSaid answer ∧ ¬ ClosesOnce answer ∧ reason = .closesEarly (head (clean answer))) := by
  constructor
  · intro h
    by_cases hsaid : IsSaid answer
    · by_cases honce : ClosesOnce answer
      · rw [accept_eq_ok_iff.mpr ⟨rfl, hsaid, honce⟩] at h
        cases h
      · rw [accept_of_isSaid hsaid, if_neg (mt (closesAtEnd_clean_iff answer).mp honce)] at h
        cases h
        exact Or.inr ⟨hsaid, honce, rfl⟩
    · rw [accept_of_not_isSaid hsaid] at h
      cases h
      exact Or.inl ⟨hsaid, rfl⟩
  · rintro (⟨hsaid, rfl⟩ | ⟨hsaid, honce, rfl⟩)
    · exact accept_of_not_isSaid hsaid
    · rw [accept_of_isSaid hsaid, if_neg (mt (closesAtEnd_clean_iff answer).mp honce)]

/-- Of every answer, cleaning makes a block with no backtick in it and no blank around it, so that
none is refused as malformed. It is accepted exactly if something was answered and the first closing
mark behind the opening ends the block; a blank answer is refused as empty, and any other as closed
too early. -/
theorem accept_exact (answer : Text) :
    ('\x60' ∉ clean answer ∧ opening <+: clean answer ∧ closing <:+ clean answer
        ∧ trim (clean answer) = clean answer)
      ∧ isBlock (clean answer) = true
      ∧ (∀ head, accept answer ≠ .error (.malformed head))
      ∧ (∀ block, accept answer = .ok block ↔
        block = clean answer ∧ IsSaid answer ∧ ClosesOnce answer)
      ∧ ∀ reason, accept answer = .error reason ↔
        (¬ IsSaid answer ∧ reason = .empty)
          ∨ (IsSaid answer ∧ ¬ ClosesOnce answer
            ∧ reason = .closesEarly (head (clean answer))) := by
  refine ⟨⟨not_mem_clean answer, opening_prefix_clean answer, closing_suffix_clean answer,
    trim_clean answer⟩, isBlock_clean answer, ?_, fun _ => accept_eq_ok_iff,
    fun _ => accept_eq_error_iff⟩
  intro head h
  rcases accept_eq_error_iff.mp h with ⟨-, hreason⟩ | ⟨-, -, hreason⟩
  · cases hreason
  · cases hreason

/-- A star between two slashes opens nothing, but closes what is put in front of it. -/
example : (accept "/*/".toList).toOption = some "/**\n/*/".toList := by decide +kernel

end DocWeave.Comment
