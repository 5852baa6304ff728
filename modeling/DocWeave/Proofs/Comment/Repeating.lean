import DocWeave.Proofs.Comment.Acceptance
import DocWeave.Proofs.Comment.Merging
import DocWeave.Proofs.Comment.Wrapping

/-!
# Cleaning what has been cleaned

What cleaning gives is opened, closed and without backticks, and of such a text cleaning does
nothing but merge openings. So a text stays as it is exactly if it is such a text and is nowhere
opened twice in a row; and what is left to be done by further cleanings depends on the openings
alone that stood in a row.

* `clean_eq_self_iff` — the texts that cleaning leaves as they are
* `isDoubled_iterate_clean` — cleaning `n` times leaves a text opened twice in a row exactly if more
  than `2 ^ n` openings stood in a row in the answer
-/

namespace DocWeave.Comment

open Blank

/-! ## Blocks without backticks -/

/-- A text with the marks of a block at its ends and no backtick in it. -/
structure IsFramed (block : Text) : Prop where
  opens : opening <+: block
  closes : closing <:+ block
  backtick : '\x60' ∉ block

variable {block t : Text}

theorem isFramed_clean (answer : Text) : IsFramed (clean answer) :=
  ⟨opening_prefix_clean answer, closing_suffix_clean answer, not_mem_clean answer⟩

theorem isTidy_iff : IsTidy block ↔ IsFramed block ∧ ¬ IsDoubled block :=
  ⟨fun h => ⟨⟨h.opens, h.closes, h.backtick⟩, h.doubled⟩,
    fun ⟨h, hdoubled⟩ => ⟨h.opens, h.closes, h.backtick, hdoubled⟩⟩

/-- The closing mark of a block is not merged away, though its star may end an opening. -/
theorem closing_suffix_mergeOpenings (h : closing <:+ t) : closing <:+ mergeOpenings t := by
  obtain ⟨w, rfl⟩ := h
  have hslash : mergeOpenings ((w ++ ['*']) ++ ['/']) = mergeOpenings (w ++ ['*']) ++ ['/'] :=
    mergeOpenings_append_back (by decide) _
  have hlast : (mergeOpenings (w ++ ['*'])).getLast? = some '*' := by
    rw [getLast?_mergeOpenings, List.getLast?_concat]
  obtain ⟨w', hw'⟩ := List.getLast?_eq_some_iff.mp hlast
  rw [hw', List.append_assoc, List.append_assoc] at hslash
  exact ⟨w', hslash.symm⟩

theorem IsFramed.mergeOpenings (h : IsFramed block) : IsFramed (mergeOpenings block) where
  opens := opening_prefix_mergeOpenings_iff.mpr h.opens
  closes := closing_suffix_mergeOpenings h.closes
  backtick hmem := h.backtick ((mergeOpenings_sublist block).mem hmem)

/-- Of such a text cleaning merges openings, and that is all. -/
theorem IsFramed.clean_eq (h : IsFramed block) : clean block = Comment.mergeOpenings block := by
  have hmerged := h.mergeOpenings
  have hnone : AllBlank [] := List.forall_mem_nil _
  have hlanguage := dropLanguage_opened hnone hmerged.opens
  refine clean_eq_of_marks hmerged.opens hmerged.closes hnone hnone ?_
  rw [List.nil_append] at hlanguage
  rw [unfenced_eq_self h.backtick, hlanguage, List.nil_append, List.append_nil]

theorem IsFramed.iterate_clean_eq (h : IsFramed block) (n : Nat) :
    clean^[n] block = Comment.mergeOpenings^[n] block := by
  induction n generalizing block with
  | zero => rfl
  | succ n ih => rw [Function.iterate_succ_apply, Function.iterate_succ_apply, h.clean_eq,
      ih h.mergeOpenings]

theorem IsFramed.unchanged_iff (h : IsFramed block) : clean block = block ↔ ¬ IsDoubled block := by
  rw [h.clean_eq, mergeOpenings_eq_self_iff]

/-- Cleaning leaves a text as it is exactly if the text opens and closes as a block, has no backtick
in it, and is nowhere opened twice in a row. -/
theorem clean_eq_self_iff (t : Text) : clean t = t ↔ IsTidy t := by
  rw [isTidy_iff]
  constructor
  · intro h
    have hframed : IsFramed t := h ▸ isFramed_clean t
    exact ⟨hframed, hframed.unchanged_iff.mp h⟩
  · rintro ⟨hframed, hdoubled⟩
    exact hframed.unchanged_iff.mpr hdoubled

/-! ## Rows in what has been cleaned -/

theorem hasRow_dropLanguage {n : Nat} : HasRow n (dropLanguage t) ↔ HasRow n t := by
  rcases dropLanguage_cases t with h | ⟨front, name, line, hheading, heq⟩
  · rw [h]
  · have hassoc : front ++ (name ++ (line ++ dropLanguage t))
        = (front ++ (name ++ line)) ++ dropLanguage t := by
      simp only [List.append_assoc]
    conv_rhs => rw [heq, hassoc, hasRow_append_front hheading.notMem]

theorem hasRow_trim {n : Nat} : HasRow n (trim t) ↔ HasRow n t := by
  obtain ⟨front, back, hfront, hback, ht⟩ := exists_append_trim t
  conv_rhs => rw [ht, hasRow_append_back (hback.notMem (by decide)),
    hasRow_append_front (hfront.notMem (by decide))]

/-- A closing mark on a line of its own is part of no row. -/
theorem hasRow_append_closing {n : Nat} :
    HasRow n (t ++ (['\n', ' '] ++ closing)) ↔ HasRow n t := by
  have hblanks : HasRow n (t ++ ['\n', ' ']) ↔ HasRow n t := hasRow_append_back (by decide)
  have hslash : HasRow n ((t ++ ['\n', ' '] ++ ['*']) ++ ['/'])
      ↔ HasRow n (t ++ ['\n', ' '] ++ ['*']) :=
    hasRow_append_back (by decide)
  have hassoc : t ++ (['\n', ' '] ++ closing) = (t ++ ['\n', ' '] ++ ['*']) ++ ['/'] := by
    simp [closing]
  rw [hassoc, hslash, ← hblanks]
  refine exists_congr fun row => and_congr_right fun hrow => ?_
  rw [List.infix_concat_iff, or_iff_right_iff_imp]
  -- a row that ended with the star of the mark would have another star in front of it
  intro hsuffix
  have hopening : ['/', '*'] ++ ['*'] <:+ t ++ ['\n', ' '] ++ ['*'] :=
    hrow.opening_suffix.trans hsuffix
  rw [List.suffix_append_self_iff] at hopening
  obtain ⟨w, hw⟩ := hopening
  have hlast := congrArg List.getLast? hw
  simp at hlast

/-- An opening on a line of its own makes no row longer, if no opening follows. -/
theorem hasRow_opening_line {n : Nat} (h : ¬ opening <+: trimLeft t) :
    HasRow (n + 2) (opening ++ ['\n'] ++ t) ↔ HasRow (n + 2) t := by
  have hblank : AllBlank ['\n'] := List.all_eq_true.mp (by decide)
  have hbreak : HasRow (n + 2) (['\n'] ++ t) ↔ HasRow (n + 2) t := hasRow_append_front (by decide)
  rw [List.append_assoc, hasRow_opening_append, begins_opening_append, trimLeft_blanks hblank,
    hbreak, or_iff_right]
  exact fun hbegins => h hbegins.opens

/-- The marks that are added make no row longer. -/
theorem hasRow_enclose {n : Nat} {core : Text} (hcore : trimLeft core = core) :
    HasRow (n + 2) (enclose core) ↔ HasRow (n + 2) core := by
  obtain ⟨front, back, heq, hfront, hback⟩ := exists_enclose core
  have hopened : HasRow (n + 2) (front ++ core) ↔ HasRow (n + 2) core := by
    rcases hfront with ⟨-, rfl⟩ | ⟨hopening, rfl⟩
    · rw [List.nil_append]
    · exact hasRow_opening_line (by rwa [hcore])
  rw [heq]
  rcases hback with ⟨-, rfl⟩ | ⟨-, rfl⟩
  · rw [List.append_nil, hopened]
  · rw [hasRow_append_closing, hopened]

theorem hasRow_core {n : Nat} (answer : Text) :
    HasRow n (core answer) ↔ HasRow n (mergeOpenings (unfenced answer)) := by
  rw [core_eq, hasRow_trim, hasRow_dropLanguage]

theorem trimLeft_core (answer : Text) : trimLeft (core answer) = core answer :=
  trimLeft_eq_self head?_trim

/-- Cleaning leaves more than `n` openings in a row exactly if there were more than `2 * n`. -/
theorem hasRow_clean {n : Nat} (hn : 1 ≤ n) (answer : Text) :
    HasRow (n + 1) (clean answer) ↔ HasRow (2 * n + 1) (unfenced answer) := by
  obtain ⟨n, rfl⟩ := Nat.exists_eq_add_of_le' hn
  rw [clean, hasRow_enclose (trimLeft_core answer), hasRow_core, hasRow_mergeOpenings]

/--
Cleaning leaves an answer opened twice in a row exactly if three openings stood in a row in it, once
fences and backticks had gone; only then does cleaning it again change it again. Each further
cleaning halves the rows: the `n`-th one leaves the answer opened twice in a row exactly if more
than `2 ^ n` openings stood in a row, and all further ones change nothing if it does not.
-/
theorem isDoubled_iterate_clean (answer : Text) :
    (IsDoubled (clean answer) ↔ HasRow 3 (unfenced answer))
      ∧ (clean (clean answer) = clean answer ↔ ¬ HasRow 3 (unfenced answer))
      ∧ ∀ n, (IsDoubled (clean^[n + 1] answer) ↔ HasRow (2 ^ (n + 1) + 1) (unfenced answer))
        ∧ (clean^[n + 2] answer = clean^[n + 1] answer
          ↔ ¬ HasRow (2 ^ (n + 1) + 1) (unfenced answer)) := by
  have hrows (n : Nat) :
      IsDoubled (clean^[n + 1] answer) ↔ HasRow (2 ^ (n + 1) + 1) (unfenced answer) := by
    -- all cleanings but the first one only merge openings
    rw [Function.iterate_succ_apply, (isFramed_clean answer).iterate_clean_eq, isDoubled_iff_hasRow,
      hasRow_iterate_mergeOpenings, hasRow_clean Nat.one_le_two_pow, pow_succ']
  have hfixed (n : Nat) : clean^[n + 2] answer = clean^[n + 1] answer
      ↔ ¬ HasRow (2 ^ (n + 1) + 1) (unfenced answer) := by
    have hframed : IsFramed (clean^[n + 1] answer) := by
      rw [Function.iterate_succ_apply']
      exact isFramed_clean _
    rw [← hrows n, Function.iterate_succ_apply' clean (n + 1), hframed.unchanged_iff]
  exact ⟨hrows 0, hfixed 0, fun n => ⟨hrows n, hfixed n⟩⟩

/-- Of three openings in a row two are left, and one of them when the answer is cleaned again. -/
example : clean "/** /** /** a */".toList = "/** /** a */".toList
    ∧ clean (clean "/** /** /** a */".toList) = "/** a */".toList := by decide +kernel

end DocWeave.Comment
