import DocWeave.Proofs.Comment.Cleaning
import Mathlib.Algebra.Group.Nat.Defs
import Mathlib.Logic.Function.Iterate

/-!
# Openings in a row

Merging runs down a text once, and goes on behind the two openings of which it has left one. If a
third one follows, it is not seen that the one that was left stands in front of it. So of a row of
openings every second one is left.

* `hasRow_mergeOpenings` — `k + 1` openings in a row are left exactly if there were `2 * k + 1`
* `hasRow_iterate_mergeOpenings` — the same for merging again and again
* `mergeOpenings_eq_self_iff` — merging changes every text that is opened twice in a row

Rows begin with a slash and end with a star. So they are found again in any text around them that
has no slash in front and no star behind (`hasRow_append_front`, `hasRow_append_back`).
-/

namespace DocWeave.Comment

open Blank

/-! ## Rows -/

/-- So many openings, with nothing but blanks between them. -/
inductive IsRow : Nat → Text → Prop where
  | one : IsRow 1 opening
  | more {n : Nat} {gap row : Text} (hgap : AllBlank gap) (h : IsRow n row) :
      IsRow (n + 1) (opening ++ gap ++ row)

/-- A text begins with so many openings in a row. -/
def Begins (n : Nat) (t : Text) : Prop := ∃ row, IsRow n row ∧ row <+: t

/-- There are so many openings in a row in a text. -/
def HasRow (n : Nat) (t : Text) : Prop := ∃ row, IsRow n row ∧ row <:+: t

variable {n : Nat} {t rest row front back : Text}

theorem IsRow.opens (h : IsRow n row) : opening <+: row := by
  cases h with
  | one => exact List.prefix_refl _
  | more _ _ =>
    rw [List.append_assoc]
    exact List.prefix_append _ _

theorem IsRow.exists_cons (h : IsRow n row) : ∃ w, row = '/' :: w := by
  obtain ⟨w, rfl⟩ := h.opens
  exact ⟨'*' :: '*' :: w, rfl⟩

theorem IsRow.opening_suffix (h : IsRow n row) : opening <:+ row := by
  induction h with
  | one => exact List.suffix_refl _
  | more _ _ ih => exact ih.trans (List.suffix_append _ _)

theorem IsRow.exists_concat (h : IsRow n row) : ∃ w, row = w ++ ['*'] := by
  obtain ⟨w, rfl⟩ := h.opening_suffix
  exact ⟨w ++ ['/', '*'], by rw [List.append_assoc]; rfl⟩

/-- A row begins with a row that has one opening less. -/
theorem IsRow.exists_shorter (h : IsRow (n + 2) row) :
    ∃ row', IsRow (n + 1) row' ∧ row' <+: row := by
  induction n generalizing row with
  | zero => exact ⟨opening, .one, h.opens⟩
  | succ n ih =>
    cases h with
    | more hgap h =>
      obtain ⟨row', hrow', hprefix⟩ := ih h
      exact ⟨_, .more hgap hrow', (List.prefix_append_right_inj _).mpr hprefix⟩

theorem isRow_two_iff : IsRow 2 row ↔ ∃ gap, AllBlank gap ∧ row = opening ++ gap ++ opening := by
  constructor
  · intro h
    cases h with
    | more hgap h =>
      cases h with
      | one => exact ⟨_, hgap, rfl⟩
      | more _ h => cases h
  · rintro ⟨gap, hgap, rfl⟩
    exact .more hgap .one

theorem isDoubled_iff_hasRow : IsDoubled t ↔ HasRow 2 t := by
  constructor
  · rintro ⟨gap, hgap, hin⟩
    exact ⟨_, isRow_two_iff.mpr ⟨gap, hgap, rfl⟩, hin⟩
  · rintro ⟨row, hrow, hin⟩
    obtain ⟨gap, hgap, rfl⟩ := isRow_two_iff.mp hrow
    exact ⟨gap, hgap, hin⟩

theorem Begins.opens (h : Begins n t) : opening <+: t := by
  obtain ⟨row, hrow, hprefix⟩ := h
  exact hrow.opens.trans hprefix

theorem begins_one_iff : Begins 1 t ↔ opening <+: t :=
  ⟨Begins.opens, fun h => ⟨opening, .one, h⟩⟩

theorem Begins.pred (h : Begins (n + 2) t) : Begins (n + 1) t := by
  obtain ⟨row, hrow, hprefix⟩ := h
  obtain ⟨row', hrow', hprefix'⟩ := hrow.exists_shorter
  exact ⟨row', hrow', hprefix'.trans hprefix⟩

/-- Behind an opening the row goes on where the blanks end. -/
theorem begins_opening_append :
    Begins (n + 2) (opening ++ rest) ↔ Begins (n + 1) (trimLeft rest) := by
  constructor
  · rintro ⟨_, ⟨⟩ | @⟨_, gap, row, hgap, hrow⟩, hprefix⟩
    rw [List.append_assoc, List.prefix_append_right_inj] at hprefix
    obtain ⟨behind, rfl⟩ := hprefix
    have hopening : opening <+: row ++ behind := hrow.opens.trans (List.prefix_append _ _)
    rw [List.append_assoc, trimLeft_blanks hgap, trimLeft_of_opens hopening]
    exact ⟨row, hrow, List.prefix_append _ _⟩
  · rintro ⟨row, hrow, hprefix⟩
    obtain ⟨gap, hgap, hblank⟩ := trimLeft_append rest
    refine ⟨_, .more hblank hrow, ?_⟩
    rw [List.append_assoc, List.prefix_append_right_inj, hgap]
    exact (List.prefix_append_right_inj _).mpr hprefix

theorem hasRow_cons_iff {c : Char} : HasRow n (c :: t) ↔ Begins n (c :: t) ∨ HasRow n t := by
  simp only [HasRow, Begins, List.infix_cons_iff, and_or_left, exists_or]

theorem hasRow_append_front (h : '/' ∉ front) : HasRow n (front ++ t) ↔ HasRow n t := by
  refine exists_congr fun row => and_congr_right fun hrow => ?_
  obtain ⟨w, rfl⟩ := hrow.exists_cons
  exact ⟨fun hin => infix_of_append_infix hin h,
    fun hin => hin.trans (List.suffix_append _ _).isInfix⟩

theorem hasRow_append_back (h : '*' ∉ back) : HasRow n (t ++ back) ↔ HasRow n t := by
  refine exists_congr fun row => and_congr_right fun hrow => ?_
  obtain ⟨w, rfl⟩ := hrow.exists_concat
  exact ⟨fun hin => infix_of_infix_append hin h,
    fun hin => hin.trans (List.prefix_append _ _).isInfix⟩

theorem hasRow_opening_append :
    HasRow n (opening ++ rest) ↔ Begins n (opening ++ rest) ∨ HasRow n rest := by
  have hstars : HasRow n (['*', '*'] ++ rest) ↔ HasRow n rest := hasRow_append_front (by decide)
  rw [← hstars]
  exact hasRow_cons_iff

/-! ## What merging passes over -/

theorem dropDoubled_eq_none_iff : dropDoubled t = none ↔ ¬ Begins 2 t := by
  rw [← not_iff_not, not_not, ← ne_eq, Option.ne_none_iff_exists']
  constructor
  · rintro ⟨rest, h⟩
    obtain ⟨gap, hgap, rfl⟩ := dropDoubled_eq_some_iff.mp h
    exact ⟨_, isRow_two_iff.mpr ⟨gap, hgap, rfl⟩, List.prefix_append _ _⟩
  · rintro ⟨row, hrow, rest, rfl⟩
    obtain ⟨gap, hgap, rfl⟩ := isRow_two_iff.mp hrow
    exact ⟨rest, dropDoubled_eq_some_iff.mpr ⟨gap, hgap, rfl⟩⟩

/-- A character stays that is not the first one of two openings in a row. -/
theorem mergeOpenings_cons {c : Char} (h : ¬ Begins 2 (c :: t)) :
    mergeOpenings (c :: t) = c :: mergeOpenings t := by
  rw [mergeOpenings]
  split
  · next behind hsome =>
    rw [dropDoubled_eq_none_iff.mpr h] at hsome
    cases hsome
  · rfl

/-- What is put behind a text is passed over if no star is in it. -/
theorem mergeOpenings_append_back (h : '*' ∉ back) (t : Text) :
    mergeOpenings (t ++ back) = mergeOpenings t ++ back := by
  fun_induction mergeOpenings t with
  | case1 =>
    refine mergeOpenings_eq_self fun hdoubled => ?_
    obtain ⟨gap, -, hin⟩ := hdoubled
    exact h (hin.mem (by simp [opening]))
  | case2 c rest behind hsome ih =>
    obtain ⟨gap, hgap, heq⟩ := dropDoubled_eq_some_iff.mp hsome
    rw [heq, List.append_assoc _ behind, mergeOpenings_doubled hgap, ih, List.append_assoc]
  | case3 c rest hnone ih =>
    -- two openings end with a star, and so in front of what is put behind
    have hsingle : ¬ Begins 2 (c :: (rest ++ back)) := by
      rintro ⟨row, hrow, hprefix⟩
      obtain ⟨w, rfl⟩ := hrow.exists_concat
      exact dropDoubled_eq_none_iff.mp hnone ⟨_, hrow, prefix_of_prefix_append hprefix h⟩
    rw [List.cons_append, mergeOpenings_cons hsingle, ih, List.cons_append]

/-- What merging leaves in front of the first slash stood there before. -/
theorem exists_of_mergeOpenings_eq (h : mergeOpenings t = front ++ rest) (hfront : '/' ∉ front) :
    ∃ behind, t = front ++ behind ∧ mergeOpenings behind = rest := by
  induction front generalizing t with
  | nil => exact ⟨t, rfl, h⟩
  | cons c front ih =>
    have hc : '/' ≠ c := fun hc => hfront (hc ▸ List.mem_cons_self)
    cases t with
    | nil =>
      rw [mergeOpenings] at h
      cases h
    | cons d t =>
      by_cases hdoubled : Begins 2 (d :: t)
      · -- what is left of two openings begins with a slash, and `front` does not
        obtain ⟨row, hrow, rest', hrest⟩ := hdoubled
        obtain ⟨gap, hgap, rfl⟩ := isRow_two_iff.mp hrow
        rw [← hrest, mergeOpenings_doubled hgap] at h
        exact absurd (List.cons.inj h).1 hc
      · rw [mergeOpenings_cons hdoubled] at h
        obtain ⟨rfl, htail⟩ := List.cons.inj h
        obtain ⟨behind, rfl, hbehind⟩ := ih htail fun hf => hfront (List.mem_cons_of_mem d hf)
        exact ⟨behind, rfl, hbehind⟩

theorem head?_mergeOpenings (t : Text) : (mergeOpenings t).head? = t.head? := by
  fun_induction mergeOpenings t with
  | case1 => rfl
  | case2 c rest behind hsome ih =>
    obtain ⟨gap, -, heq⟩ := dropDoubled_eq_some_iff.mp hsome
    rw [heq]
    rfl
  | case3 => rfl

/-- A text without slashes stays as it is, and only such a text is left without one. -/
theorem mergeOpenings_of_notMem (h : '/' ∉ t) : mergeOpenings t = t := by
  refine mergeOpenings_eq_self fun hdoubled => ?_
  obtain ⟨gap, -, hin⟩ := hdoubled
  exact h (hin.mem (by simp [opening]))

theorem notMem_of_mergeOpenings (h : '/' ∉ mergeOpenings t) : '/' ∉ t := by
  obtain ⟨behind, ht, hbehind⟩ := exists_of_mergeOpenings_eq (List.append_nil _).symm h
  have hnil : behind = [] := by
    cases behind with
    | nil => rfl
    | cons c behind =>
      have hhead := head?_mergeOpenings (c :: behind)
      rw [hbehind] at hhead
      cases hhead
  rw [ht, hnil, List.append_nil]
  exact h

theorem getLast?_mergeOpenings (t : Text) : (mergeOpenings t).getLast? = t.getLast? := by
  fun_induction mergeOpenings t with
  | case1 => rfl
  | case2 c rest behind hsome ih =>
    obtain ⟨gap, -, heq⟩ := dropDoubled_eq_some_iff.mp hsome
    have hends : (opening ++ gap ++ opening).getLast? = opening.getLast? := by
      rw [List.getLast?_append]
      rfl
    rw [heq, List.getLast?_append, List.getLast?_append, ih, hends]
  | case3 c rest hnone ih => rw [List.getLast?_cons, List.getLast?_cons, ih]

/-- Of an opening and the one behind it, one is left. -/
theorem mergeOpenings_opening_doubled {behind : Text} (h : trimLeft rest = opening ++ behind) :
    mergeOpenings (opening ++ rest) = opening ++ mergeOpenings behind := by
  obtain ⟨gap, hgap, hblank⟩ := trimLeft_append rest
  rw [hgap, h, ← List.append_assoc, ← List.append_assoc, mergeOpenings_doubled hblank]

/-- An opening stays behind which no other one stands. -/
theorem mergeOpenings_opening_single (h : ¬ opening <+: trimLeft rest) :
    mergeOpenings (opening ++ rest) = opening ++ mergeOpenings rest := by
  have hsingle : ¬ Begins 2 ('/' :: '*' :: '*' :: rest) := fun hdoubled =>
    h (begins_opening_append.mp hdoubled).opens
  have hstars : mergeOpenings (['*', '*'] ++ rest) = ['*', '*'] ++ mergeOpenings rest :=
    mergeOpenings_append (by decide) rest
  calc mergeOpenings (opening ++ rest)
      = '/' :: mergeOpenings (['*', '*'] ++ rest) := mergeOpenings_cons hsingle
    _ = opening ++ mergeOpenings rest := by
      rw [hstars]
      rfl

theorem opening_prefix_mergeOpenings_iff : opening <+: mergeOpenings t ↔ opening <+: t := by
  constructor
  · rintro ⟨rest, hrest⟩
    by_cases hdoubled : Begins 2 t
    · exact hdoubled.opens
    · cases t with
      | nil =>
        rw [mergeOpenings] at hrest
        cases hrest
      | cons c t =>
        rw [mergeOpenings_cons hdoubled] at hrest
        obtain ⟨rfl, htail⟩ := List.cons.inj hrest
        have hstars : mergeOpenings t = ['*', '*'] ++ rest := htail.symm
        obtain ⟨behind, rfl, -⟩ := exists_of_mergeOpenings_eq hstars (by decide)
        exact ⟨behind, rfl⟩
  · rintro ⟨rest, rfl⟩
    by_cases hdoubled : opening <+: trimLeft rest
    · obtain ⟨behind, hbehind⟩ := hdoubled
      rw [mergeOpenings_opening_doubled hbehind.symm]
      exact List.prefix_append _ _
    · rw [mergeOpenings_opening_single hdoubled]
      exact List.prefix_append _ _

theorem trimLeft_mergeOpenings (t : Text) :
    trimLeft (mergeOpenings t) = mergeOpenings (trimLeft t) := by
  obtain ⟨gap, hgap, hblank⟩ := trimLeft_append t
  have hslash : '/' ∉ gap := AllBlank.notMem hblank (by decide)
  have hmerged : mergeOpenings t = gap ++ mergeOpenings (trimLeft t) := by
    conv_lhs => rw [hgap, mergeOpenings_append hslash]
  rw [hmerged, trimLeft_blanks hblank]
  refine trimLeft_eq_self ?_
  rw [head?_mergeOpenings]
  exact head?_trimLeft

/-- Blanks at the ends stay where they are. -/
theorem trim_mergeOpenings (t : Text) : trim (mergeOpenings t) = mergeOpenings (trim t) := by
  obtain ⟨front, back, hfront, hback, ht⟩ := exists_append_trim t
  have hslash : '/' ∉ front := hfront.notMem (by decide)
  have hstar : '*' ∉ back := hback.notMem (by decide)
  have hmerged : mergeOpenings t = front ++ mergeOpenings (trim t) ++ back := by
    conv_lhs => rw [ht, mergeOpenings_append_back hstar, mergeOpenings_append hslash]
  rw [hmerged]
  refine trim_between hfront hback ?_ ?_
  · rw [head?_mergeOpenings]
    exact head?_trim
  · rw [getLast?_mergeOpenings]
    exact getLast?_trimRight

/-! ## How many openings are left -/

/-- Of the openings in a row with which a text begins, every second one is left. -/
theorem begins_mergeOpenings (k : Nat) (t : Text) :
    Begins (k + 1) (mergeOpenings t) ↔ Begins (2 * k + 1) t := by
  induction k generalizing t with
  | zero => rw [Nat.zero_add, begins_one_iff, begins_one_iff, opening_prefix_mergeOpenings_iff]
  | succ k ih =>
    by_cases hopens : opening <+: t
    · obtain ⟨rest, rfl⟩ := hopens
      have hrow : Begins (2 * (k + 1) + 1) (opening ++ rest) ↔ Begins (2 * k + 2) (trimLeft rest) :=
        begins_opening_append
      rw [hrow]
      -- the second opening goes and the count goes on behind it, or there is no second one
      by_cases hnext : opening <+: trimLeft rest
      · obtain ⟨behind, hbehind⟩ := hnext
        rw [mergeOpenings_opening_doubled hbehind.symm, begins_opening_append,
          trimLeft_mergeOpenings, ih, ← hbehind, begins_opening_append]
      · rw [mergeOpenings_opening_single hnext, begins_opening_append, trimLeft_mergeOpenings, ih]
        exact iff_of_false (fun h => hnext h.opens) fun h => hnext h.opens
    · refine iff_of_false (fun h => hopens ?_) fun h => hopens h.opens
      exact opening_prefix_mergeOpenings_iff.mp h.opens

/-- Of openings in a row every second one is left, wherever they are. -/
theorem hasRow_mergeOpenings (k : Nat) (t : Text) :
    HasRow (k + 1) (mergeOpenings t) ↔ HasRow (2 * k + 1) t := by
  fun_induction mergeOpenings t with
  | case1 =>
    have hnil {n : Nat} : ¬ HasRow n [] := by
      rintro ⟨row, hrow, hin⟩
      obtain ⟨w, rfl⟩ := hrow.exists_cons
      exact List.cons_ne_nil _ _ (List.infix_nil.mp hin)
    exact iff_of_false hnil hnil
  | case2 c rest behind hsome ih =>
    obtain ⟨gap, hgap, heq⟩ := dropDoubled_eq_some_iff.mp hsome
    have hbegins := begins_mergeOpenings k (c :: rest)
    rw [heq, mergeOpenings_doubled hgap] at hbegins
    have hslash : '/' ∉ gap := hgap.notMem (by decide)
    -- the row that begins with the first opening is longer than the one that begins with the second
    have hsecond : Begins (2 * k + 1) (opening ++ behind)
        → Begins (2 * k + 1) (opening ++ (gap ++ (opening ++ behind))) := by
      intro h
      refine Begins.pred (begins_opening_append.mpr ?_)
      rwa [trimLeft_blanks hgap, trimLeft_opening]
    simp only [List.append_assoc] at heq hbegins
    rw [heq, hasRow_opening_append, hasRow_opening_append, hasRow_append_front hslash,
      hasRow_opening_append, hbegins, ih, ← or_assoc, or_iff_left_of_imp hsecond]
  | case3 c rest hnone ih =>
    have hbegins := begins_mergeOpenings k (c :: rest)
    rw [mergeOpenings_cons (dropDoubled_eq_none_iff.mp hnone)] at hbegins
    rw [hasRow_cons_iff, hasRow_cons_iff, hbegins, ih]

/-- Merging `n` times leaves two openings in a row exactly if there were more than `2 ^ n`. -/
theorem hasRow_iterate_mergeOpenings (n : Nat) (t : Text) :
    HasRow 2 (mergeOpenings^[n] t) ↔ HasRow (2 ^ n + 1) t := by
  induction n generalizing t with
  | zero => rfl
  | succ n ih =>
    rw [Function.iterate_succ_apply, ih, hasRow_mergeOpenings, pow_succ']

theorem mergeOpenings_eq_self_iff : mergeOpenings t = t ↔ ¬ IsDoubled t := by
  refine ⟨fun h hdoubled => ?_, mergeOpenings_eq_self⟩
  fun_induction mergeOpenings t with
  | case1 =>
    obtain ⟨gap, -, hin⟩ := hdoubled
    exact absurd hin.length_le (by simp [opening])
  | case2 c rest behind hsome ih =>
    obtain ⟨gap, -, heq⟩ := dropDoubled_eq_some_iff.mp hsome
    have hlength := congrArg List.length (h.trans heq)
    have hle := (mergeOpenings_sublist behind).length_le
    simp only [List.length_append, opening, List.length_cons] at hlength
    omega
  | case3 c rest hnone ih =>
    rw [isDoubled_iff_hasRow, hasRow_cons_iff] at hdoubled
    rcases hdoubled with hbegins | hrest
    · exact dropDoubled_eq_none_iff.mp hnone hbegins
    · exact ih (List.cons.inj h).2 (isDoubled_iff_hasRow.mpr hrest)

end DocWeave.Comment
