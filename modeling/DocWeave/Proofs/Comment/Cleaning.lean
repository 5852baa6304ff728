import DocWeave.Proofs.Comment.Naming

/-!
# What the steps of cleaning do

Every step of cleaning looks for marks in a text. Where there are none it leaves the text as it is,
and where there are some it takes characters away and adds none.

* `unwrapFences_closed`, `dropFenceMarks_cons` — the first fence of a text gives way
* `mergeOpenings_eq_self` — a text that is nowhere opened twice stays as it is
* `core_sublist` — what is kept of an answer stands in it in the same order
* `not_mem_core` — no backtick is left of an answer
-/

namespace DocWeave.Comment

open Blank

/-! ## Fences -/

/-- The mark at both ends of a fence. -/
def fence : Text := ['\x60', '\x60', '\x60']

theorem splitFence_of_notMem {t : Text} (h : '\x60' ∉ t) : splitFence t = none := by
  induction t with
  | nil => rfl
  | cons c rest ih =>
    rw [splitFence]
    split
    · next behind heq =>
      obtain ⟨rfl, -⟩ := List.cons.inj heq
      exact absurd List.mem_cons_self h
    · rw [ih fun hr => h (List.mem_cons_of_mem c hr), Option.map_none]

theorem splitFence_fence {front : Text} (h : '\x60' ∉ front) (behind : Text) :
    splitFence (front ++ (fence ++ behind)) = some (front, behind) := by
  induction front with
  | nil => rfl
  | cons c rest ih =>
    rw [List.cons_append, splitFence]
    split
    · next heq =>
      obtain ⟨rfl, -⟩ := List.cons.inj heq
      exact absurd List.mem_cons_self h
    · rw [ih fun hr => h (List.mem_cons_of_mem c hr), Option.map_some]

theorem eq_of_splitFence {t front behind : Text} (h : splitFence t = some (front, behind)) :
    t = front ++ (fence ++ behind) := by
  induction t generalizing front behind with
  | nil => cases h
  | cons c rest ih =>
    rw [splitFence] at h
    split at h
    · next heq =>
      cases h
      exact heq
    · obtain ⟨⟨front', behind'⟩, hsplit, heq⟩ := Option.map_eq_some_iff.mp h
      cases heq
      rw [ih hsplit, List.cons_append]

/-- No fence mark is found exactly if no three backticks stand in a row. -/
theorem splitFence_eq_none_iff {t : Text} : splitFence t = none ↔ ¬ fence <:+: t := by
  induction t with
  | nil => simp [splitFence, fence]
  | cons c rest ih =>
    rw [splitFence, List.infix_cons_iff, not_or, ← ih]
    split
    · next behind heq =>
      exact iff_of_false (by simp) fun h => h.1 (heq ▸ List.prefix_append fence behind)
    · next hnot =>
      rw [Option.map_eq_none_iff, iff_and_self]
      rintro - ⟨behind, hbehind⟩
      exact hnot behind hbehind.symm

theorem dropFenceHead_suffix (t : Text) : dropFenceHead t <:+ t := by
  have hbreak (t : Text) : dropBreak t <:+ t := by
    unfold dropBreak
    split
    · exact List.suffix_append ['\r', '\n'] _
    · exact List.suffix_cons _ _
    · exact List.suffix_cons _ _
    · exact List.suffix_refl _
  exact (hbreak _).trans ((List.dropWhile_suffix _).trans (List.dropWhile_suffix _))

theorem unwrapFences_eq_self {t : Text} (h : splitFence t = none) : unwrapFences t = t := by
  rw [unwrapFences]
  split
  · rfl
  · next front behind heq =>
    rw [h] at heq
    cases heq

/-- A fence that is opened and not closed stays. -/
theorem unwrapFences_opened {t front behind : Text} (h : splitFence t = some (front, behind))
    (hopen : splitFence (dropFenceHead behind) = none) : unwrapFences t = t := by
  rw [unwrapFences]
  split
  · rfl
  · next front' behind' heq =>
    rw [h] at heq
    cases heq
    split
    · rfl
    · next body rest hclosed =>
      rw [hopen] at hclosed
      cases hclosed

/-- The first closed fence gives way to what it holds. -/
theorem unwrapFences_closed {t front behind body rest : Text}
    (h : splitFence t = some (front, behind))
    (hclosed : splitFence (dropFenceHead behind) = some (body, rest)) :
    unwrapFences t = front ++ body ++ unwrapFences rest := by
  rw [unwrapFences]
  split
  · next heq =>
    rw [h] at heq
    cases heq
  · next front' behind' heq =>
    rw [h] at heq
    cases heq
    split
    · next hnone =>
      rw [hclosed] at hnone
      cases hnone
    · next body' rest' hsome =>
      rw [hclosed] at hsome
      cases hsome
      rfl

theorem dropFenceMarks_eq_self {t : Text} (h : splitFence t = none) : dropFenceMarks t = t := by
  rw [dropFenceMarks]
  split
  · rfl
  · next front behind heq =>
    rw [h] at heq
    cases heq

/-- The first fence mark goes, together with the words behind it. -/
theorem dropFenceMarks_cons {t front behind : Text} (h : splitFence t = some (front, behind)) :
    dropFenceMarks t = front ++ dropFenceMarks (dropInfo behind) := by
  rw [dropFenceMarks]
  split
  · next heq =>
    rw [h] at heq
    cases heq
  · next front' behind' heq =>
    rw [h] at heq
    cases heq
    rfl

theorem unwrapFences_sublist (t : Text) : (unwrapFences t).Sublist t := by
  fun_induction unwrapFences t with
  | case1 => exact .refl _
  | case2 => exact .refl _
  | case3 t front behind hsplit body rest hclosed ih =>
    have hbody : (body ++ (fence ++ rest)).Sublist behind :=
      eq_of_splitFence hclosed ▸ (dropFenceHead_suffix behind).sublist
    rw [eq_of_splitFence hsplit, List.append_assoc]
    refine List.Sublist.append (.refl _) (.trans ?_ (List.sublist_append_right fence behind))
    exact .trans (.append (.refl _) (ih.trans (List.sublist_append_right fence rest))) hbody

theorem dropFenceMarks_sublist (t : Text) : (dropFenceMarks t).Sublist t := by
  fun_induction dropFenceMarks t with
  | case1 => exact .refl _
  | case2 t front behind hsplit ih =>
    rw [eq_of_splitFence hsplit]
    have hinfo : (dropInfo behind).Sublist behind := (List.dropWhile_suffix _).sublist
    exact .append (.refl _) (ih.trans (hinfo.trans (List.sublist_append_right fence behind)))

theorem not_mem_dropBackticks (t : Text) : '\x60' ∉ dropBackticks t := by
  intro h
  simpa [isBacktick] using (List.mem_filter.mp h).2

theorem dropBackticks_eq_self {t : Text} (h : '\x60' ∉ t) : dropBackticks t = t := by
  refine List.filter_eq_self.mpr fun c hc => ?_
  have hne : c ≠ '\x60' := fun he => h (he ▸ hc)
  simpa [isBacktick] using hne

/-- What is left of an answer when fences and backticks have gone. -/
def unfenced (t : Text) : Text := dropBackticks (dropFenceMarks (unwrapFences t))

theorem unfenced_eq_self {t : Text} (h : '\x60' ∉ t) : unfenced t = t := by
  have hnone := splitFence_of_notMem h
  rw [unfenced, unwrapFences_eq_self hnone, dropFenceMarks_eq_self hnone, dropBackticks_eq_self h]

theorem unfenced_eq_dropBackticks {t : Text} (h : ¬ fence <:+: t) :
    unfenced t = dropBackticks t := by
  have hnone := splitFence_eq_none_iff.mpr h
  rw [unfenced, unwrapFences_eq_self hnone, dropFenceMarks_eq_self hnone]

theorem unfenced_sublist (t : Text) : (unfenced t).Sublist t :=
  List.filter_sublist.trans ((dropFenceMarks_sublist _).trans (unwrapFences_sublist t))

/-! ## Stretches of a text -/

/-- What a text begins with does not reach into what is put behind the text, if its last character
does not occur there. -/
theorem prefix_of_prefix_append {u t back : Text} {c : Char} (h : u ++ [c] <+: t ++ back)
    (hc : c ∉ back) : u ++ [c] <+: t := by
  rcases List.prefix_or_prefix_of_prefix h (List.prefix_append t back) with hp | ⟨more, hmore⟩
  · exact hp
  · rcases List.eq_nil_or_concat more with rfl | ⟨init, d, rfl⟩
    · rw [List.append_nil] at hmore
      rw [hmore]
    · -- the last character would be one of `back`
      have hlast := congrArg List.getLast? hmore
      simp only [List.concat_eq_append, ← List.append_assoc, List.getLast?_concat,
        Option.some.injEq] at hlast
      subst hlast
      rw [← hmore, List.prefix_append_right_inj] at h
      exact absurd (h.mem (by simp)) hc

/-- The same for any stretch of a text. -/
theorem infix_of_infix_append {u t back : Text} {c : Char} (h : u ++ [c] <:+: t ++ back)
    (hc : c ∉ back) : u ++ [c] <:+: t := by
  obtain ⟨front, rest, heq⟩ := h
  have hfront : (front ++ u) ++ [c] <+: t ++ back :=
    ⟨rest, by simpa only [List.append_assoc] using heq⟩
  obtain ⟨rest', ht⟩ := prefix_of_prefix_append hfront hc
  exact ⟨front, rest', by simpa only [List.append_assoc] using ht⟩

/-- A stretch does not reach into what is put in front of a text, if its first character does not
occur there. -/
theorem infix_of_append_infix {w front t : Text} {c : Char} (h : c :: w <:+: front ++ t)
    (hc : c ∉ front) : c :: w <:+: t := by
  have hreversed : w.reverse ++ [c] <:+: t.reverse ++ front.reverse := by
    simpa using List.reverse_infix.mpr h
  have hback := infix_of_infix_append hreversed (by simpa using hc)
  exact List.reverse_infix.mp (by simpa using hback)

/-! ## Openings -/

/-- A text is opened twice in a row: blanks only stand between two opening marks. -/
def IsDoubled (t : Text) : Prop := ∃ gap, AllBlank gap ∧ opening ++ gap ++ opening <:+: t

theorem dropOpening_eq_some_iff {t rest : Text} :
    dropOpening t = some rest ↔ t = opening ++ rest := by
  constructor
  · intro h
    unfold dropOpening at h
    split at h
    · cases h
      rfl
    · cases h
  · rintro rfl
    rfl

theorem trimLeft_opening (rest : Text) : trimLeft (opening ++ rest) = opening ++ rest := rfl

theorem trimLeft_of_opens {t : Text} (h : opening <+: t) : trimLeft t = t := by
  obtain ⟨rest, rfl⟩ := h
  exact trimLeft_opening rest

theorem dropDoubled_eq_some_iff {t rest : Text} :
    dropDoubled t = some rest ↔ ∃ gap, AllBlank gap ∧ t = opening ++ gap ++ opening ++ rest := by
  constructor
  · intro h
    obtain ⟨behind, hbehind, hrest⟩ := Option.bind_eq_some_iff.mp h
    obtain ⟨gap, hgap, hblank⟩ := trimLeft_append behind
    refine ⟨gap, hblank, ?_⟩
    rw [dropOpening_eq_some_iff.mp hbehind, hgap, dropOpening_eq_some_iff.mp hrest]
    simp only [List.append_assoc]
  · rintro ⟨gap, hgap, rfl⟩
    have hfirst : dropOpening (opening ++ gap ++ opening ++ rest)
        = some (gap ++ (opening ++ rest)) := by
      rw [dropOpening_eq_some_iff]
      simp only [List.append_assoc]
    rw [dropDoubled, hfirst, Option.bind_some, trimLeft_blanks hgap, trimLeft_opening,
      dropOpening_eq_some_iff]

theorem isDoubled_of_dropDoubled {t rest : Text} (h : dropDoubled t = some rest) :
    IsDoubled t := by
  obtain ⟨gap, hgap, rfl⟩ := dropDoubled_eq_some_iff.mp h
  exact ⟨gap, hgap, (List.prefix_append _ _).isInfix⟩

theorem IsDoubled.mono {t u : Text} (h : IsDoubled t) (hu : t <:+: u) : IsDoubled u := by
  obtain ⟨gap, hgap, hin⟩ := h
  exact ⟨gap, hgap, hin.trans hu⟩

/-- A text is opened twice in a row exactly if two openings are found from some character on. -/
theorem isDoubled_iff (t : Text) :
    IsDoubled t ↔ ∃ rest ∈ t.tails, (dropDoubled rest).isSome = true := by
  constructor
  · rintro ⟨gap, hgap, front, back, rfl⟩
    refine ⟨opening ++ gap ++ opening ++ back, ?_, ?_⟩
    · rw [List.mem_tails, List.append_assoc front]
      exact List.suffix_append _ _
    · rw [dropDoubled_eq_some_iff.mpr ⟨gap, hgap, rfl⟩, Option.isSome_some]
  · rintro ⟨rest, hrest, hsome⟩
    obtain ⟨behind, hbehind⟩ := Option.isSome_iff_exists.mp hsome
    exact (isDoubled_of_dropDoubled hbehind).mono ((List.mem_tails _ _).mp hrest).isInfix

instance (t : Text) : Decidable (IsDoubled t) := decidable_of_iff' _ (isDoubled_iff t)

theorem mergeOpenings_eq_self {t : Text} (h : ¬ IsDoubled t) : mergeOpenings t = t := by
  induction t with
  | nil => rw [mergeOpenings]
  | cons c rest ih =>
    rw [mergeOpenings]
    split
    · next behind hsome => exact absurd (isDoubled_of_dropDoubled hsome) h
    · rw [ih fun hrest => h (hrest.mono (List.suffix_cons c rest).isInfix)]

/-- Of two openings with blanks between them one is left. -/
theorem mergeOpenings_doubled {gap : Text} (hgap : AllBlank gap) (rest : Text) :
    mergeOpenings (opening ++ gap ++ opening ++ rest) = opening ++ mergeOpenings rest := by
  have hdoubled : dropDoubled ('/' :: ('*' :: '*' :: gap ++ opening ++ rest)) = some rest :=
    dropDoubled_eq_some_iff.mpr ⟨gap, hgap, rfl⟩
  show mergeOpenings ('/' :: ('*' :: '*' :: gap ++ opening ++ rest)) = _
  rw [mergeOpenings]
  split
  · next behind hsome =>
    rw [hdoubled] at hsome
    cases hsome
    rfl
  · next hnone =>
    rw [hdoubled] at hnone
    cases hnone

/-- What stands in front of the first slash is passed over. -/
theorem mergeOpenings_append {front : Text} (h : '/' ∉ front) (t : Text) :
    mergeOpenings (front ++ t) = front ++ mergeOpenings t := by
  induction front with
  | nil => rfl
  | cons c front ih =>
    rw [List.cons_append, mergeOpenings]
    split
    · next behind hsome =>
      obtain ⟨gap, -, heq⟩ := dropDoubled_eq_some_iff.mp hsome
      obtain ⟨rfl, -⟩ := List.cons.inj heq
      exact absurd List.mem_cons_self h
    · rw [ih fun hf => h (List.mem_cons_of_mem c hf), List.cons_append]

/-- Blanks behind a text do not make it opened twice. -/
theorem not_isDoubled_append {t back : Text} (h : ¬ IsDoubled t) (hback : AllBlank back) :
    ¬ IsDoubled (t ++ back) := by
  rintro ⟨gap, hgap, hin⟩
  have hstar : '*' ∉ back := fun hmem => absurd (hback _ hmem) (by decide)
  have hin' : (opening ++ gap ++ ['/', '*']) ++ ['*'] <:+: t ++ back := by
    simpa [opening] using hin
  exact h ⟨gap, hgap, by simpa [opening] using infix_of_infix_append hin' hstar⟩

theorem mergeOpenings_sublist (t : Text) : (mergeOpenings t).Sublist t := by
  fun_induction mergeOpenings t with
  | case1 => exact .refl _
  | case2 c rest behind hsome ih =>
    obtain ⟨gap, -, heq⟩ := dropDoubled_eq_some_iff.mp hsome
    rw [heq, List.append_assoc, List.append_assoc]
    refine List.Sublist.append (.refl _) ?_
    exact (ih.trans (List.sublist_append_right _ _)).trans (List.sublist_append_right _ _)
  | case3 c rest hnone ih => exact ih.cons_cons c

/-! ## The whole -/

theorem core_eq (t : Text) : core t = trim (dropLanguage (mergeOpenings (unfenced t))) := rfl

/-- Behind the third step characters only go. -/
theorem core_sublist_unfenced (t : Text) : (core t).Sublist (unfenced t) :=
  (isInfix_trim _).sublist.trans
    ((dropLanguage_suffix _).sublist.trans (mergeOpenings_sublist _))

/-- Cleaning makes nothing up but the marks that it adds. -/
theorem core_sublist (t : Text) : (core t).Sublist t :=
  (core_sublist_unfenced t).trans (unfenced_sublist t)

theorem not_mem_core (t : Text) : '\x60' ∉ core t := fun h =>
  not_mem_dropBackticks _ ((core_sublist_unfenced t).mem h)

end DocWeave.Comment
