import DocWeave.Proofs.Comment.Acceptance
import DocWeave.Proofs.Comment.Merging

/-!
# Hollow answers

An answer is hollow if nothing is left of it but blanks, and perhaps the name of a language, when
fence marks and backticks are taken away. Whether something was answered at all is asked of the
answer as it came, and not of what cleaning leaves of it. So a hollow answer that is not blank is
accepted, and what there is of its comment are the marks that were added.

* `accept_of_isHollow` — every hollow answer that is not blank is accepted
* `core_eq_nil_iff` — the answers of which cleaning leaves nothing
* `isHollow_of_core_eq_nil` — these are hollow

There is no star in a hollow answer (`IsHollow.notMem`). So both marks are added, and the closing
one is the first one behind the opening.
-/

namespace DocWeave.Comment

open Blank

/-! ## What is hollow -/

/-- The second text is left of the first one when fence marks, each with the words and the blanks
behind it, and backticks have been taken away, in any order. -/
inductive Strips : Text → Text → Prop where
  | refl (t : Text) : Strips t t
  | mark {front info gap back left : Text} (hinfo : ∀ c ∈ info, isInfo c = true)
      (hgap : AllBlank gap) (h : Strips (front ++ back) left) :
      Strips (front ++ (fence ++ (info ++ (gap ++ back)))) left
  | backtick {front back left : Text} (h : Strips (front ++ back) left) :
      Strips (front ++ '\x60' :: back) left

/-- Nothing is left of an answer but blanks, and perhaps the name of a language among them. -/
def IsHollow (answer : Text) : Prop :=
  ∃ left, Strips answer left ∧ (AllBlank left
    ∨ ∃ front name back, left = front ++ (name ++ back) ∧ AllBlank front ∧ IsNameLike name
      ∧ AllBlank back)

variable {answer t u v front core : Text}

theorem Strips.notMem {c : Char} (h : Strips t u) (hu : c ∉ u) (hinfo : isInfo c = false)
    (hblank : isBlank c = false) (htick : c ≠ '\x60') : c ∉ t := by
  induction h with
  | refl => exact hu
  | @mark front info gap back left hwords hgap _ ih =>
    have hnot := ih hu
    have hfence : c ∉ fence := by simp [fence, htick]
    have hwords : c ∉ info := fun hc => by simpa [hinfo] using hwords c hc
    simp only [List.mem_append, not_or] at hnot ⊢
    exact ⟨hnot.1, hfence, hwords, hgap.notMem hblank, hnot.2⟩
  | backtick _ ih =>
    have hnot := ih hu
    simp only [List.mem_append, List.mem_cons, not_or] at hnot ⊢
    exact ⟨hnot.1, htick, hnot.2⟩

theorem IsHollow.notMem (h : IsHollow answer) : '*' ∉ answer := by
  obtain ⟨left, hstrips, hleft⟩ := h
  refine hstrips.notMem ?_ (by decide +kernel) (by decide) (by decide)
  rcases hleft with hblank | ⟨front, name, back, rfl, hfront, hname, hback⟩
  · exact hblank.notMem (by decide)
  · rw [List.mem_append, List.mem_append, not_or, not_or]
    exact ⟨hfront.notMem (by decide), hname.notMem (by decide) (by decide),
      hback.notMem (by decide)⟩

/-! ## Comments without stars -/

/-- A text between marks that have been added, each on a line of its own. -/
def framed (core : Text) : Text := opening ++ ['\n'] ++ core ++ (['\n', ' '] ++ closing)

theorem enclose_of_notMem (h : '*' ∉ core) : enclose core = framed core := by
  obtain ⟨front, back, heq, hfront, hback⟩ := exists_enclose core
  have hopening : ¬ opening <+: core := fun hp => h (hp.mem (by decide))
  obtain ⟨-, rfl⟩ := hfront.resolve_left fun hp => hopening hp.1
  have hclosing : ¬ closing <:+ opening ++ ['\n'] ++ core := by
    intro hs
    have hassoc : opening ++ ['\n'] ++ core = opening ++ '\n' :: core := by simp
    rw [hassoc] at hs
    -- the mark is in the text behind the opening, or begins in the opening
    rcases List.suffix_or_suffix_of_suffix hs (List.suffix_append _ _) with hin | ⟨w, hw⟩
    · have hmem : '*' ∈ '\n' :: core := hin.mem (by decide)
      exact h (List.mem_of_ne_of_mem (by decide) hmem)
    · have hline : '\n' ∈ closing := hw ▸ List.mem_append_right w List.mem_cons_self
      exact absurd hline (by decide)
  obtain ⟨-, rfl⟩ := hback.resolve_left fun hs => hclosing hs.1
  exact heq

theorem closingIndex?_append_closing (h : '*' ∉ front) :
    closingIndex? (front ++ closing) = some front.length := by
  refine closingIndex?_eq_some_iff.mpr ⟨?_, fun i hi hp => ?_⟩
  · rw [List.drop_left]
  · -- such a mark would begin with a star in front of the last one
    obtain ⟨c, more, hmore⟩ := List.exists_cons_of_ne_nil
      (List.length_pos_iff.mp (by rw [List.length_drop]; omega) : front.drop i ≠ [])
    rw [List.drop_append_of_le_length hi.le, hmore] at hp
    obtain ⟨rest, hrest⟩ := hp
    have hstar : '*' = c := (List.cons.inj hrest).1
    exact h (List.mem_of_mem_drop (i := i) (hmore ▸ hstar ▸ List.mem_cons_self))

theorem closesAtEnd_framed (h : '*' ∉ core) : closesAtEnd (framed core) = true := by
  have hbehind : '*' ∉ '\n' :: (core ++ ['\n', ' ']) := by simp [h]
  have hdrop : (framed core).drop 2 = '*' :: ('\n' :: (core ++ ['\n', ' ']) ++ closing) := by
    simp [framed, opening, closing]
  refine closesAtEnd_iff.mpr ⟨core.length + 4, ?_, ?_⟩
  · rw [hdrop, closingIndex?, if_neg (by simp [closing]), closingIndex?_append_closing hbehind]
    simp
  · simp [framed, opening, closing]

theorem IsHollow.notMem_core (h : IsHollow answer) : '*' ∉ Comment.core answer := fun hc =>
  h.notMem ((core_sublist answer).mem hc)

theorem IsHollow.clean_eq (h : IsHollow answer) : clean answer = framed (Comment.core answer) :=
  enclose_of_notMem h.notMem_core

/-- A hollow answer is accepted if it is not blank. -/
theorem accept_of_isHollow (h : IsHollow answer) (hsaid : IsSaid answer) :
    accept answer = .ok (framed (Comment.core answer)) := by
  rw [accept_of_isSaid hsaid, h.clean_eq, if_pos (closesAtEnd_framed h.notMem_core)]

/-! ## Answers of which nothing is left -/

/-- Nothing stands in a text but blanks, or a heading and blanks. -/
def IsVoid (t : Text) : Prop :=
  AllBlank t ∨ ∃ front name line back, IsHeading front name line back ∧ AllBlank back
    ∧ t = front ++ (name ++ (line ++ back))

theorem IsVoid.notMem (h : IsVoid t) : '/' ∉ t := by
  rcases h with hblank | ⟨front, name, line, back, hheading, hback, rfl⟩
  · exact hblank.notMem (by decide)
  · have hslash : '/' ∉ (front ++ (name ++ line)) ++ back := by
      rw [List.mem_append, not_or]
      exact ⟨hheading.notMem, hback.notMem (by decide)⟩
    simpa only [List.append_assoc] using hslash

theorem allBlank_dropLanguage_iff : AllBlank (dropLanguage t) ↔ IsVoid t := by
  constructor
  · intro h
    rcases dropLanguage_cases t with hself | ⟨front, name, line, hheading, heq⟩
    · rw [hself] at h
      exact Or.inl h
    · exact Or.inr ⟨front, name, line, _, hheading, h, heq⟩
  · rintro (hblank | ⟨front, name, line, back, hheading, hback, rfl⟩)
    · exact fun c hc => hblank c ((dropLanguage_suffix t).subset hc)
    · rwa [dropLanguage_heading hheading]

/-- Nothing is left of an answer exactly if there is nothing but blanks, or a heading and blanks,
when fences and backticks have gone. -/
theorem core_eq_nil_iff : Comment.core answer = [] ↔ IsVoid (unfenced answer) := by
  rw [core_eq, trim_eq_nil_iff]
  refine Iff.trans allBlank_dropLanguage_iff ?_
  constructor
  · intro h
    rwa [mergeOpenings_of_notMem (notMem_of_mergeOpenings h.notMem)] at h
  · intro h
    rwa [mergeOpenings_of_notMem h.notMem]

/-! ## What the first steps take away -/

theorem Strips.trans (h : Strips t u) (h' : Strips u v) : Strips t v := by
  induction h with
  | refl => exact h'
  | mark hinfo hgap _ ih => exact .mark hinfo hgap (ih h')
  | backtick _ ih => exact .backtick (ih h')

theorem Strips.append_left (p : Text) (h : Strips t u) : Strips (p ++ t) (p ++ u) := by
  induction h with
  | refl => exact .refl _
  | mark hinfo hgap _ ih =>
    rw [← List.append_assoc] at ih ⊢
    exact .mark hinfo hgap ih
  | backtick _ ih =>
    rw [← List.append_assoc] at ih ⊢
    exact .backtick ih

theorem exists_dropInfo (t : Text) :
    ∃ info, (∀ c ∈ info, isInfo c = true) ∧ t = info ++ dropInfo t :=
  ⟨t.takeWhile isInfo, List.all_eq_true.mp List.all_takeWhile,
    List.takeWhile_append_dropWhile.symm⟩

/-- Words and blanks go behind a mark at which a fence is opened. -/
theorem exists_dropFenceHead (t : Text) : ∃ info gap, (∀ c ∈ info, isInfo c = true)
    ∧ AllBlank gap ∧ t = info ++ (gap ++ dropFenceHead t) := by
  obtain ⟨info, hinfo, ht⟩ := exists_dropInfo t
  have hspaces : AllBlank ((dropInfo t).takeWhile isSpaceOrTab) := by
    intro c hc
    have hspace := List.all_eq_true.mp List.all_takeWhile c hc
    rcases isSpaceOrTab_cases hspace with rfl | rfl <;> decide
  obtain ⟨gap, hgap, hbreak⟩ : ∃ gap, AllBlank gap
      ∧ (dropInfo t).dropWhile isSpaceOrTab = gap ++ dropFenceHead t := by
    rw [dropFenceHead]
    unfold dropBreak
    split
    · exact ⟨['\r', '\n'], List.all_eq_true.mp (by decide), ‹_›⟩
    · exact ⟨['\r'], List.all_eq_true.mp (by decide), ‹_›⟩
    · exact ⟨['\n'], List.all_eq_true.mp (by decide), ‹_›⟩
    · exact ⟨[], List.forall_mem_nil _, rfl⟩
  refine ⟨info, _, hinfo, hspaces.append hgap, ?_⟩
  rw [List.append_assoc, ← hbreak, List.takeWhile_append_dropWhile, ← ht]

theorem strips_unwrapFences (t : Text) : Strips t (unwrapFences t) := by
  fun_induction unwrapFences t with
  | case1 => exact .refl _
  | case2 => exact .refl _
  | case3 t front behind hsplit body rest hclosed ih =>
    obtain ⟨info, gap, hinfo, hgap, hbehind⟩ := exists_dropFenceHead behind
    -- the closing mark goes alone, the opening one with the words and blanks behind it
    have hrest : Strips ((front ++ body) ++ (fence ++ ([] ++ ([] ++ rest))))
        ((front ++ body) ++ unwrapFences rest) :=
      .mark (List.forall_mem_nil _) (List.forall_mem_nil _) (ih.append_left _)
    rw [List.append_assoc] at hrest
    rw [eq_of_splitFence hsplit, hbehind, eq_of_splitFence hclosed]
    exact .mark hinfo hgap hrest

theorem strips_dropFenceMarks (t : Text) : Strips t (dropFenceMarks t) := by
  fun_induction dropFenceMarks t with
  | case1 => exact .refl _
  | case2 t front behind hsplit ih =>
    obtain ⟨info, hinfo, hbehind⟩ := exists_dropInfo behind
    have hmark : Strips (front ++ (fence ++ (info ++ ([] ++ dropInfo behind))))
        (front ++ dropFenceMarks (dropInfo behind)) :=
      .mark hinfo (List.forall_mem_nil _) (ih.append_left front)
    rw [List.nil_append, ← hbehind] at hmark
    rw [eq_of_splitFence hsplit]
    exact hmark

theorem strips_dropBackticks (t : Text) : Strips t (dropBackticks t) := by
  induction t with
  | nil => exact .refl _
  | cons c t ih =>
    rw [dropBackticks, List.filter_cons]
    split
    · exact ih.append_left [c]
    · next htick =>
      obtain rfl : c = '\x60' := by simpa [isBacktick] using htick
      have htaken : Strips ([] ++ '\x60' :: t) (dropBackticks t) := .backtick ih
      exact htaken

theorem strips_unfenced (t : Text) : Strips t (unfenced t) :=
  (strips_unwrapFences t).trans ((strips_dropFenceMarks _).trans (strips_dropBackticks _))

/-- An answer of which nothing is left is hollow. -/
theorem isHollow_of_core_eq_nil (h : Comment.core answer = []) : IsHollow answer := by
  refine ⟨unfenced answer, strips_unfenced answer, ?_⟩
  rcases core_eq_nil_iff.mp h with hblank | ⟨front, name, line, back, hheading, hback, heq⟩
  · exact Or.inl hblank
  · exact Or.inr ⟨front, name, line ++ back, heq, hheading.blank, hheading.named,
      hheading.lineRest.allBlank.append hback⟩

end DocWeave.Comment
