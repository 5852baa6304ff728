import DocWeave.Proofs.Comment.Acceptance

/-!
# Blocks that come wrapped

Models are told to answer with a comment block and nothing else, and put something around it all the
same. Cleaning takes this away and leaves the block as it was, whatever stands in it.

* `Wraps` — the ways in which a block comes wrapped
* `clean_wrapped` — cleaning gives the block back

A block is only given back if cleaning would not change it by itself (`IsTidy`). The steps go by
marks that such a block does not hold, so that what they find is the wrapping.
-/

namespace DocWeave.Comment

open Blank

/-! ## Blocks and their wrappings -/

/-- A block in which cleaning finds nothing to take away or to add. -/
structure IsTidy (block : Text) : Prop where
  opens : opening <+: block
  closes : closing <:+ block
  backtick : '\x60' ∉ block
  doubled : ¬ IsDoubled block

/-- The texts in which a block comes wrapped. -/
inductive Wraps (block : Text) : Text → Prop where
  | alone : Wraps block block
  | fenced {info line gap : Text} (hinfo : ∀ c ∈ info, isInfo c = true) (hline : IsLineRest line)
      (hgap : AllBlank gap) : Wraps block (fence ++ info ++ line ++ block ++ gap ++ fence)
  /-- The fence is not closed. -/
  | unclosed {info line : Text} (hinfo : ∀ c ∈ info, isInfo c = true) (hline : IsLineRest line) :
      Wraps block (fence ++ info ++ line ++ block)
  /-- The name of a language stands in front. -/
  | named {name line : Text} (hname : IsName name) (hline : IsLineRest line) :
      Wraps block (name ++ line ++ block)
  /-- The block is opened twice. -/
  | reopened {gap : Text} (hgap : AllBlank gap) : Wraps block (opening ++ gap ++ block)

variable {block front back info name line gap rest : Text}

/-! ## Rests of lines -/

/-- Behind spaces and tabs stands the end of the line, or the block. -/
theorem IsLineRest.exists_dropWhile (h : IsLineRest line) (hrest : opening <+: rest) :
    ∃ lineEnd ∈ lineEnds, (line ++ rest).dropWhile isSpaceOrTab = lineEnd ++ rest := by
  obtain ⟨spaces, lineEnd, rfl, hspaces, hend⟩ := h
  refine ⟨lineEnd, hend, ?_⟩
  rw [List.append_assoc, List.dropWhile_append_of_pos hspaces]
  obtain ⟨more, rfl⟩ := hrest
  rcases lineEnds_cases hend with rfl | rfl | rfl <;> rfl

theorem dropInfo_append (hinfo : ∀ c ∈ info, isInfo c = true)
    (hrest : ∀ c ∈ rest.head?, c ∈ nameEnds) : dropInfo (info ++ rest) = rest := by
  have hall : nameEnds.all (fun c => !isInfo c) = true := by decide
  rw [dropInfo, List.dropWhile_append_of_pos hinfo]
  cases rest with
  | nil => rfl
  | cons c rest =>
    have hc := List.all_eq_true.mp hall c (hrest c rfl)
    rw [List.dropWhile_cons_of_neg (by simpa using hc)]

/-- The line on which a fence is opened is passed over up to the block. -/
theorem dropFenceHead_append (hinfo : ∀ c ∈ info, isInfo c = true) (hline : IsLineRest line)
    (hrest : opening <+: rest) : dropFenceHead (info ++ (line ++ rest)) = rest := by
  obtain ⟨lineEnd, hend, hdrop⟩ := hline.exists_dropWhile hrest
  rw [dropFenceHead, dropInfo_append hinfo (hline.head?_append (Or.inr hrest)), hdrop]
  obtain ⟨more, rfl⟩ := hrest
  rcases lineEnds_cases hend with rfl | rfl | rfl <;> rfl

/-! ## Blocks among blanks -/

theorem IsTidy.opening_prefix_append (hb : IsTidy block) (back : Text) :
    opening <+: block ++ back := hb.opens.trans (List.prefix_append _ _)

theorem IsTidy.notMem_append (hb : IsTidy block) (hback : AllBlank back) :
    '\x60' ∉ block ++ back := by
  rw [List.mem_append, not_or]
  exact ⟨hb.backtick, hback.notMem (by decide)⟩

theorem IsTidy.notMem_among (hb : IsTidy block) (hfront : '\x60' ∉ front) (hback : AllBlank back) :
    '\x60' ∉ front ++ (block ++ back) := by
  rw [List.mem_append, not_or]
  exact ⟨hfront, hb.notMem_append hback⟩

theorem IsTidy.mergeOpenings_among (hb : IsTidy block) (hfront : '/' ∉ front)
    (hback : AllBlank back) :
    mergeOpenings (front ++ (block ++ back)) = front ++ (block ++ back) := by
  rw [mergeOpenings_append hfront, mergeOpenings_eq_self (not_isDoubled_append hb.doubled hback)]

/-- No language's name is found in front of an opening. -/
theorem dropLanguage_opened (hfront : AllBlank front) (hrest : opening <+: rest) :
    dropLanguage (front ++ rest) = front ++ rest := by
  refine dropLanguage_eq_self ?_
  rw [trimLeft_blanks hfront, trimLeft_of_opens hrest]
  exact head?_opening hrest

theorem enclose_eq_self (ho : opening <+: block) (hc : closing <:+ block) :
    enclose block = block := by
  have hopens : opens block = true := List.isPrefixOf_iff_prefix.mpr ho
  have hcloses : closes block = true := List.isSuffixOf_iff_suffix.mpr hc
  simp [enclose, hopens, hcloses]

/-- What the first five steps leave among blanks is what cleaning gives, if both marks are there. -/
theorem clean_eq_of_marks {answer : Text} (ho : opening <+: block) (hc : closing <:+ block)
    (hfront : AllBlank front) (hback : AllBlank back)
    (h : dropLanguage (mergeOpenings (unfenced answer)) = front ++ (block ++ back)) :
    clean answer = block := by
  rw [clean, core_eq, h, ← List.append_assoc, trim_between_of_marks hfront hback ho hc,
    enclose_eq_self ho hc]

/-- Once fences and backticks have gone, a block among blanks is what cleaning gives. -/
theorem IsTidy.clean_eq_of_unfenced {answer : Text} (hb : IsTidy block) (hfront : AllBlank front)
    (hback : AllBlank back) (h : unfenced answer = front ++ (block ++ back)) :
    clean answer = block := by
  refine clean_eq_of_marks hb.opens hb.closes hfront hback ?_
  rw [h, hb.mergeOpenings_among (hfront.notMem (by decide)) hback,
    dropLanguage_opened hfront (hb.opening_prefix_append back)]

/-! ## Every wrapping -/

theorem clean_alone (hb : IsTidy block) (hfront : AllBlank front) (hback : AllBlank back) :
    clean (front ++ (block ++ back)) = block := by
  refine hb.clean_eq_of_unfenced hfront hback (unfenced_eq_self ?_)
  exact hb.notMem_among (hfront.notMem (by decide)) hback

theorem clean_fenced (hb : IsTidy block) (hinfo : ∀ c ∈ info, isInfo c = true)
    (hline : IsLineRest line) (hgap : AllBlank gap) (hfront : AllBlank front)
    (hback : AllBlank back) :
    clean (front ++ (fence ++ (info ++ (line ++ (block ++ (gap ++ (fence ++ back)))))))
      = block := by
  have hsplit := splitFence_fence (hfront.notMem (by decide))
    (info ++ (line ++ (block ++ (gap ++ (fence ++ back)))))
  have hclosed : splitFence (dropFenceHead (info ++ (line ++ (block ++ (gap ++ (fence ++ back))))))
      = some (block ++ gap, back) := by
    rw [dropFenceHead_append hinfo hline (hb.opening_prefix_append _), ← List.append_assoc block,
      splitFence_fence (hb.notMem_append hgap)]
  have hnone : splitFence back = none := splitFence_of_notMem (hback.notMem (by decide))
  have hleft : '\x60' ∉ front ++ (block ++ (gap ++ back)) :=
    hb.notMem_among (hfront.notMem (by decide)) (hgap.append hback)
  refine hb.clean_eq_of_unfenced hfront (hgap.append hback) ?_
  rw [unfenced, unwrapFences_closed hsplit hclosed, unwrapFences_eq_self hnone,
    List.append_assoc front, List.append_assoc block,
    dropFenceMarks_eq_self (splitFence_of_notMem hleft), dropBackticks_eq_self hleft]

theorem clean_unclosed (hb : IsTidy block) (hinfo : ∀ c ∈ info, isInfo c = true)
    (hline : IsLineRest line) (hfront : AllBlank front) (hback : AllBlank back) :
    clean (front ++ (fence ++ (info ++ (line ++ (block ++ back))))) = block := by
  have hopens := hb.opening_prefix_append back
  have hsplit := splitFence_fence (hfront.notMem (by decide)) (info ++ (line ++ (block ++ back)))
  have hopen : splitFence (dropFenceHead (info ++ (line ++ (block ++ back)))) = none := by
    rw [dropFenceHead_append hinfo hline hopens]
    exact splitFence_of_notMem (hb.notMem_append hback)
  have hbehind : splitFence (line ++ (block ++ back)) = none :=
    splitFence_of_notMem (hb.notMem_among (hline.allBlank.notMem (by decide)) hback)
  have hblank : AllBlank (front ++ line) := hfront.append hline.allBlank
  refine hb.clean_eq_of_unfenced hblank hback ?_
  rw [unfenced, unwrapFences_opened hsplit hopen, dropFenceMarks_cons hsplit,
    dropInfo_append hinfo (hline.head?_append (Or.inr hopens)), dropFenceMarks_eq_self hbehind,
    ← List.append_assoc front,
    dropBackticks_eq_self (hb.notMem_among (hblank.notMem (by decide)) hback)]

theorem clean_named (hb : IsTidy block) (hname : IsName name) (hline : IsLineRest line)
    (hfront : AllBlank front) (hback : AllBlank back) :
    clean (front ++ (name ++ (line ++ (block ++ back)))) = block := by
  have hheading : IsHeading front name line (block ++ back) :=
    ⟨hfront, hname.like, hline, Or.inr (hb.opening_prefix_append back)⟩
  have hassoc : front ++ (name ++ (line ++ (block ++ back)))
      = (front ++ (name ++ line)) ++ (block ++ back) := by
    simp only [List.append_assoc]
  have htick : '\x60' ∉ front ++ (name ++ line) := by
    have hnot : '\x60' ∉ name := fun hc => by simpa using hname.isLower _ hc
    rw [List.mem_append, List.mem_append, not_or, not_or]
    exact ⟨hfront.notMem (by decide), hnot, hline.allBlank.notMem (by decide)⟩
  have hunfenced := unfenced_eq_self (hb.notMem_among htick hback)
  have hmerged := hb.mergeOpenings_among hheading.notMem hback
  refine clean_eq_of_marks hb.opens hb.closes (List.forall_mem_nil _) hback ?_
  rw [hassoc, hunfenced, hmerged, ← hassoc, dropLanguage_heading hheading, List.nil_append]

theorem clean_reopened (hb : IsTidy block) (hgap : AllBlank gap) (hfront : AllBlank front)
    (hback : AllBlank back) : clean (front ++ (opening ++ (gap ++ (block ++ back)))) = block := by
  have hahead : '\x60' ∉ front ++ (opening ++ gap) := by
    rw [List.mem_append, List.mem_append, not_or, not_or]
    exact ⟨hfront.notMem (by decide), by decide, hgap.notMem (by decide)⟩
  have hunfenced := unfenced_eq_self (hb.notMem_among hahead hback)
  simp only [List.append_assoc] at hunfenced
  have hmerged : mergeOpenings (front ++ (opening ++ (gap ++ (block ++ back))))
      = front ++ (block ++ back) := by
    obtain ⟨inner, rfl⟩ := hb.opens
    have hinner : ¬ IsDoubled (inner ++ back) := fun h =>
      not_isDoubled_append hb.doubled hback (h.mono ⟨opening, [], by simp⟩)
    have hdoubled := mergeOpenings_doubled hgap (inner ++ back)
    simp only [mergeOpenings_eq_self hinner, List.append_assoc] at hdoubled
    rw [mergeOpenings_append (hfront.notMem (by decide)), List.append_assoc, hdoubled]
  refine clean_eq_of_marks hb.opens hb.closes hfront hback ?_
  rw [hunfenced, hmerged, dropLanguage_opened hfront (hb.opening_prefix_append back)]

/-- A tidy block that comes wrapped, with any blanks around, is given back by cleaning. -/
theorem clean_wrapped {t : Text} (hb : IsTidy block) (ht : Wraps block t)
    (hfront : AllBlank front) (hback : AllBlank back) : clean (front ++ t ++ back) = block := by
  cases ht with
  | alone => simpa only [List.append_assoc] using clean_alone hb hfront hback
  | fenced hinfo hline hgap =>
    simpa only [List.append_assoc] using clean_fenced hb hinfo hline hgap hfront hback
  | unclosed hinfo hline =>
    simpa only [List.append_assoc] using clean_unclosed hb hinfo hline hfront hback
  | named hname hline =>
    simpa only [List.append_assoc] using clean_named hb hname hline hfront hback
  | reopened hgap => simpa only [List.append_assoc] using clean_reopened hb hgap hfront hback

/-- A block in a fence of another language whose line ends with two characters, and a block right
behind a name that begins with another name. -/
theorem clean_wrapped_jsdoc :
    let block := "/** Adds a to b. */".toList
    let fenced := "\x60\x60\x60c++ \r\n/** Adds a to b. */\n\x60\x60\x60".toList
    let named := "JSDoc/** Adds a to b. */".toList
    IsTidy block ∧ Wraps block fenced ∧ clean ("\n".toList ++ fenced ++ " ".toList) = block
      ∧ Wraps block named ∧ clean ("\t".toList ++ named ++ []) = block := by
  intro block fenced named
  have hb : IsTidy block := ⟨by decide, by decide, by decide, by decide⟩
  have hline : IsLineRest " \r\n".toList :=
    ⟨[' '], ['\r', '\n'], rfl, List.all_eq_true.mp (by decide), by decide⟩
  have hfenced : Wraps block (fence ++ "c++".toList ++ " \r\n".toList ++ block ++ "\n".toList
      ++ fence) :=
    .fenced (List.all_eq_true.mp (by decide)) hline (List.all_eq_true.mp (by decide))
  have hname : IsName "JSDoc".toList := show _ ∈ languageNames by decide
  have hnamed : Wraps block ("JSDoc".toList ++ [] ++ block) :=
    .named hname ⟨[], [], rfl, List.forall_mem_nil _, by decide⟩
  refine ⟨hb, hfenced, clean_wrapped hb hfenced ?_ ?_, hnamed, clean_wrapped hb hnamed ?_ ?_⟩
  · exact List.all_eq_true.mp (by decide)
  · exact List.all_eq_true.mp (by decide)
  · exact List.all_eq_true.mp (by decide)
  · exact List.forall_mem_nil _

end DocWeave.Comment
