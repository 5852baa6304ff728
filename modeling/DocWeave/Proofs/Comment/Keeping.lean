import DocWeave.Proofs.Comment.Closing
import DocWeave.Proofs.Comment.Merging

/-!
# What cleaning keeps

Cleaning puts marks around what it keeps of an answer, each of them only where it is missing, and
what it keeps stands in the answer in the same order. If no fence is in the answer, what goes can be
told part by part: backticks, a heading, the second one of two openings in a row, and blanks.

* `Merged` — a text and what is left of it where every second opening of a row goes
* `clean_keeps` — what stands around what is kept, and what goes

Merging leaves the blanks at the ends of a text where they are (`trim_mergeOpenings`). So they can
be cut off first, and all other blanks that go stand in front of a second opening.
-/

namespace DocWeave.Comment

open Blank

/-! ## Openings that go -/

/-- A text, and what is left of it: of two openings in a row the second one goes, and the blanks in
front of it. -/
inductive Merged : Text → Text → Prop where
  | nil : Merged [] []
  | doubled {gap t kept : Text} (hgap : AllBlank gap) (h : Merged t kept) :
      Merged (opening ++ gap ++ opening ++ t) (opening ++ kept)
  | single {c : Char} {t kept : Text} (hsingle : ¬ Begins 2 (c :: t)) (h : Merged t kept) :
      Merged (c :: t) (c :: kept)

theorem merged_mergeOpenings (t : Text) : Merged t (mergeOpenings t) := by
  fun_induction mergeOpenings t with
  | case1 => exact .nil
  | case2 c rest behind hsome ih =>
    obtain ⟨gap, hgap, heq⟩ := dropDoubled_eq_some_iff.mp hsome
    rw [heq]
    exact .doubled hgap ih
  | case3 c rest hnone ih => exact .single (dropDoubled_eq_none_iff.mp hnone) ih

/-! ## What goes at the ends -/

/-- An opening at the head of a text is not cut off. -/
theorem opening_prefix_trim {t : Text} (h : opening <+: t) : opening <+: trim t := by
  obtain ⟨back, hback, hblank⟩ := trimRight_append t
  rw [trim, trimLeft_of_opens h]
  have hopening : ['/', '*'] ++ ['*'] <+: trimRight t ++ back := hback ▸ h
  exact prefix_of_prefix_append hopening (AllBlank.notMem hblank (by decide))

/-- A text in parts, of which all but `body` go: blanks, perhaps the name of a language that is
alone on its line or has `body` behind it on the same line, and blanks behind it and at the end. -/
structure IsDivided (t front name line body back : Text) : Prop where
  parts : t = front ++ (name ++ (line ++ (body ++ back)))
  blank : AllBlank front ∧ AllBlank line ∧ AllBlank back
  named : name = [] ∨ IsNameLike name ∧ ('\n' ∈ line ∨ opening <+: body)

theorem isDivided_trim (t : Text) : ∃ front back, IsDivided t front [] [] (trim t) back := by
  obtain ⟨front, back, hfront, hback, ht⟩ := exists_append_trim t
  exact ⟨front, back, by simpa using ht, ⟨hfront, List.forall_mem_nil _, hback⟩, Or.inl rfl⟩

theorem IsHeading.exists_isDivided {front name line rest t : Text}
    (h : IsHeading front name line rest) (ht : mergeOpenings t = rest) :
    ∃ line' back, IsDivided (front ++ (name ++ (line ++ t))) front name line' (trim t) back := by
  obtain ⟨gap, back, hgap, hback, hparts⟩ := exists_append_trim t
  refine ⟨line ++ gap, back, ?_, ⟨h.blank, h.lineRest.allBlank.append hgap, hback⟩,
    Or.inr ⟨h.named, ?_⟩⟩
  · conv_lhs => rw [hparts]
    simp only [List.append_assoc]
  · refine h.ends.imp (List.mem_append_left _) fun hopening => ?_
    rw [← ht, opening_prefix_mergeOpenings_iff] at hopening
    exact opening_prefix_trim hopening

/-- Of a text without fences and backticks one part is kept, but for its second openings. -/
theorem exists_isDivided (t : Text) : ∃ front name line body back,
    IsDivided t front name line body back
      ∧ trim (dropLanguage (mergeOpenings t)) = mergeOpenings body := by
  rcases dropLanguage_cases (mergeOpenings t) with hself | ⟨front, name, line, hheading, heq⟩
  · obtain ⟨front, back, hdivided⟩ := isDivided_trim t
    exact ⟨front, [], [], trim t, back, hdivided, by rw [hself, trim_mergeOpenings]⟩
  · -- no slash is in the heading, so that it stood in front of the openings that were merged
    rw [← List.append_assoc, ← List.append_assoc, List.append_assoc front] at heq
    obtain ⟨behind, rfl, hbehind⟩ := exists_of_mergeOpenings_eq heq hheading.notMem
    obtain ⟨line', back, hdivided⟩ := hheading.exists_isDivided hbehind
    refine ⟨front, name, line', trim behind, back, ?_, ?_⟩
    · simpa only [List.append_assoc] using hdivided
    · rw [← hbehind, trim_mergeOpenings]

/-! ## The whole -/

/--
What cleaning gives is what it keeps of an answer, with each mark that is missing around it. What is
kept stands in the answer in the same order. Where no three backticks stand in a row in the answer,
nothing but these goes: backticks; at the ends blanks and one name of a language; and of two
openings in a row the second one, with the blanks in front of it.
-/
theorem clean_keeps (answer : Text) :
    (∃ front back, clean answer = front ++ core answer ++ back
        ∧ (opening <+: core answer ∧ front = []
          ∨ ¬ opening <+: core answer ∧ front = opening ++ ['\n'])
        ∧ (closing <:+ front ++ core answer ∧ back = []
          ∨ ¬ closing <:+ front ++ core answer ∧ back = ['\n', ' '] ++ closing))
      ∧ (core answer).Sublist answer
      ∧ (¬ fence <:+: answer → ∃ front name line body back,
        IsDivided (answer.filter (· != '\x60')) front name line body back
          ∧ Merged body (core answer)) := by
  refine ⟨exists_enclose (core answer), core_sublist answer, fun hfence => ?_⟩
  have hunfenced : unfenced answer = answer.filter (· != '\x60') :=
    unfenced_eq_dropBackticks hfence
  obtain ⟨front, name, line, body, back, hdivided, hcore⟩ := exists_isDivided (unfenced answer)
  rw [← core_eq] at hcore
  exact ⟨front, name, line, body, back, hunfenced ▸ hdivided, hcore ▸ merged_mergeOpenings body⟩

/-- A name in front of a block that is opened twice, with single backticks in all three. -/
theorem clean_keeps_ticked :
    let answer := " TypeScr\x60ipt\n\n/*\x60* /**\n * Adds \x60a\x60 to b. */ ".toList
    ¬ fence <:+: answer ∧ core answer = "/**\n * Adds a to b. */".toList
      ∧ ∃ front name line body back,
        IsDivided (answer.filter (· != '\x60')) front name line body back
          ∧ Merged body (core answer) := by
  intro answer
  have hfence : ¬ fence <:+: answer := by decide
  exact ⟨hfence, by decide +kernel, (clean_keeps answer).2.2 hfence⟩

end DocWeave.Comment
