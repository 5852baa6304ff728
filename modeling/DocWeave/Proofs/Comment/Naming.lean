import DocWeave.Comment.Cleaning
import Mathlib.Data.List.Forall2
import Mathlib.Data.List.Infix

/-!
# Names of languages in front of a block

A language's name at the head of an answer goes if nothing else stands on its line, or nothing but
the block. Everything that goes is told by `IsHeading`: blanks, the name, and what is left of its
line.

* `dropLanguage_heading` — a heading goes, whatever stands behind it
* `dropLanguage_cases` — nothing goes but a heading

No character that can stand behind a name stands in one (`IsNameLike.notMem_nameEnds`). So there is
no other place at which a name can end, and a name that begins with another one, such as `jsdoc`, is
not taken for it.
-/

namespace DocWeave.Comment

open Blank

/-! ## Letters -/

/-- The characters that can stand behind a language's name. -/
def nameEnds : Text := [' ', '\t', '\n', '\r', '/']

/-- Characters outside of the alphabet that count as one of its letters. -/
def likeLetters : Text := ['\u017f', '\u0130', '\u0131']

theorem isLetter_of_notMem (letter : Char) {c : Char} (h : c ∉ likeLetters) :
    isLetter letter c = (c.toLower == letter) := by
  have hne : ∀ d ∈ likeLetters, (c == d) = false := by
    intro d hd
    refine beq_eq_false_iff_ne.mpr ?_
    rintro rfl
    exact h hd
  simp [isLetter, hne '\u017f' (by decide), hne '\u0130' (by decide), hne '\u0131' (by decide)]

/-- A character counts as the small letter that it is, in capitals or not. -/
theorem isLetter_toLower (c : Char) : isLetter c.toLower c = true := by
  simp [isLetter]

theorem toNat_of_letter {c : Char} (h : c.toLower.isLower = true) :
    65 ≤ c.toNat ∧ c.toNat ≤ 122 := by
  obtain ⟨hleast, hmost⟩ := Bool.and_eq_true_iff.mp h
  have hleast : 97 ≤ c.toLower.toNat := of_decide_eq_true hleast
  have hmost : c.toLower.toNat ≤ 122 := of_decide_eq_true hmost
  unfold Char.toLower at hleast hmost
  split at hleast
  · next hupper =>
    have hlow : 65 ≤ c.toNat := hupper.1
    have hhigh : c.toNat ≤ 90 := hupper.2
    omega
  · next hupper =>
    rw [dif_neg hupper] at hmost
    omega

theorem isBlank_letter {c : Char} (h : c.toLower.isLower = true) : isBlank c = false := by
  obtain ⟨hlow, hhigh⟩ := toNat_of_letter h
  have hall : ∀ n < 123, 65 ≤ n → isBlank (Char.ofNat n) = false := by decide
  have hc := hall c.toNat (by omega) hlow
  rwa [Char.ofNat_toNat] at hc

/-! ## Names -/

/-- A language's name, in capitals or not. -/
def IsName (name : Text) : Prop := name.map Char.toLower ∈ languageNames

/-- A language's name whose letters are the ones that count as such, outside of the alphabet too. -/
def IsNameLike (name : Text) : Prop :=
  ∃ word ∈ languageNames, List.Forall₂ (fun letter c => isLetter letter c = true) word name

variable {t front name line rest : Text}

theorem isLower_of_mem_languageNames {name : Text} (h : name ∈ languageNames) :
    ∀ c ∈ name, c.isLower = true := by
  have hall : languageNames.all (fun name => name.all Char.isLower) = true := by decide
  exact List.all_eq_true.mp (List.all_eq_true.mp hall name h)

theorem ne_nil_of_mem_languageNames : ∀ name ∈ languageNames, name ≠ [] := by decide

theorem IsName.isLower (h : IsName name) : ∀ c ∈ name, c.toLower.isLower = true := fun c hc =>
  isLower_of_mem_languageNames h c.toLower (List.mem_map_of_mem hc)

theorem IsName.like (h : IsName name) : IsNameLike name := by
  refine ⟨_, h, List.forall₂_map_left_iff.mpr (List.forall₂_same.mpr fun c _ => ?_)⟩
  exact isLetter_toLower c

/-- A name consists of letters of the alphabet and of characters that count as such. -/
theorem IsNameLike.letters (h : IsNameLike name) :
    ∀ c ∈ name, c ∈ likeLetters ∨ c.toLower.isLower = true := by
  obtain ⟨word, hword, hletters⟩ := h
  have hlower := isLower_of_mem_languageNames hword
  clear hword
  induction hletters with
  | nil => simp
  | @cons letter c word name hc _ ih =>
    rw [List.forall_mem_cons] at hlower ⊢
    refine ⟨or_iff_not_imp_left.mpr fun hlike => ?_, ih hlower.2⟩
    rw [isLetter_of_notMem letter hlike, beq_iff_eq] at hc
    exact hc ▸ hlower.1

theorem IsNameLike.notMem (h : IsNameLike name) {c : Char} (hlike : c ∉ likeLetters)
    (hlower : c.toLower.isLower = false) : c ∉ name := by
  intro hc
  rcases h.letters c hc with hlike' | hlower'
  · exact hlike hlike'
  · rw [hlower] at hlower'
    cases hlower'

theorem IsNameLike.ne_nil (h : IsNameLike name) : name ≠ [] := by
  rintro rfl
  obtain ⟨word, hword, hletters⟩ := h
  exact ne_nil_of_mem_languageNames word hword (List.forall₂_nil_right_iff.mp hletters)

theorem IsNameLike.notMem_nameEnds (h : IsNameLike name) : ∀ c ∈ name, c ∉ nameEnds := by
  have hall : nameEnds.all (fun d => !likeLetters.contains d && !d.toLower.isLower) = true := by
    decide
  intro c hc hend
  have hnot := List.all_eq_true.mp hall c hend
  simp only [Bool.and_eq_true, Bool.not_eq_true', List.contains_eq_mem,
    decide_eq_false_iff_not] at hnot
  exact h.notMem hnot.1 hnot.2 hc

theorem IsNameLike.isBlank (h : IsNameLike name) : ∀ c ∈ name, isBlank c = false := by
  have hall : likeLetters.all (fun d => !Blank.isBlank d) = true := by decide
  intro c hc
  rcases h.letters c hc with hlike | hlower
  · simpa using List.all_eq_true.mp hall c hlike
  · exact isBlank_letter hlower

/-- A name is what stands in front of the first character that can stand behind one. -/
theorem IsNameLike.takeWhile_append (h : IsNameLike name) (hrest : ∀ c ∈ rest.head?, c ∈ nameEnds) :
    (name ++ rest).takeWhile (fun c => !nameEnds.contains c) = name := by
  have hletters : ∀ c ∈ name, (!nameEnds.contains c) = true := by
    simpa using h.notMem_nameEnds
  rw [List.takeWhile_append_of_pos hletters]
  cases rest with
  | nil => exact List.append_nil name
  | cons c rest =>
    rw [List.takeWhile_cons_of_neg (by simpa using hrest c rfl), List.append_nil]

theorem dropWord_eq_some_iff {word t rest : Text} :
    dropWord word t = some rest ↔
      ∃ name, t = name ++ rest
        ∧ List.Forall₂ (fun letter c => isLetter letter c = true) word name := by
  induction word generalizing t with
  | nil =>
    simp only [dropWord, Option.some.injEq, List.forall₂_nil_left_iff]
    exact ⟨fun h => ⟨[], h, rfl⟩, fun ⟨_, h, hnil⟩ => by rw [h, hnil, List.nil_append]⟩
  | cons letter word ih =>
    cases t with
    | nil =>
      refine iff_of_false (by simp [dropWord]) ?_
      rintro ⟨name, hnil, hletters⟩
      rw [(List.append_eq_nil_iff.mp hnil.symm).1] at hletters
      cases hletters
    | cons c t =>
      rw [dropWord]
      constructor
      · intro h
        split at h
        · next hc =>
          obtain ⟨name, rfl, hletters⟩ := ih.mp h
          exact ⟨c :: name, rfl, .cons hc hletters⟩
        · cases h
      · rintro ⟨_ | ⟨d, name⟩, heq, hletters⟩
        · cases hletters
        · cases heq
          rcases List.forall₂_cons.mp hletters with ⟨hc, hmore⟩
          rw [if_pos hc]
          exact ih.mpr ⟨name, rfl, hmore⟩

/-! ## The rest of a line -/

/-- The ends of a line, and none if the block begins on the same line. -/
def lineEnds : List Text := [[], ['\n'], ['\r', '\n']]

/-- What is left of a line in front of a block: spaces and tabs, and perhaps its end. -/
def IsLineRest (line : Text) : Prop :=
  ∃ spaces lineEnd, line = spaces ++ lineEnd ∧ (∀ c ∈ spaces, isSpaceOrTab c = true)
    ∧ lineEnd ∈ lineEnds

theorem isSpaceOrTab_cases {c : Char} (h : isSpaceOrTab c = true) : c = ' ' ∨ c = '\t' := by
  simpa [isSpaceOrTab] using h

theorem lineEnds_cases {lineEnd : Text} (h : lineEnd ∈ lineEnds) :
    lineEnd = [] ∨ lineEnd = ['\n'] ∨ lineEnd = ['\r', '\n'] := by
  simpa [lineEnds] using h

theorem IsLineRest.allBlank (h : IsLineRest line) : AllBlank line := by
  obtain ⟨spaces, lineEnd, rfl, hspaces, hend⟩ := h
  refine AllBlank.append ?_ ?_
  · intro c hc
    rcases isSpaceOrTab_cases (hspaces c hc) with rfl | rfl <;> decide
  · have hall : lineEnds.all (fun l => l.all isBlank) = true := by decide
    exact List.all_eq_true.mp (List.all_eq_true.mp hall lineEnd hend)

theorem head?_opening (h : opening <+: rest) : ∀ c ∈ rest.head?, c ∈ nameEnds := by
  obtain ⟨more, rfl⟩ := h
  intro c hc
  cases hc
  decide

/-- Neither a name nor the words behind a fence mark go on in the rest of a line. -/
theorem IsLineRest.head?_append (h : IsLineRest line) (hends : '\n' ∈ line ∨ opening <+: rest) :
    ∀ c ∈ (line ++ rest).head?, c ∈ nameEnds := by
  obtain ⟨spaces, lineEnd, rfl, hspaces, hend⟩ := h
  rw [List.append_assoc]
  cases spaces with
  | nil =>
    rcases lineEnds_cases hend with rfl | rfl | rfl
    · exact head?_opening (hends.resolve_left (by simp))
    · rintro c ⟨⟩
      decide
    · rintro c ⟨⟩
      decide
  | cons d spaces =>
    rintro c ⟨⟩
    rcases isSpaceOrTab_cases (hspaces d List.mem_cons_self) with rfl | rfl <;> decide

/-- A name ends where its line ends, or where an opening stands on the same line. -/
theorem dropNameEnd_eq_some_iff :
    dropNameEnd (t.dropWhile isSpaceOrTab) = some rest ↔
      ∃ line, IsLineRest line ∧ ('\n' ∈ line ∨ opening <+: rest) ∧ t = line ++ rest := by
  constructor
  · intro h
    have hspaces : ∀ c ∈ t.takeWhile isSpaceOrTab, isSpaceOrTab c = true :=
      List.all_eq_true.mp List.all_takeWhile
    have ht : t = t.takeWhile isSpaceOrTab ++ t.dropWhile isSpaceOrTab :=
      List.takeWhile_append_dropWhile.symm
    -- what is found behind the spaces tells which end the line has
    suffices ∃ lineEnd ∈ lineEnds, ('\n' ∈ lineEnd ∨ opening <+: rest)
        ∧ t.dropWhile isSpaceOrTab = lineEnd ++ rest by
      obtain ⟨lineEnd, hend, hends, heq⟩ := this
      refine ⟨_, ⟨_, lineEnd, rfl, hspaces, hend⟩, ?_, ?_⟩
      · exact hends.imp_left (List.mem_append_right _)
      · rw [List.append_assoc, ← heq, ← ht]
    unfold dropNameEnd at h
    split at h
    · next heq =>
      cases h
      exact ⟨['\n'], by decide, Or.inl (by decide), heq⟩
    · next heq =>
      cases h
      exact ⟨['\r', '\n'], by decide, Or.inl (by decide), heq⟩
    · split at h
      · next hopens =>
        cases h
        exact ⟨[], by decide, Or.inr (List.isPrefixOf_iff_prefix.mp hopens), rfl⟩
      · cases h
  · rintro ⟨_, ⟨spaces, lineEnd, rfl, hspaces, hend⟩, hends, rfl⟩
    rw [List.append_assoc, List.dropWhile_append_of_pos hspaces]
    rcases lineEnds_cases hend with rfl | rfl | rfl
    · have hline : '\n' ∉ spaces ++ [] := by
        rw [List.append_nil]
        intro hmem
        exact absurd (hspaces _ hmem) (by decide)
      obtain ⟨more, rfl⟩ := hends.resolve_left hline
      rfl
    · rfl
    · rfl

/-! ## Headings -/

/-- A language's name at the head of a text, and what goes with it when the name goes: the blanks in
front, and the rest of its line. Behind it the line is at its end, or a block begins. -/
structure IsHeading (front name line rest : Text) : Prop where
  blank : AllBlank front
  named : IsNameLike name
  lineRest : IsLineRest line
  ends : '\n' ∈ line ∨ opening <+: rest

theorem IsHeading.trimLeft_append (h : IsHeading front name line rest) :
    trimLeft (front ++ (name ++ (line ++ rest))) = name ++ (line ++ rest) := by
  rw [trimLeft_blanks h.blank]
  refine trimLeft_eq_self fun c hc => ?_
  rw [List.head?_append_of_ne_nil _ h.named.ne_nil] at hc
  exact h.named.isBlank c (List.mem_of_mem_head? hc)

/-- No slash stands in a heading. -/
theorem IsHeading.notMem (h : IsHeading front name line rest) : '/' ∉ front ++ (name ++ line) := by
  rw [List.mem_append, List.mem_append, not_or, not_or]
  exact ⟨h.blank.notMem (by decide), h.named.notMem (by decide) (by decide),
    h.lineRest.allBlank.notMem (by decide)⟩

/-- What a language's word finds at the head of a text. -/
theorem dropLanguage_word_iff {word : Text} (hword : word ∈ languageNames) :
    ((dropWord word (trimLeft t)).bind fun behind => dropNameEnd (behind.dropWhile isSpaceOrTab))
        = some rest ↔
      ∃ front name line, List.Forall₂ (fun letter c => isLetter letter c = true) word name
        ∧ IsHeading front name line rest ∧ t = front ++ (name ++ (line ++ rest)) := by
  simp only [Option.bind_eq_some_iff, dropWord_eq_some_iff, dropNameEnd_eq_some_iff]
  constructor
  · rintro ⟨_, ⟨name, ht, hname⟩, line, hline, hends, rfl⟩
    obtain ⟨front, hfront, hblank⟩ := trimLeft_append t
    have hheading : IsHeading front name line rest := ⟨hblank, ⟨word, hword, hname⟩, hline, hends⟩
    exact ⟨front, name, line, hname, hheading, by rw [hfront, ht]⟩
  · rintro ⟨front, name, line, hname, hheading, rfl⟩
    exact ⟨_, ⟨name, hheading.trimLeft_append, hname⟩, line, hheading.lineRest, hheading.ends, rfl⟩

/-- A text has no two headings. -/
theorem IsHeading.unique {front' name' line' rest' : Text} (h : IsHeading front name line rest)
    (h' : IsHeading front' name' line' rest')
    (heq : front ++ (name ++ (line ++ rest)) = front' ++ (name' ++ (line' ++ rest'))) :
    rest = rest' := by
  have htrim : name ++ (line ++ rest) = name' ++ (line' ++ rest') := by
    rw [← h.trimLeft_append, ← h'.trimLeft_append, heq]
  have hname : name = name' := by
    rw [← h.named.takeWhile_append (h.lineRest.head?_append h.ends), htrim,
      h'.named.takeWhile_append (h'.lineRest.head?_append h'.ends)]
  subst hname
  have hline : line ++ rest = line' ++ rest' := List.append_cancel_left htrim
  have hrest := dropNameEnd_eq_some_iff.mpr ⟨line, h.lineRest, h.ends, rfl⟩
  rw [hline, dropNameEnd_eq_some_iff.mpr ⟨line', h'.lineRest, h'.ends, rfl⟩] at hrest
  exact (Option.some.inj hrest).symm

/-- A heading goes, whatever stands behind it. -/
theorem dropLanguage_heading (h : IsHeading front name line rest) :
    dropLanguage (front ++ (name ++ (line ++ rest))) = rest := by
  obtain ⟨word, hword, hname⟩ := h.named
  unfold dropLanguage
  cases hfind : languageNames.findSome? fun word =>
      (dropWord word (trimLeft (front ++ (name ++ (line ++ rest))))).bind fun behind =>
        dropNameEnd (behind.dropWhile isSpaceOrTab) with
  | none =>
    have hnone := List.findSome?_eq_none_iff.mp hfind word hword
    rw [(dropLanguage_word_iff hword).mpr ⟨front, name, line, hname, h, rfl⟩] at hnone
    cases hnone
  | some found =>
    obtain ⟨word', hword', hfound⟩ := List.exists_of_findSome?_eq_some hfind
    -- the word that is found first may be another one, but it finds no other heading
    obtain ⟨front', name', line', -, h', heq⟩ := (dropLanguage_word_iff hword').mp hfound
    exact (h.unique h' heq).symm

/-- Nothing goes but a heading. -/
theorem dropLanguage_cases (t : Text) :
    dropLanguage t = t ∨ ∃ front name line, IsHeading front name line (dropLanguage t)
      ∧ t = front ++ (name ++ (line ++ dropLanguage t)) := by
  unfold dropLanguage
  cases hfind : languageNames.findSome? fun word =>
      (dropWord word (trimLeft t)).bind fun rest => dropNameEnd (rest.dropWhile isSpaceOrTab) with
  | none => exact Or.inl rfl
  | some found =>
    obtain ⟨word, hword, hfound⟩ := List.exists_of_findSome?_eq_some hfind
    obtain ⟨front, name, line, -, h, heq⟩ := (dropLanguage_word_iff hword).mp hfound
    exact Or.inr ⟨front, name, line, h, heq⟩

theorem dropLanguage_suffix (t : Text) : dropLanguage t <:+ t := by
  rcases dropLanguage_cases t with h | ⟨front, name, line, -, heq⟩
  · rw [h]
  · exact ⟨front ++ (name ++ line), by simpa only [List.append_assoc] using heq.symm⟩

/-- A text stays as it is that begins as no name does. -/
theorem dropLanguage_eq_self (h : ∀ c ∈ (trimLeft t).head?, c ∈ nameEnds) : dropLanguage t = t := by
  rcases dropLanguage_cases t with hself | ⟨front, name, line, hheading, heq⟩
  · exact hself
  · rw [heq, hheading.trimLeft_append, List.head?_append_of_ne_nil _ hheading.named.ne_nil] at h
    obtain ⟨c, more, rfl⟩ := List.exists_cons_of_ne_nil hheading.named.ne_nil
    exact absurd (h c rfl) (hheading.named.notMem_nameEnds c List.mem_cons_self)

end DocWeave.Comment
