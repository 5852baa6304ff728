import DocWeave.Text.Utf8

/-!
# Blanks

The characters that count as blank at the ends of a text, and texts without them.

* `Blank.trim_trim` — trimming once is enough
* `Blank.trim_eq_nil_iff` — nothing is left of a text exactly if all of it is blank
* `Blank.trim_between` — trimming takes the blanks around a text and nothing else
-/

namespace DocWeave.Blank

/-- White space, the separators of records and fields among it. -/
def isBlank (c : Char) : Bool :=
  ('\t' ≤ c && c ≤ '\r') || ('\x1c' ≤ c && c ≤ ' ') || c == '\x85' || c == '\u00a0'
    || c == '\u1680' || ('\u2000' ≤ c && c ≤ '\u200a') || c == '\u2028' || c == '\u2029'
    || c == '\u202f' || c == '\u205f' || c == '\u3000'

/-- The text from its first character that is not blank. -/
def trimLeft (t : Text) : Text := t.dropWhile isBlank

/-- The text up to its last character that is not blank. -/
def trimRight (t : Text) : Text := (t.reverse.dropWhile isBlank).reverse

def trim (t : Text) : Text := trimRight (trimLeft t)

theorem trimLeft_eq_self {t : Text} (h : ∀ c ∈ t.head?, isBlank c = false) : trimLeft t = t := by
  cases t with
  | nil => rfl
  | cons c rest => simp [trimLeft, h c rfl]

theorem trimRight_eq_self {t : Text} (h : ∀ c ∈ t.getLast?, isBlank c = false) :
    trimRight t = t := by
  have : t.reverse.dropWhile isBlank = t.reverse := by
    refine trimLeft_eq_self (t := t.reverse) ?_
    rwa [List.head?_reverse]
  rw [trimRight, this, List.reverse_reverse]

theorem head?_trimLeft {t : Text} : ∀ c ∈ (trimLeft t).head?, isBlank c = false := by
  induction t with
  | nil => simp [trimLeft]
  | cons c rest ih =>
    by_cases h : isBlank c
    · simpa [trimLeft, h] using ih
    · simp [trimLeft, h]

theorem getLast?_trimRight {t : Text} : ∀ c ∈ (trimRight t).getLast?, isBlank c = false := by
  rw [trimRight, List.getLast?_reverse]
  exact head?_trimLeft (t := t.reverse)

theorem trimRight_append (t : Text) : ∃ b, t = trimRight t ++ b ∧ ∀ c ∈ b, isBlank c = true := by
  refine ⟨(t.reverse.takeWhile isBlank).reverse, ?_, ?_⟩
  · rw [trimRight, ← List.reverse_append, List.takeWhile_append_dropWhile, List.reverse_reverse]
  · intro c hc
    exact List.all_eq_true.1 List.all_takeWhile c (List.mem_reverse.1 hc)

theorem trimLeft_append (t : Text) : ∃ b, t = b ++ trimLeft t ∧ ∀ c ∈ b, isBlank c = true :=
  ⟨t.takeWhile isBlank, List.takeWhile_append_dropWhile.symm,
    fun c hc => List.all_eq_true.1 List.all_takeWhile c hc⟩

theorem head?_trim {t : Text} : ∀ c ∈ (trim t).head?, isBlank c = false := by
  intro c hc
  obtain ⟨b, hb, -⟩ := trimRight_append (trimLeft t)
  refine head?_trimLeft (t := t) c ?_
  rw [trim] at hc
  rw [hb]
  cases h : trimRight (trimLeft t) with
  | nil => simp [h] at hc
  | cons d rest => simpa [h] using hc

theorem trim_trim (t : Text) : trim (trim t) = trim t := by
  rw [show trim (trim t) = trimRight (trimLeft (trim t)) from rfl, trimLeft_eq_self head?_trim]
  exact trimRight_eq_self getLast?_trimRight

theorem trim_eq_nil_iff {t : Text} : trim t = [] ↔ ∀ c ∈ t, isBlank c = true := by
  constructor
  · intro h
    obtain ⟨a, ha, hall⟩ := trimLeft_append t
    obtain ⟨b, hb, hbll⟩ := trimRight_append (trimLeft t)
    rw [trim] at h
    rw [ha, hb, h]
    simp only [List.nil_append, List.mem_append]
    rintro c (hc | hc)
    · exact hall c hc
    · exact hbll c hc
  · intro h
    have : trimLeft t = [] := by
      induction t with
      | nil => rfl
      | cons c rest ih => simpa [trimLeft, h c] using ih fun d hd => h d (List.mem_cons_of_mem c hd)
    rw [trim, this]
    rfl

/-- A text of blanks only. -/
abbrev AllBlank (t : Text) : Prop := ∀ c ∈ t, isBlank c = true

theorem AllBlank.append {s t : Text} (hs : AllBlank s) (ht : AllBlank t) : AllBlank (s ++ t) := by
  intro c hc
  exact (List.mem_append.1 hc).elim (hs c) (ht c)

theorem AllBlank.notMem {t : Text} (h : AllBlank t) {c : Char} (hc : isBlank c = false) :
    c ∉ t := by
  intro hmem
  rw [h c hmem] at hc
  cases hc

theorem trimLeft_blanks {front : Text} (h : AllBlank front) (t : Text) :
    trimLeft (front ++ t) = trimLeft t :=
  List.dropWhile_append_of_pos h

theorem trimRight_blanks {back : Text} (h : AllBlank back) (t : Text) :
    trimRight (t ++ back) = trimRight t := by
  rw [trimRight, List.reverse_append,
    List.dropWhile_append_of_pos fun c hc => h c (List.mem_reverse.1 hc), trimRight]

/-- Blanks around a text go, if it neither begins nor ends with a blank. -/
theorem trim_between {front back t : Text} (hfront : AllBlank front) (hback : AllBlank back)
    (hhead : ∀ c ∈ t.head?, isBlank c = false) (hlast : ∀ c ∈ t.getLast?, isBlank c = false) :
    trim (front ++ t ++ back) = t := by
  cases t with
  | nil =>
    refine trim_eq_nil_iff.2 fun c hc => ?_
    rw [List.append_nil] at hc
    exact hfront.append hback c hc
  | cons c rest =>
    have hleft : trimLeft (c :: rest ++ back) = c :: rest ++ back :=
      trimLeft_eq_self fun d hd => hhead d hd
    rw [trim, List.append_assoc, trimLeft_blanks hfront, hleft, trimRight_blanks hback,
      trimRight_eq_self hlast]

/-- Trimming takes blanks away at both ends, and nothing else. -/
theorem exists_append_trim (t : Text) :
    ∃ front back, AllBlank front ∧ AllBlank back ∧ t = front ++ trim t ++ back := by
  obtain ⟨front, hfront, hblank⟩ := trimLeft_append t
  obtain ⟨back, hback, hblank'⟩ := trimRight_append (trimLeft t)
  exact ⟨front, back, hblank, hblank', by rw [List.append_assoc, trim, ← hback, ← hfront]⟩

theorem isInfix_trim (t : Text) : trim t <:+: t := by
  obtain ⟨front, back, -, -, h⟩ := exists_append_trim t
  exact ⟨front, back, h.symm⟩

end DocWeave.Blank
