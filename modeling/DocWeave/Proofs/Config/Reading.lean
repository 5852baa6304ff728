import DocWeave.Config
import DocWeave.Proofs.Results
import Mathlib.Logic.Basic

/-!
# What is taken for a setting

A setting is read from a value of any kind. A reader looks for values of certain kinds; of these it
takes the good ones, and of the bad ones the user is told. Values of other kinds are not looked for:
they are refused as well, but nobody has thought of telling the user.

* `style_eq_ok_iff`, `count_eq_ok_iff`, `flag_eq_ok_iff` — what is taken, and for what
* `isExtension_of_extensions` — what extensions look like, however they were written
* `Reads` — which values fit, and which of them are bad; `Reads.bind` puts readings together
* `reads_style`, `reads_count`, `reads_flag`, `reads_number`, `reads_extensions` — for every reader
-/

namespace DocWeave.Config

variable {α β : Type} {name : Text} {v : Value}

/-! ## What is taken -/

theorem style_eq_ok_iff {s : Text} :
    style v = .ok s ↔ ∃ t, v = .text t ∧ word t ∈ styleWords ∧ s = word t := by
  unfold style
  constructor
  · intro h
    split at h
    · next t =>
      split at h
      · next hword =>
        cases h
        exact ⟨t, rfl, List.contains_iff_mem.mp hword, rfl⟩
      · cases h
    · cases h
  · rintro ⟨t, rfl, hword, rfl⟩
    exact if_pos (List.contains_iff_mem.mpr hword)

theorem count_eq_ok_iff {n : Int} :
    count name v = .ok n ↔ v.isWritable = true ∧ Decimal.whole? v.plain = some n ∧ 1 ≤ n := by
  unfold count
  cases hwritable : v.isWritable with
  | false => simp
  | true =>
    cases hwhole : Decimal.whole? v.plain with
    | none => simp
    | some m =>
      by_cases hm : m < 1
      · simp only [Bool.not_true, Bool.false_eq_true, if_false, if_pos hm, reduceCtorEq, true_and,
          Option.some.injEq, false_iff]
        rintro ⟨rfl, hn⟩
        omega
      · simp only [Bool.not_true, Bool.false_eq_true, if_false, if_neg hm, Except.ok.injEq, true_and,
          Option.some.injEq]
        constructor
        · rintro rfl
          exact ⟨rfl, by omega⟩
        · exact fun h => h.1

/-- No word means both. -/
theorem not_mem_trueWords_of_mem : ∀ w ∈ falseWords, w ∉ trueWords := by decide

theorem flag_eq (name : Text) (v : Value) :
    flag name v =
      if v.isWritable = false then .error .tooLong
      else if word v.plain ∈ trueWords then .ok true
      else if word v.plain ∈ falseWords then .ok false
      else .error (.noFlag name v) := by
  cases v with
  | bool b =>
    have htrue : word "True".toList ∈ trueWords := by decide
    have hfalse : word "False".toList ∈ falseWords := by decide
    have hnot := not_mem_trueWords_of_mem _ hfalse
    rw [Value.isWritable_bool, Value.plain_bool, if_neg (by simp)]
    cases b with
    | true => exact (if_pos htrue).symm
    | false => exact ((if_neg hnot).trans (if_pos hfalse)).symm
  | _ =>
    exact if_congr (by simp) rfl
      (if_congr List.contains_iff_mem rfl (if_congr List.contains_iff_mem rfl rfl))

theorem flag_eq_ok_iff {b : Bool} :
    flag name v = .ok b ↔ v.isWritable = true ∧ word v.plain ∈ trueWords ++ falseWords
      ∧ b = decide (word v.plain ∈ trueWords) := by
  rw [flag_eq, List.mem_append]
  cases hwritable : v.isWritable with
  | false => simp
  | true =>
    by_cases htrue : word v.plain ∈ trueWords
    · simp [htrue, eq_comm]
    · by_cases hfalse : word v.plain ∈ falseWords <;> simp [htrue, hfalse, eq_comm]

theorem readOr_eq_ok_iff {given? : Option α} {default b : β} {read : α → Except Problem β} :
    readOr given? default read = .ok b
      ↔ (given? = none ∧ b = default) ∨ ∃ a, given? = some a ∧ read a = .ok b := by
  cases given? with
  | none => simp [readOr, eq_comm]
  | some a => simp [readOr]

/-! ## Extensions -/

/-- An extension has a point in front and no blanks around it. -/
structure IsExtension (x : Text) : Prop where
  point : x.head? = some '.'
  trimmed : Blank.trim x = x

theorem IsExtension.ne_nil {x : Text} (h : IsExtension x) : x ≠ [] := by
  rintro rfl
  cases h.point

/-- A point in front of a text without blanks around it keeps the blanks out. -/
theorem isExtension_cons {t : Text} (hne : t ≠ []) (ht : Blank.trim t = t) :
    IsExtension ('.' :: t) where
  point := rfl
  trimmed := by
    have hfirst : ∀ c ∈ ('.' :: t).head?, Blank.isBlank c = false := by
      intro c hc
      cases hc
      decide
    have hlast : ∀ c ∈ ('.' :: t).getLast?, Blank.isBlank c = false := by
      rw [List.getLast?_cons_of_ne_nil hne, ← ht]
      exact Blank.getLast?_trimRight
    rw [Blank.trim, Blank.trimLeft_eq_self hfirst, Blank.trimRight_eq_self hlast]

theorem isExtension_of_extension? {piece x : Text} (h : extension? piece = some x) :
    IsExtension x := by
  have htrim := Blank.trim_trim piece
  unfold extension? at h
  split at h
  · cases h
  · next rest hpiece =>
    cases h
    rw [hpiece] at htrim
    exact ⟨rfl, htrim⟩
  · next hne _ =>
    cases h
    exact isExtension_cons hne htrim

theorem isExtension_of_mem_extensionsOfText {t x : Text} (h : x ∈ extensionsOfText t) :
    IsExtension x := by
  obtain ⟨piece, -, hpiece⟩ := List.mem_filterMap.mp h
  exact isExtension_of_extension? hpiece

theorem isExtension_of_extensionsOfValues {vs : List Value} {xs : List Text}
    (h : extensionsOfValues vs = .ok xs) : ∀ x ∈ xs, IsExtension x := by
  unfold extensionsOfValues at h
  split at h
  · cases h
    intro x hx
    obtain ⟨v, -, hv⟩ := List.mem_filterMap.mp hx
    exact isExtension_of_extension? hv
  · cases h

theorem isExtension_of_extensions {xs : List Text} (h : extensions v = .ok xs) :
    ∀ x ∈ xs, IsExtension x := by
  cases v with
  | text t =>
    cases h
    exact fun x hx => isExtension_of_mem_extensionsOfText hx
  | list items => exact isExtension_of_extensionsOfValues h
  | map entries => exact isExtension_of_extensionsOfValues h
  | null => cases h
  | bool b => cases h
  | int n => cases h
  | float x => cases h
  | stamp plain shown => cases h

/-! ## Which refusals are told -/

/--
What a reading comes to where the value `Fits`, or does not, and is `Bad`, or is not: there is a
result if it fits and is not bad. What is told is about bad values only, and what is not told is
about values that do not fit.
-/
structure Reads (x : Except Problem β) (Fits Bad : Prop) : Prop where
  ok_iff : (∃ b, x = .ok b) ↔ Fits ∧ ¬ Bad
  bad_of_told : ∀ p, x = .error p → p.isTold = true → Bad
  not_fits_of_untold : ∀ p, x = .error p → p.isTold = false → ¬ Fits

namespace Reads

variable {x : Except Problem α} {Fits Fits' Bad Bad' : Prop}

theorem of_ok (b : β) : Reads (.ok b) True False where
  ok_iff := iff_of_true ⟨b, rfl⟩ ⟨trivial, not_false⟩
  bad_of_told := by simp
  not_fits_of_untold := by simp

theorem of_told {p : Problem} (h : p.isTold = true) : Reads (.error p : Except Problem β) True True where
  ok_iff := by simp
  bad_of_told := by simp
  not_fits_of_untold := by simp [h]

theorem of_untold {p : Problem} (h : p.isTold = false) :
    Reads (.error p : Except Problem β) False Bad where
  ok_iff := by simp
  bad_of_told := by simp [h]
  not_fits_of_untold := by simp

theorem congr (h : Reads x Fits Bad) (hFits : Fits ↔ Fits') (hBad : Bad ↔ Bad') :
    Reads x Fits' Bad' := by
  rwa [← propext hFits, ← propext hBad]

/-- Of all that is wrong with a value that fits the user is told. -/
theorem isTold_of_fits (h : Reads x Fits Bad) (hfits : Fits) {p : Problem} (hp : x = .error p) :
    p.isTold = true := by
  cases htold : p.isTold with
  | true => rfl
  | false => exact absurd hfits (h.not_fits_of_untold p hp htold)

/-- Where the value fits, it is bad exactly if the user is told of it. -/
theorem told_iff (h : Reads x Fits Bad) (hfits : Fits) :
    (∃ p, x = .error p ∧ p.isTold = true) ↔ Bad := by
  constructor
  · rintro ⟨p, hp, htold⟩
    exact h.bad_of_told p hp htold
  · intro hbad
    cases x with
    | ok a => exact absurd hbad (h.ok_iff.mp ⟨a, rfl⟩).2
    | error p => exact ⟨p, rfl, h.isTold_of_fits hfits rfl⟩

/-- Two readings one after the other, the second of which may depend on what the first one gave. -/
theorem bind {next : α → Except Problem β} (hx : Reads x Fits Bad)
    (hnext : ∀ a, x = .ok a → Reads (next a) Fits' Bad') :
    Reads (x >>= next) (Fits ∧ Fits') (Bad ∨ Bad') := by
  cases x with
  | error p =>
    have hno : ¬ (Fits ∧ ¬ Bad) := fun h => by cases (hx.ok_iff.mpr h).choose_spec
    refine ⟨?_, fun q hq htold => ?_, fun q hq huntold => ?_⟩
    · constructor
      · rintro ⟨b, hb⟩
        cases hb
      · rintro ⟨hfits, hbad⟩
        exact absurd ⟨hfits.1, fun h => hbad (Or.inl h)⟩ hno
    · cases hq
      exact Or.inl (hx.bad_of_told p rfl htold)
    · cases hq
      exact fun h => hx.not_fits_of_untold p rfl huntold h.1
  | ok a =>
    obtain ⟨hfits, hbad⟩ := hx.ok_iff.mp ⟨a, rfl⟩
    have ha := hnext a rfl
    refine ⟨ha.ok_iff.trans ?_, fun q hq htold => ?_, fun q hq huntold => ?_⟩
    · simp [hfits, hbad]
    · exact Or.inr (ha.bad_of_told q hq htold)
    · exact fun h => ha.not_fits_of_untold q hq huntold h.2

/-- A setting that is not given is neither of the wrong kind nor bad. -/
theorem readOr (given? : Option α) (default : β) {read : α → Except Problem β} {Fits Bad : α → Prop}
    (h : ∀ a, Reads (read a) (Fits a) (Bad a)) :
    Reads (readOr given? default read) (∀ a, given? = some a → Fits a)
      (∃ a, given? = some a ∧ Bad a) := by
  cases given? with
  | none => exact (of_ok default).congr (by simp) (by simp)
  | some a => exact (h a).congr (by simp) (by simp)

end Reads

/-! ## The readers -/

/-- The value is a text, but not the word for a comment style. -/
def IsBadStyle (v : Value) : Prop := ∃ t, v = .text t ∧ word t ∉ styleWords

theorem reads_style (v : Value) : Reads (style v) (∃ t, v = .text t) (IsBadStyle v) := by
  unfold style
  split
  · next t =>
    split
    · next hword =>
      have hmem := List.contains_iff_mem.mp hword
      exact (Reads.of_ok _).congr (by simp) (by simp [IsBadStyle, hmem])
    · next hword =>
      have hmem := mt List.contains_iff_mem.mpr hword
      exact (Reads.of_told rfl).congr (by simp) (by simp [IsBadStyle, hmem])
  · next hother =>
    have hno : ¬ ∃ t, v = .text t := fun ⟨t, ht⟩ => hother t ht
    exact (Reads.of_untold rfl).congr (iff_of_false not_false hno) Iff.rfl

/-- The value can be written out, but that is no whole number above zero. -/
def IsBadCount (v : Value) : Prop :=
  v.isWritable = true ∧ ∀ n, Decimal.whole? v.plain = some n → n < 1

theorem reads_count (name : Text) (v : Value) :
    Reads (count name v) (v.isWritable = true) (IsBadCount v) := by
  unfold count IsBadCount
  cases v.isWritable with
  | false => exact (Reads.of_untold rfl).congr (by simp) Iff.rfl
  | true =>
    simp only [Bool.not_true, Bool.false_eq_true, if_false, true_and]
    cases Decimal.whole? v.plain with
    | none => exact (Reads.of_told rfl).congr (by simp) (by simp)
    | some n =>
      by_cases hn : n < 1
      · simp only [if_pos hn]
        exact (Reads.of_told rfl).congr (by simp) (by simp [hn])
      · simp only [if_neg hn]
        exact (Reads.of_ok n).congr (by simp) (by simpa using hn)

/-- The value can be written out, but that is no word for a flag. -/
def IsBadFlag (v : Value) : Prop := v.isWritable = true ∧ word v.plain ∉ trueWords ++ falseWords

theorem reads_flag (name : Text) (v : Value) :
    Reads (flag name v) (v.isWritable = true) (IsBadFlag v) := by
  rw [flag_eq]
  unfold IsBadFlag
  cases v.isWritable with
  | false => exact (Reads.of_untold rfl).congr (by simp) Iff.rfl
  | true =>
    by_cases htrue : word v.plain ∈ trueWords
    · simp only [Bool.true_eq_false, if_false, if_pos htrue]
      exact (Reads.of_ok true).congr (by simp) (by simp [htrue])
    · by_cases hfalse : word v.plain ∈ falseWords
      · simp only [Bool.true_eq_false, if_false, if_neg htrue, if_pos hfalse]
        exact (Reads.of_ok false).congr (by simp) (by simp [hfalse])
      · simp only [Bool.true_eq_false, if_false, if_neg htrue, if_neg hfalse]
        exact (Reads.of_told rfl).congr (by simp) (by simp [htrue, hfalse])

/-- The value is a number that is not too large, or a text that is one. -/
def IsNumber : Value → Prop
  | .bool _ => True
  | .int n => (Float.ofInt n).isInf = false
  | .float _ => True
  | .text t => (Decimal.real? t).isSome = true
  | _ => False

/-- Of a number that cannot be read nobody is told. -/
theorem reads_number (v : Value) : Reads (number v) (IsNumber v) False := by
  cases v with
  | bool b => exact .of_ok _
  | int n =>
    simp only [number, IsNumber]
    cases (Float.ofInt n).isInf with
    | true => exact (Reads.of_untold rfl).congr (by simp) Iff.rfl
    | false => exact (Reads.of_ok _).congr (by simp) Iff.rfl
  | float x => exact .of_ok _
  | text t =>
    simp only [number, IsNumber]
    cases Decimal.real? t with
    | none => exact (Reads.of_untold rfl).congr (by simp) Iff.rfl
    | some x => exact (Reads.of_ok _).congr (by simp) Iff.rfl
  | null => exact .of_untold rfl
  | stamp plain shown => exact .of_untold rfl
  | list items => exact .of_untold rfl
  | map entries => exact .of_untold rfl

/-- The value is a text, or holds values in a row, each of which can be written out. -/
def IsListing : Value → Prop
  | .text _ => True
  | .list items => ∀ v ∈ items, v.isWritable = true
  | .map entries => ∀ e ∈ entries, e.1.isWritable = true
  | _ => False

theorem reads_extensionsOfValues (vs : List Value) :
    Reads (extensionsOfValues vs) (∀ v ∈ vs, v.isWritable = true) False := by
  unfold extensionsOfValues
  by_cases h : vs.all Value.isWritable = true
  · rw [if_pos h]
    exact (Reads.of_ok _).congr (by simpa using h) Iff.rfl
  · rw [if_neg h]
    exact (Reads.of_untold rfl).congr (by simpa using h) Iff.rfl

/-- Nor of extensions. -/
theorem reads_extensions (v : Value) : Reads (extensions v) (IsListing v) False := by
  cases v with
  | text t => exact .of_ok _
  | list items => exact reads_extensionsOfValues items
  | map entries => exact (reads_extensionsOfValues _).congr (by simp [IsListing]) Iff.rfl
  | null => exact .of_untold rfl
  | bool b => exact .of_untold rfl
  | int n => exact .of_untold rfl
  | float x => exact .of_untold rfl
  | stamp plain shown => exact .of_untold rfl

end DocWeave.Config
