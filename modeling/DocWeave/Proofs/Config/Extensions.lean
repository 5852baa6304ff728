import DocWeave.Proofs.Config.Reading
import DocWeave.Proofs.Path
import Mathlib.Data.List.Forall2

/-!
# Extensions, in a text or in a list

Extensions are written in a text with commas between them or as a list of texts. A piece of text
names one extension, or none if it is blank, so that both ways of writing come to the same, and what
has been read is not changed when it is read again.

* `extension?_eq_some_iff`, `extension?_eq_self` — what a piece names, and that an extension names
  itself
* `extensions_join` — pieces without commas are read alike from a text and from a list
* `extensions_normalForm` — what is read of any text, and that it stays as it is
-/

namespace DocWeave.Config

open Blank

variable {piece x : Text} {pieces xs : List Text}

/-! ## One piece -/

/-- The extension that a piece names is what it holds between blanks, behind a point unless there is
one in front of it already. -/
inductive Names (piece : Text) : Text → Prop where
  | pointed (h : (trim piece).head? = some '.') : Names piece (trim piece)
  | bare (h : (trim piece).head? ≠ some '.') : Names piece ('.' :: trim piece)

theorem extension?_eq_none_iff : extension? piece = none ↔ AllBlank piece := by
  rw [show AllBlank piece ↔ trim piece = [] from trim_eq_nil_iff.symm]
  unfold extension?
  split
  · next htrim => exact iff_of_true rfl htrim
  · next rest htrim => exact iff_of_false (by simp) (by simp [htrim])
  · next hne _ => exact iff_of_false (by simp) hne

theorem extension?_eq_some_iff : extension? piece = some x ↔ ¬ AllBlank piece ∧ Names piece x := by
  rw [show AllBlank piece ↔ trim piece = [] from trim_eq_nil_iff.symm]
  unfold extension?
  split
  · next htrim => simp [htrim]
  · next rest htrim =>
    have hhead : (trim piece).head? = some '.' := by rw [htrim]; rfl
    rw [Option.some_inj, htrim]
    constructor
    · rintro rfl
      exact ⟨List.cons_ne_nil _ _, htrim ▸ .pointed hhead⟩
    · rintro ⟨-, hpointed | hbare⟩
      · exact htrim.symm
      · exact absurd hhead hbare
  · next hne hnot =>
    have hhead : (trim piece).head? ≠ some '.' := by
      intro h
      obtain ⟨rest, hrest⟩ := List.head?_eq_some_iff.mp h
      exact hnot rest hrest
    rw [Option.some_inj]
    constructor
    · rintro rfl
      exact ⟨hne, .bare hhead⟩
    · rintro ⟨-, hpointed | hbare⟩
      · exact absurd hpointed hhead
      · rfl

/-- Nothing but a point is new in the extension that a piece names. -/
theorem Names.mem {c : Char} (h : Names piece x) (hc : c ∈ x) : c = '.' ∨ c ∈ piece := by
  cases h with
  | pointed hhead => exact Or.inr ((isInfix_trim piece).subset hc)
  | bare hhead =>
    rcases List.mem_cons.mp hc with rfl | hc
    · exact Or.inl rfl
    · exact Or.inr ((isInfix_trim piece).subset hc)

/-- An extension names itself. -/
theorem extension?_eq_self (h : IsExtension x) : extension? x = some x := by
  obtain ⟨rest, rfl⟩ := List.head?_eq_some_iff.mp h.point
  unfold extension?
  rw [h.trimmed]
  rfl

/-! ## Many pieces -/

/-- In a row of pieces, those that are not blank name one extension each. -/
theorem forall₂_names (pieces : List Text) :
    List.Forall₂ Names (pieces.filter fun piece => !piece.all isBlank)
      (pieces.filterMap extension?) := by
  induction pieces with
  | nil => exact .nil
  | cons piece rest ih =>
    by_cases hblank : AllBlank piece
    · have hall : piece.all isBlank = true := List.all_eq_true.mpr hblank
      rw [List.filter_cons_of_neg (by simp [hall]),
        List.filterMap_cons_none (extension?_eq_none_iff.mpr hblank)]
      exact ih
    · have hall : piece.all isBlank = false :=
        Bool.eq_false_iff.mpr fun h => hblank (List.all_eq_true.mp h)
      obtain ⟨x, hx⟩ := Option.ne_none_iff_exists'.mp (mt extension?_eq_none_iff.mp hblank)
      rw [List.filter_cons_of_pos (by simp [hall]), List.filterMap_cons_some hx]
      exact .cons (extension?_eq_some_iff.mp hx).2 ih

theorem filterMap_extension?_eq_self (h : ∀ x ∈ xs, IsExtension x) :
    xs.filterMap extension? = xs := by
  rw [List.filterMap_congr fun x hx => extension?_eq_self (h x hx)]
  exact List.filterMap_some

theorem isExtension_of_mem_filterMap (h : x ∈ pieces.filterMap extension?) : IsExtension x := by
  obtain ⟨piece, -, hpiece⟩ := List.mem_filterMap.mp h
  exact isExtension_of_extension? hpiece

/-- No comma gets into the extensions of pieces without one. -/
theorem notMem_of_mem_filterMap (hpieces : ∀ piece ∈ pieces, ',' ∉ piece)
    (h : x ∈ pieces.filterMap extension?) : ',' ∉ x := by
  obtain ⟨piece, hpiece, hx⟩ := List.mem_filterMap.mp h
  intro hcomma
  rcases (extension?_eq_some_iff.mp hx).2.mem hcomma with hpoint | hcomma
  · cases hpoint
  · exact hpieces piece hpiece hcomma

/-! ## Both ways of writing -/

theorem extensions_list (items : List Text) :
    extensions (.list (items.map .text)) = .ok (items.filterMap extension?) := by
  have hwritable : (items.map Value.text).all Value.isWritable = true := by simp
  rw [extensions, extensionsOfValues, if_pos hwritable, List.filterMap_map]
  rfl

/-- Pieces without commas are read alike from a text with commas between them and from a list. -/
theorem extensions_join (h : ∀ piece ∈ pieces, ',' ∉ piece) :
    extensions (.text (Pieces.join ',' pieces)) = extensions (.list (pieces.map .text)) := by
  rw [extensions_list, extensions, extensionsOfText]
  cases pieces with
  | nil => rfl
  | cons piece rest => rw [Pieces.split_join (List.cons_ne_nil piece rest) h]

/-- Extensions that have been read, from a list, are read from it again. -/
theorem extensions_list_eq_self (h : ∀ x ∈ xs, IsExtension x) :
    extensions (.list (xs.map .text)) = .ok xs := by
  rw [extensions_list, filterMap_extension?_eq_self h]

/-- Every text is made of pieces with commas between them, and is read as the row of extensions that
those of the pieces name, in order, that are not blank. Each has a point in front, no comma in it and
no blanks around it; and the row is read as it is, both from a list and from a text with commas in
between. A list of texts is read, too, and what it is read as is read as it is. -/
theorem extensions_normalForm :
    (∀ t, ∃ pieces xs, Pieces.join ',' pieces = t ∧ (∀ piece ∈ pieces, ',' ∉ piece)
      ∧ extensions (.text t) = .ok xs
      ∧ List.Forall₂ Names (pieces.filter fun piece => !piece.all isBlank) xs
      ∧ (∀ x ∈ xs, x.head? = some '.' ∧ ',' ∉ x ∧ trim x = x)
      ∧ extensions (.list (xs.map .text)) = .ok xs
      ∧ extensions (.text (Pieces.join ',' xs)) = .ok xs)
      ∧ ∀ items : List Text, ∃ xs, extensions (.list (items.map .text)) = .ok xs
        ∧ extensions (.list (xs.map .text)) = .ok xs := by
  constructor
  · intro t
    have hpieces : ∀ piece ∈ Pieces.split ',' t, ',' ∉ piece :=
      fun piece => Pieces.not_mem_of_mem_split
    have hextension : ∀ x ∈ extensionsOfText t, IsExtension x :=
      fun x hx => isExtension_of_mem_filterMap hx
    have hcomma : ∀ x ∈ extensionsOfText t, ',' ∉ x :=
      fun x hx => notMem_of_mem_filterMap hpieces hx
    have hlist := extensions_list_eq_self hextension
    exact ⟨Pieces.split ',' t, extensionsOfText t, Pieces.join_split ',' t, hpieces, rfl,
      forall₂_names _,
      fun x hx => ⟨(hextension x hx).point, hcomma x hx, (hextension x hx).trimmed⟩, hlist,
      (extensions_join hcomma).trans hlist⟩
  · intro items
    exact ⟨_, extensions_list items,
      extensions_list_eq_self fun x hx => isExtension_of_mem_filterMap hx⟩

end DocWeave.Config
