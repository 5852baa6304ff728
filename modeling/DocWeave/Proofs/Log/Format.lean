import DocWeave.Log.Format
import DocWeave.Proofs.Results
import Mathlib.Data.List.Forall2

/-!
# Formats in which every entry can be written

Most kinds of fields take all parts of one sort, whatever they hold, and the parts of a record are of
the same sorts for every entry and every moment. So a format of such fields in which one entry can be
written is good for all.

* `isSome_lay?` — whether a part can be laid out is told by its sort
* `isValid_of_line?` — a format in which one entry can be written is valid
-/

namespace DocWeave.Log

/-! ## Parts of one sort -/

namespace Part

/-- Both parts are of one sort: texts, whole numbers, times, or something else. -/
def Alike : Part → Part → Prop
  | text _, text _ => True
  | number _, number _ => True
  | real x, real y => (Binary64.parts x).isFinite = true ∧ (Binary64.parts y).isFinite = true
  | object _, object _ => True
  | _, _ => False

variable {p p' : Part}

theorem isSome_whole?_real {x : Float} (h : (Binary64.parts x).isFinite = true) :
    (real x).whole?.isSome = true := by
  cases hparts : Binary64.parts x with
  | finite negative mantissa exponent => simp [whole?, hparts]
  | infinite negative => simp [hparts, Binary64.Parts.isFinite] at h
  | notANumber => simp [hparts, Binary64.Parts.isFinite] at h

theorem Alike.isSome_whole? (h : p.Alike p') : p.whole?.isSome = p'.whole?.isSome := by
  cases p <;> cases p' <;> try cases h
  · rfl
  · rfl
  · next hx hy => rw [isSome_whole?_real hx, isSome_whole?_real hy]
  · rfl

theorem Alike.isSome_number? (h : p.Alike p') : p.number?.isSome = p'.number?.isSome := by
  cases p <;> cases p' <;> first | rfl | cases h

end Part

/-- Whether a part can be laid out in this way depends on nothing but its sort. -/
def Layout.IsSteady (l : Layout) : Prop := l.kind ∈ "sradiuoxX".toList

instance (l : Layout) : Decidable l.IsSteady := inferInstanceAs (Decidable (_ ∈ _))

theorem Layout.isSome_lay? {l : Layout} (hl : l.IsSteady) {p p' : Part} (h : p.Alike p') :
    (l.lay? p).isSome = (l.lay? p').isSome := by
  have hkind : l.kind = 's' ∨ l.kind = 'r' ∨ l.kind = 'a' ∨ l.kind = 'd' ∨ l.kind = 'i'
      ∨ l.kind = 'u' ∨ l.kind = 'o' ∨ l.kind = 'x' ∨ l.kind = 'X' := by
    simpa [IsSteady] using hl
  unfold lay?
  split
  · rfl
  · rcases hkind with hk | hk | hk | hk | hk | hk | hk | hk | hk <;>
      simp [hk, h.isSome_whole?, h.isSome_number?]

namespace Format

variable {format : Text} {m m' : Moment} {e e' : Entry}

/-- Every entry can be written in the format, at whatever moment. -/
def IsValid (format : Text) : Prop := ∀ m e, (line? format m e).isSome = true

/-! ## Parts of records -/

theorem rel_find? {parts parts' : List (String × Part)}
    (h : List.Forall₂ (fun a b => a.1 = b.1 ∧ a.2.Alike b.2) parts parts') (name : Text) :
    Option.Rel Part.Alike ((parts.find? fun p => p.1.toList == name).map (·.2))
      ((parts'.find? fun p => p.1.toList == name).map (·.2)) := by
  induction h with
  | nil => exact .none
  | @cons a b parts parts' hab _ ih =>
    obtain ⟨hkey, halike⟩ := hab
    rw [List.find?_cons, List.find?_cons, hkey]
    cases b.1.toList == name with
    | true => exact .some halike
    | false => exact ih

/-- Records have parts of the same sorts. -/
theorem rel_part? (m m' : Moment) (e e' : Entry) (name : Text) :
    Option.Rel Part.Alike (e.part? m name) (e'.part? m' name) := by
  refine rel_find? ?_ name
  have hfinite (x : Seconds) : (Binary64.parts x).isFinite = true := x.property
  simp only [Entry.parts, List.forall₂_cons, List.forall₂_nil_left_iff, Part.Alike, hfinite,
    and_self]

/-! ## Lines -/

/-- How a piece is laid out, if it is a field. -/
def layout? : Piece → Option Layout
  | .char _ => none
  | .field _ layout => some layout
  | .record layout => some layout

/-- Whether the fields of a format can be laid out depends on the sorts of parts alone. -/
def IsSteady (format : Text) : Prop :=
  ∀ pieces ∈ ofText? format, ∀ piece ∈ pieces, ∀ l ∈ layout? piece, l.IsSteady

instance (format : Text) : Decidable (IsSteady format) :=
  inferInstanceAs (Decidable (∀ pieces ∈ ofText? format, _))

theorem isSome_fill? {piece : Piece} (h : ∀ l ∈ layout? piece, l.IsSteady) (timed : Bool)
    (m m' : Moment) (e e' : Entry) :
    (fill? timed m e piece).isSome = (fill? timed m' e' piece).isSome := by
  cases piece with
  | char c => rfl
  | record layout => exact Layout.isSome_lay? (h layout rfl) trivial
  | field name layout =>
    have hpart := rel_part? m m' e e' name
    simp only [fill?]
    generalize e.part? m name = p at hpart
    generalize e'.part? m' name = p' at hpart
    cases hpart with
    | none => rfl
    | some halike => exact Layout.isSome_lay? (h layout rfl) halike

/-- Whether an entry can be written does not depend on the entry. -/
theorem isSome_line?_congr (h : IsSteady format) (m m' : Moment) (e e' : Entry) :
    (line? format m e).isSome = (line? format m' e').isSome := by
  unfold line?
  cases hpieces : ofText? format with
  | none => rfl
  | some pieces =>
    simp only [Option.bind_some, Option.isSome_map, isSome_mapM]
    rw [Bool.eq_iff_iff, List.all_eq_true, List.all_eq_true]
    refine forall₂_congr fun piece hpiece => ?_
    rw [isSome_fill? (h pieces hpieces piece hpiece) _ m m' e e']

/-- A format of such fields in which one entry can be written is good for all. -/
theorem isValid_of_line? (h : IsSteady format) (hline : (line? format m e).isSome = true) :
    IsValid format :=
  fun m' e' => (isSome_line?_congr h m m' e e').symm.trans hline

end Format

end DocWeave.Log
