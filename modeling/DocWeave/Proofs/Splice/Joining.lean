import DocWeave.Proofs.Sorting
import DocWeave.Proofs.Splice.Weaving
import Mathlib.Algebra.GroupWithZero.Nat

/-!
# Splicing as cutting and joining

Putting blocks in one after the other, with a running offset, comes to the same as cutting the text
at the starts of all spans, in order, and joining the stretches with the blocks between them.

* `splice_closedForm` — the result of splicing, the place of every block in it, and the span that is
  told of if there is no result
* `splice_rearranged` — the order in which placements are given does not matter, as long as those
  that start at one place keep theirs
-/

namespace DocWeave.Splice

open Sorting

/-! ## Cutting and joining -/

/-- The span of a placement starts in a text, or at its end. -/
def StartsIn (text : Text) (p : Placement) : Prop :=
  0 ≤ p.span.start ∧ p.span.start ≤ text.length

instance (text : Text) (p : Placement) : Decidable (StartsIn text p) :=
  inferInstanceAs (Decidable (_ ∧ _))

/-- The characters of a text from one place up to another. -/
def between (text : Text) (place cut : Nat) : Text := (text.take cut).drop place

/-- The text from `place` on, cut at the starts of spans, with a block and a line break behind every
stretch but the last. -/
def joinedFrom (text : Text) : Nat → List Placement → Text
  | place, [] => text.drop place
  | place, p :: rest =>
    between text place p.span.start.toNat ++ (p.block ++ blockSeparator)
      ++ joinedFrom text p.span.start.toNat rest

/-- The comment of a file, an empty line, and its text with the blocks of placements in order. -/
def joined (text fileComment : Text) (placements : List Placement) : Text :=
  fileComment ++ fileSeparator ++ joinedFrom text 0 placements

/-- The place of the block of a placement, behind those of the placements in front of it. -/
def blockPlace (fileComment : Text) (front : List Placement) (p : Placement) : Nat :=
  p.span.start.toNat + fileComment.length + 2 + (front.map fun q => q.block.length + 1).sum

theorem woven_weaveFrom (text : Text) (place : Nat) (piece : Text) (ps : List Placement) :
    Weave.woven (weaveFrom text place piece ps) = piece ++ joinedFrom text place ps := by
  induction ps generalizing place piece with
  | nil => simp [weaveFrom, joinedFrom, Weave.woven]
  | cons p rest ih =>
    rw [weaveFrom, Weave.woven_cons, ih, joinedFrom, between, List.drop_take]
    simp only [List.append_assoc]

theorem woven_weave (text fileComment : Text) (ps : List Placement) :
    Weave.woven (weave text fileComment ps) = joined text fileComment ps :=
  woven_weaveFrom text 0 _ ps

/-! ## Where blocks are -/

/-- In front of a block stand the stretches up to its span and the blocks of the spans before. -/
theorem exists_joinedFrom_append {text : Text} {place : Nat} {front back : List Placement}
    {p : Placement} (h : AscendingFrom place (front ++ p :: back))
    (hin : ∀ q ∈ front ++ p :: back, StartsIn text q) :
    ∃ before, joinedFrom text place (front ++ p :: back)
        = before ++ ((p.block ++ blockSeparator) ++ joinedFrom text p.span.start.toNat back)
      ∧ before.length + place
        = p.span.start.toNat + (front.map fun q => q.block.length + 1).sum := by
  induction front generalizing place with
  | nil =>
    have hp := hin p List.mem_cons_self
    have hhead : place ≤ p.span.start.toNat := AscendingFrom.head h
    refine ⟨between text place p.span.start.toNat, ?_, ?_⟩
    · rw [List.nil_append, joinedFrom, List.append_assoc]
    · have hcut : p.span.start.toNat ≤ text.length := Int.toNat_le.mpr hp.2
      rw [between, List.length_drop, List.length_take, Nat.min_eq_left hcut,
        Nat.sub_add_cancel hhead, List.map_nil, List.sum_nil, Nat.add_zero]
  | cons q front ih =>
    have hq := hin q List.mem_cons_self
    have hhead : place ≤ q.span.start.toNat := AscendingFrom.head h
    have hcut : q.span.start.toNat ≤ text.length := Int.toNat_le.mpr hq.2
    obtain ⟨before, hbefore, hlength⟩ :=
      ih (AscendingFrom.tail h) fun r hr => hin r (List.mem_cons_of_mem q hr)
    refine ⟨between text place q.span.start.toNat ++ (q.block ++ blockSeparator) ++ before, ?_, ?_⟩
    · rw [List.cons_append, joinedFrom, hbefore, ← List.append_assoc]
    · have hstretch : (between text place q.span.start.toNat).length + place
          = q.span.start.toNat := by
        rw [between, List.length_drop, List.length_take, Nat.min_eq_left hcut,
          Nat.sub_add_cancel hhead]
      simp only [List.length_append, blockSeparator, List.length_singleton, List.map_cons,
        List.sum_cons]
      omega

/-- A block, with the line break behind it, is where the lengths of all that was put in in front of
it lead to. -/
theorem prefix_drop_joined {text fileComment : Text} {front back : List Placement} {p : Placement}
    (h : AscendingFrom 0 (front ++ p :: back)) (hin : ∀ q ∈ front ++ p :: back, StartsIn text q) :
    p.block ++ blockSeparator
      <+: (joined text fileComment (front ++ p :: back)).drop (blockPlace fileComment front p) := by
  obtain ⟨before, hbefore, hlength⟩ := exists_joinedFrom_append h hin
  have hplace : blockPlace fileComment front p
      = (fileComment ++ fileSeparator ++ before).length := by
    simp only [blockPlace, List.length_append, fileSeparator, List.length_cons, List.length_nil]
    omega
  rw [joined, hbefore, ← List.append_assoc, hplace, List.drop_left]
  exact List.prefix_append _ _

/-! ## The first span outside of the text -/

theorem insertAll_eq_error {text : Text} {offset : Nat} {result : Text}
    {front back : List Placement} {p : Placement} (hfront : ∀ q ∈ front, StartsIn text q)
    (hp : ¬ StartsIn text p) :
    insertAll text.length offset result (front ++ p :: back)
      = .error ⟨p.span.name, p.span.start, text.length⟩ := by
  induction front generalizing offset result with
  | nil =>
    rw [List.nil_append, insertAll]
    exact if_neg hp
  | cons q front ih =>
    rw [List.cons_append, insertAll]
    refine (if_pos (hfront q List.mem_cons_self)).trans ?_
    exact ih fun r hr => hfront r (List.mem_cons_of_mem q hr)

theorem exists_first_of_not_forall {text : Text} {ps : List Placement}
    (h : ¬ ∀ p ∈ ps, StartsIn text p) :
    ∃ front p back, ps = front ++ p :: back ∧ (∀ q ∈ front, StartsIn text q)
      ∧ ¬ StartsIn text p := by
  cases hfind : ps.find? fun p => decide (¬ StartsIn text p) with
  | none =>
    refine absurd ?_ h
    intro p hp
    simpa using List.find?_eq_none.mp hfind p hp
  | some p =>
    obtain ⟨hp, front, back, rfl, hfront⟩ := List.find?_eq_some_iff_append.mp hfind
    exact ⟨front, p, back, rfl, fun q hq => by simpa using hfront q hq, by simpa using hp⟩

/-! ## The whole -/

theorem order_eq_of_stablySorted {placements sorted : List Placement}
    (h : StablySorted (fun p => p.span.start) placements sorted) : order placements = sorted :=
  (stablySorted_sort (fun p : Placement => p.span.start) placements).unique h

/-- Let placements be sorted by the starts of their spans, with those that start at one place in the
order in which they were given. Then

* if all spans start in the text, splicing gives the text that is cut at the starts and joined again
  with the blocks, and every block begins at the start of its span and the lengths of all that was
  put in in front of it
* otherwise there is no result, and the first span that starts outside of the text is told of. -/
theorem splice_closedForm (text fileComment : Text) (placements sorted : List Placement)
    (hsorted : StablySorted (fun p => p.span.start) placements sorted) :
    ((∀ p ∈ placements, StartsIn text p) →
        splice text fileComment placements = .ok (joined text fileComment sorted)
          ∧ ∀ front p back, sorted = front ++ p :: back →
            p.block ++ blockSeparator
              <+: (joined text fileComment sorted).drop (blockPlace fileComment front p))
      ∧ ((¬ ∀ p ∈ placements, StartsIn text p) →
        ∃ front p back, sorted = front ++ p :: back ∧ (∀ q ∈ front, StartsIn text q)
          ∧ ¬ StartsIn text p
          ∧ splice text fileComment placements
            = .error ⟨p.span.name, p.span.start, text.length⟩) := by
  have horder := order_eq_of_stablySorted hsorted
  have hmem (p : Placement) : p ∈ sorted ↔ p ∈ placements := hsorted.perm.mem_iff
  constructor
  · intro hin
    have hascending : AscendingFrom 0 sorted :=
      horder ▸ ascendingFrom_order fun p hp => (hin p hp).1
    refine ⟨splice_eq_ok_iff.mpr ⟨hin, by rw [horder, woven_weave]⟩, ?_⟩
    rintro front p back rfl
    exact prefix_drop_joined hascending fun q hq => hin q ((hmem q).mp hq)
  · intro hout
    have hout' : ¬ ∀ p ∈ sorted, StartsIn text p :=
      fun hin => hout fun p hp => hin p ((hmem p).mpr hp)
    obtain ⟨front, p, back, rfl, hfront, hp⟩ := exists_first_of_not_forall hout'
    refine ⟨front, p, back, rfl, hfront, hp, ?_⟩
    rw [splice, horder]
    exact insertAll_eq_error hfront hp

/-- Two blocks at the beginning of a text and one at its end, and then a span in front of the text and
one behind it, of which the first is told. -/
theorem splice_closedForm_atEnds :
    let text := "f();".toList
    let placed (name : String) (start : Int) : Placement :=
      ⟨⟨some name.toList, .function, [], start, start, 1⟩, name.toList⟩
    let given := [placed "g" 4, placed "f" 0, placed "h" 0]
    let sorted := [placed "f" 0, placed "h" 0, placed "g" 4]
    StablySorted (fun p => p.span.start) given sorted ∧ (∀ p ∈ given, StartsIn text p)
      ∧ splice text "d".toList given = .ok (joined text "d".toList sorted)
      ∧ joined text "d".toList sorted = "d\n\nf\nh\nf();g\n".toList
      ∧ "g\n".toList <+: "d\n\nf\nh\nf();g\n".toList.drop (4 + 1 + 2 + (2 + 2))
      ∧ splice text "d".toList [placed "g" 5, placed "f" (-1)]
        = .error ⟨some "f".toList, -1, 4⟩ := by
  intro text placed given sorted
  have hsorted : StablySorted (fun p => p.span.start) given sorted := by
    have horder : order given = sorted := by decide
    exact horder ▸ stablySorted_sort (fun p : Placement => p.span.start) given
  have hin : ∀ p ∈ given, StartsIn text p := by decide
  have hjoined : joined text "d".toList sorted = "d\n\nf\nh\nf();g\n".toList := by decide
  obtain ⟨hok, hplace⟩ := (splice_closedForm text "d".toList given sorted hsorted).1 hin
  refine ⟨hsorted, hin, hok, hjoined, hjoined ▸ hplace [placed "f" 0, placed "h" 0] _ [] rfl, ?_⟩
  have hsorted' : StablySorted (fun p => p.span.start) [placed "g" 5, placed "f" (-1)]
      [placed "f" (-1), placed "g" 5] := by
    have horder : order [placed "g" 5, placed "f" (-1)] = [placed "f" (-1), placed "g" 5] := by
      decide
    exact horder ▸ stablySorted_sort (fun p : Placement => p.span.start) _
  obtain ⟨front, p, back, heq, hfront, -, herror⟩ :=
    (splice_closedForm text "d".toList _ _ hsorted').2 (by decide)
  cases front with
  | nil =>
    obtain ⟨rfl, -⟩ := List.cons.inj heq
    exact herror
  | cons q front =>
    obtain ⟨rfl, -⟩ := List.cons.inj heq
    exact absurd (hfront _ List.mem_cons_self) (by decide)

example : Misplaced.message ⟨some "f".toList, -1, 4⟩
    = "Span 'f' starts at -1, outside text of length 4".toList := by decide +kernel

/-! ## Placements in another order -/

/-- Placements that start at one place stand in the same order in both lists. -/
def KeepsLevel (ps qs : List Placement) : Prop :=
  ∀ start, ps.filter (fun p => p.span.start = start) = qs.filter fun p => p.span.start = start

/-- Splicing does not depend on the order of placements, neither in its result nor in what it tells
if there is none. If all start at different places they may be given in any order, and otherwise in
any in which those that start at one place keep theirs. -/
theorem splice_rearranged (text fileComment : Text) (ps qs : List Placement) (hperm : ps.Perm qs)
    (h : (ps.map fun p => p.span.start).Nodup ∨ KeepsLevel ps qs) :
    splice text fileComment ps = splice text fileComment qs := by
  have hlevel : KeepsLevel ps qs := by
    rcases h with hnodup | hlevel
    · exact filter_eq_of_perm hperm hnodup
    · exact hlevel
  have horder : order ps = order qs := sort_eq_of_filter_eq hlevel
  rw [splice, horder, ← splice]

/-- Three placements back to front, and three of which two that start at one place stay as they are.
-/
theorem splice_rearranged_backwards :
    let text := "f();".toList
    let placed (name : String) (start : Int) : Placement :=
      ⟨⟨some name.toList, .function, [], start, start, 1⟩, name.toList⟩
    splice text "d".toList [placed "f" 0, placed "g" 2, placed "h" 4]
        = splice text "d".toList [placed "h" 4, placed "g" 2, placed "f" 0]
      ∧ splice text "d".toList [placed "f" 7, placed "g" 7, placed "h" 0]
        = splice text "d".toList [placed "f" 7, placed "h" 0, placed "g" 7] := by
  intro text placed
  constructor
  · exact splice_rearranged text _ _ _ (by decide) (Or.inl (by decide))
  · refine splice_rearranged text _ _ _ (by decide) (Or.inr ?_)
    intro start
    by_cases h : start = 0
    · subst h
      decide
    · have hne : (0 : Int) ≠ start := Ne.symm h
      simp [placed, hne, List.filter_cons]

end DocWeave.Splice
