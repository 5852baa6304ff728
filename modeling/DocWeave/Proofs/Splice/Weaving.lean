import DocWeave.Proofs.Sorting
import DocWeave.Splice

/-!
# Splicing as weaving

A text into which pieces have been put is a weave: a row of pairs, each of a piece that was put in
and the stretch of the old text that follows it. Splicing keeps a running offset instead, and cuts
the text anew for every block; the two come to the same.

* `splice_eq_ok_iff` — what splicing gives is the weave of the text and the blocks, and there is a
  result exactly if all spans start in the text
* `plain_weave`, `cuts_weave` — the weave holds the whole text, and is cut where spans start
* `deleteAll_stretches` — a weave without the pieces that were put in is the old text

The loop is carried by one invariant: so far the result is `done`, which is as long as the part of
the text that has been passed and all that was put in, followed by the part that is still ahead.
-/

namespace DocWeave

/-! ## Weaves -/

/-- Pieces that were put in, each with the stretch of the old text behind it. -/
abbrev Weave (α : Type) := List (List α × List α)

namespace Weave

variable {α : Type}

/-- The text with all that was put in. -/
def woven (w : Weave α) : List α := w.flatMap fun e => e.1 ++ e.2

/-- The old text. -/
def plain (w : Weave α) : List α := w.flatMap Prod.snd

/-- What was put in. -/
def inserted (w : Weave α) : List (List α) := w.map Prod.fst

/-- Where pieces were put into the old text, of which `place` characters are in front. -/
def cutsFrom : Nat → Weave α → List Nat
  | _, [] => []
  | place, e :: w => place :: cutsFrom (place + e.2.length) w

def cuts (w : Weave α) : List Nat := cutsFrom 0 w

@[simp] theorem woven_cons (e : List α × List α) (w : Weave α) :
    woven (e :: w) = e.1 ++ e.2 ++ woven w := rfl

@[simp] theorem plain_cons (e : List α × List α) (w : Weave α) :
    plain (e :: w) = e.2 ++ plain w := rfl

/-! ## Taking out what was put in -/

/-- The stretches, by place and length, that hold what was put in. -/
def stretchesFrom : Nat → Weave α → List (Nat × Nat)
  | _, [] => []
  | place, e :: w => (place, e.1.length) :: stretchesFrom (place + e.1.length + e.2.length) w

def stretches (w : Weave α) : List (Nat × Nat) := stretchesFrom 0 w

/-- Takes stretches out of a text, the last one first, so that those in front keep their places. -/
def deleteAll : List (Nat × Nat) → List α → List α
  | [], l => l
  | (place, length) :: more, l =>
    (deleteAll more l).take place ++ (deleteAll more l).drop (place + length)

theorem deleteAll_stretchesFrom (w : Weave α) (front : List α) :
    deleteAll (stretchesFrom front.length w) (front ++ woven w) = front ++ plain w := by
  induction w generalizing front with
  | nil => rfl
  | cons e w ih =>
    have hrest : deleteAll (stretchesFrom (front.length + e.1.length + e.2.length) w)
        (front ++ woven (e :: w)) = front ++ (e.1 ++ (e.2 ++ plain w)) := by
      have := ih (front ++ e.1 ++ e.2)
      simpa [Nat.add_assoc] using this
    rw [stretchesFrom, deleteAll, hrest, List.take_left, ← List.length_append,
      ← List.append_assoc front, List.drop_left, plain_cons]

/-- Without what was put in, the old text is left. -/
theorem deleteAll_stretches (w : Weave α) : deleteAll (stretches w) (woven w) = plain w :=
  deleteAll_stretchesFrom w []

end Weave

namespace Splice

open Weave

/-! ## The weave of a text and blocks -/

/-- The weave of the text behind `place`: `piece` goes in front of it, and every block in front of
its span. -/
def weaveFrom (text : Text) : Nat → Text → List Placement → Weave Char
  | place, piece, [] => [(piece, text.drop place)]
  | place, piece, p :: rest =>
    (piece, (text.drop place).take (p.span.start.toNat - place)) ::
      weaveFrom text p.span.start.toNat (p.block ++ blockSeparator) rest

/-- The weave of a text with the comment of the file and the blocks of placements in order. -/
def weave (text fileComment : Text) (placements : List Placement) : Weave Char :=
  weaveFrom text 0 (fileComment ++ fileSeparator) placements

/-- Placements from `place` on, in the order of their starts. -/
def AscendingFrom (place : Nat) (placements : List Placement) : Prop :=
  (∀ p ∈ placements, (place : Int) ≤ p.span.start)
    ∧ placements.Pairwise fun p q => p.span.start ≤ q.span.start

theorem AscendingFrom.head {place : Nat} {p : Placement} {rest : List Placement}
    (h : AscendingFrom place (p :: rest)) : place ≤ p.span.start.toNat := by
  have := h.1 p List.mem_cons_self
  omega

theorem AscendingFrom.tail {place : Nat} {p : Placement} {rest : List Placement}
    (h : AscendingFrom place (p :: rest)) : AscendingFrom p.span.start.toNat rest := by
  have hp := h.1 p List.mem_cons_self
  refine ⟨?_, h.2.of_cons⟩
  intro q hq
  have := List.rel_of_pairwise_cons h.2 hq
  omega

/-- The stretch up to the next cut and what is behind the cut. -/
theorem take_append_drop_cut (text : Text) {place cut : Nat} (h : place ≤ cut) :
    (text.drop place).take (cut - place) ++ text.drop cut = text.drop place := by
  have hcut : text.drop cut = (text.drop place).drop (cut - place) := by
    rw [List.drop_drop, Nat.add_sub_cancel' h]
  rw [hcut, List.take_append_drop]

theorem woven_weaveFrom_append (text : Text) (place : Nat) (a b : Text) (ps : List Placement) :
    woven (weaveFrom text place (a ++ b) ps) = a ++ woven (weaveFrom text place b ps) := by
  cases ps <;> simp [weaveFrom]

theorem plain_weaveFrom (text : Text) {place : Nat} (piece : Text) {ps : List Placement}
    (h : AscendingFrom place ps) : plain (weaveFrom text place piece ps) = text.drop place := by
  induction ps generalizing place piece with
  | nil => simp [weaveFrom, plain]
  | cons p rest ih =>
    rw [weaveFrom, plain_cons, ih _ h.tail]
    exact take_append_drop_cut text h.head

theorem inserted_weaveFrom (text : Text) (place : Nat) (piece : Text) (ps : List Placement) :
    inserted (weaveFrom text place piece ps)
      = piece :: ps.map fun p => p.block ++ blockSeparator := by
  induction ps generalizing place piece with
  | nil => rfl
  | cons p rest ih => rw [List.map_cons, ← ih p.span.start.toNat]; rfl

theorem cutsFrom_weaveFrom (text : Text) {place : Nat} (piece : Text) {ps : List Placement}
    (h : AscendingFrom place ps) (hin : ∀ p ∈ ps, p.span.start ≤ text.length) :
    cutsFrom place (weaveFrom text place piece ps)
      = place :: ps.map fun p => p.span.start.toNat := by
  induction ps generalizing place piece with
  | nil => rfl
  | cons p rest ih =>
    have hp := hin p List.mem_cons_self
    have hhead := h.head
    have hlen : ((text.drop place).take (p.span.start.toNat - place)).length
        = p.span.start.toNat - place := by
      rw [List.length_take, List.length_drop]
      omega
    rw [weaveFrom, cutsFrom, hlen, Nat.add_sub_cancel' hhead,
      ih _ h.tail fun q hq => hin q (List.mem_cons_of_mem p hq), List.map_cons]

/-! ## The loop -/

/-- A piece that is put in behind all that is done comes in front of what is still ahead. -/
theorem insertAt_done {text done : Text} {place offset cut : Nat} (piece : Text)
    (hlen : done.length = place + offset) (h : place ≤ cut) :
    insertAt (cut + offset) piece (done ++ text.drop place)
      = done ++ (text.drop place).take (cut - place) ++ piece ++ text.drop cut := by
  have hplace : cut + offset = done.length + (cut - place) := by omega
  rw [insertAt, hplace, List.take_length_add_append, List.drop_length_add_append, List.drop_drop,
    Nat.add_sub_cancel' h]

theorem insertAll_eq_woven {text done : Text} {place offset : Nat} {ps : List Placement}
    (hlen : done.length = place + offset) (h : AscendingFrom place ps)
    (hin : ∀ p ∈ ps, p.span.start ≤ text.length) :
    insertAll text.length offset (done ++ text.drop place) ps
      = .ok (woven (weaveFrom text place done ps)) := by
  induction ps generalizing done place offset with
  | nil => simp [insertAll, weaveFrom, woven]
  | cons p rest ih =>
    have hp := hin p List.mem_cons_self
    have h0 := h.1 p List.mem_cons_self
    have hhead := h.head
    have hdone : (done ++ (text.drop place).take (p.span.start.toNat - place)
        ++ (p.block ++ blockSeparator)).length
          = p.span.start.toNat + (offset + (p.block ++ blockSeparator).length) := by
      rw [List.length_append, List.length_append, List.length_take, List.length_drop, hlen]
      omega
    rw [insertAll, if_pos ⟨by omega, hp⟩]
    simp only
    -- what is done grows by the stretch up to the span and the block, and so does its length
    rw [insertAt_done _ hlen hhead, ih hdone h.tail fun q hq => hin q (List.mem_cons_of_mem p hq),
      woven_weaveFrom_append, weaveFrom, woven_cons]

/-- There is a result only if all spans start in the text. -/
theorem starts_of_insertAll_eq_ok {length offset : Nat} {result out : Text} {ps : List Placement}
    (h : insertAll length offset result ps = .ok out) :
    ∀ p ∈ ps, 0 ≤ p.span.start ∧ p.span.start ≤ length := by
  induction ps generalizing offset result with
  | nil => simp
  | cons p rest ih =>
    rw [insertAll] at h
    split at h
    · next hp =>
      intro q hq
      rcases List.mem_cons.mp hq with rfl | hq
      · exact hp
      · exact ih h q hq
    · cases h

/-! ## The whole -/

theorem mem_order {p : Placement} {ps : List Placement} : p ∈ order ps ↔ p ∈ ps :=
  Sorting.mem_sort _

theorem pairwise_order (ps : List Placement) :
    (order ps).Pairwise fun p q => p.span.start ≤ q.span.start :=
  Sorting.pairwise_sort_key (fun p => p.span.start) ps

theorem ascendingFrom_order {ps : List Placement} (h : ∀ p ∈ ps, 0 ≤ p.span.start) :
    AscendingFrom 0 (order ps) :=
  ⟨fun p hp => by simpa using h p (mem_order.mp hp), pairwise_order ps⟩

/-- Splicing is weaving, and is done exactly if all spans start in the text. -/
theorem splice_eq_ok_iff {text fileComment out : Text} {ps : List Placement} :
    splice text fileComment ps = .ok out ↔
      (∀ p ∈ ps, 0 ≤ p.span.start ∧ p.span.start ≤ text.length)
        ∧ out = woven (weave text fileComment (order ps)) := by
  have heq (hall : ∀ p ∈ ps, 0 ≤ p.span.start ∧ p.span.start ≤ text.length) :
      splice text fileComment ps = .ok (woven (weave text fileComment (order ps))) := by
    have hlen : (fileComment ++ fileSeparator).length
        = 0 + (fileComment.length + fileSeparator.length) := by simp
    exact insertAll_eq_woven hlen (ascendingFrom_order fun p hp => (hall p hp).1)
      fun p hp => (hall p (mem_order.mp hp)).2
  constructor
  · intro h
    have hall : ∀ p ∈ ps, 0 ≤ p.span.start ∧ p.span.start ≤ text.length := fun p hp =>
      starts_of_insertAll_eq_ok h p (mem_order.mpr hp)
    refine ⟨hall, ?_⟩
    rw [heq hall] at h
    exact (Except.ok.inj h).symm
  · rintro ⟨hall, rfl⟩
    exact heq hall

theorem plain_weave (text fileComment : Text) {ps : List Placement}
    (h : ∀ p ∈ ps, 0 ≤ p.span.start) : plain (weave text fileComment (order ps)) = text :=
  plain_weaveFrom text _ (ascendingFrom_order h)

theorem cuts_weave (text fileComment : Text) {ps : List Placement}
    (h : ∀ p ∈ ps, 0 ≤ p.span.start ∧ p.span.start ≤ text.length) :
    cuts (weave text fileComment (order ps)) = 0 :: (order ps).map fun p => p.span.start.toNat :=
  cutsFrom_weaveFrom text _ (ascendingFrom_order fun p hp => (h p hp).1)
    fun p hp => (h p (mem_order.mp hp)).2

/-- Blocks whose spans start in the text, one behind the other, are put in at places of their own. -/
theorem exists_weave_of_strictly_ascending {text : Text} (fileComment : Text) {ps : List Placement}
    (hin : ∀ p ∈ ps, 0 ≤ p.span.start ∧ p.span.start ≤ text.length)
    (h : ps.Pairwise fun p q => p.span.start < q.span.start) :
    ∃ w : Weave Char, splice text fileComment ps = .ok w.woven ∧ w.plain = text
      ∧ w.inserted = (fileComment ++ fileSeparator) :: ps.map (fun p => p.block ++ blockSeparator)
      ∧ w.cuts = 0 :: ps.map (fun p => p.span.start.toNat) ∧ w.cuts.tail.Pairwise (· < ·) := by
  have horder : order ps = ps :=
    Sorting.sort_eq_self _ (h.imp fun hlt => decide_eq_true (Int.le_of_lt hlt))
  have hcuts := cuts_weave text fileComment hin
  rw [horder] at hcuts
  refine ⟨weave text fileComment (order ps), splice_eq_ok_iff.mpr ⟨hin, rfl⟩,
    plain_weave text fileComment fun p hp => (hin p hp).1, ?_, ?_, ?_⟩
  · rw [horder, weave, inserted_weaveFrom]
  · rw [horder, hcuts]
  · rw [horder, hcuts, List.tail_cons, List.pairwise_map]
    refine h.imp_of_mem ?_
    intro p q hp hq hlt
    have := (hin p hp).1
    omega

end Splice

end DocWeave
