import DocWeave.Pacing
import Mathlib.Algebra.Order.Field.Rat
import Mathlib.Data.List.Chain
import Mathlib.Tactic.FieldSimp
import Mathlib.Tactic.Linarith

/-!
# The slots that callers are given

On exact times, the slots that are given one after the other are an interval apart, whenever the
callers come.

* `start_of_mem_head?_slots`, `isChain_slots` — the first slot, and each by the one before it
* `pairwise_slots` — any two slots are an interval apart
* `length_window_le` — what starts within a minute
* `keepsTo_slots` — all that it is to keep to a limit
-/

namespace DocWeave.Pacing

section Times

variable {α : Type} [LT α] [DecidableLT α] [Add α]

@[simp] theorem slots_nil (interval next : α) : slots interval next [] = [] := rfl

@[simp] theorem slots_cons (interval next now : α) (readings : List α) :
    slots interval next (now :: readings)
      = take interval now next :: slots interval (take interval now next).next readings := rfl

@[simp] theorem take_now (interval now next : α) : (take interval now next).now = now := rfl

@[simp] theorem take_next (interval now next : α) :
    (take interval now next).next = (take interval now next).start + interval := rfl

/-- There is one slot for each caller, in the order in which they come. -/
theorem map_now_slots (interval next : α) (readings : List α) :
    (slots interval next readings).map Slot.now = readings := by
  induction readings generalizing next with
  | nil => rfl
  | cons now readings ih => rw [slots_cons, List.map_cons, take_now, ih]

end Times

/-! ## Exact times -/

variable {interval next : ℚ} {readings : List ℚ}

theorem later_eq_max (a b : ℚ) : later a b = max a b := by
  unfold later
  split
  · exact (max_eq_right_of_lt ‹_›).symm
  · exact (max_eq_left (not_lt.mp ‹_›)).symm

theorem interval_eq (perMinute : ℤ) :
    (Pacing.interval perMinute : ℚ) = 60 / (max perMinute 1 : ℤ) := rfl

theorem interval_pos (perMinute : ℤ) : 0 < (Pacing.interval perMinute : ℚ) := by
  have hlimit : (0 : ℚ) < (max perMinute 1 : ℤ) := by
    exact_mod_cast one_pos.trans_le (le_max_right perMinute 1)
  rw [interval_eq]
  exact div_pos (by norm_num) hlimit

theorem take_start (interval now next : ℚ) : (take interval now next).start = max now next :=
  later_eq_max now next

/-- No slot starts before its caller has come. -/
theorem now_le_start_of_mem {s : Slot ℚ} (hs : s ∈ slots interval next readings) :
    s.now ≤ s.start := by
  induction readings generalizing next with
  | nil => cases hs
  | cons now readings ih =>
    rcases List.mem_cons.mp hs with rfl | hs
    · rw [take_start]
      exact le_max_left now next
    · exact ih hs

/-- No slot starts before it is free. -/
theorem next_le_start_of_mem (h : 0 ≤ interval) {s : Slot ℚ}
    (hs : s ∈ slots interval next readings) : next ≤ s.start := by
  induction readings generalizing next with
  | nil => cases hs
  | cons now readings ih =>
    have hstart : next ≤ (take interval now next).start := by
      rw [take_start]
      exact le_max_right now next
    rcases List.mem_cons.mp hs with rfl | hs
    · exact hstart
    · have := ih hs
      rw [take_next] at this
      linarith

theorem wait?_eq {s : Slot ℚ} (h : s.now ≤ s.start) :
    s.wait? = if s.start = s.now then none else some (s.start - s.now) := by
  unfold Slot.wait?
  by_cases heq : s.start = s.now
  · rw [if_pos heq, heq, sub_self]
    exact if_neg (lt_irrefl 0)
  · rw [if_neg heq]
    exact if_pos (sub_pos.mpr (lt_of_le_of_ne h (Ne.symm heq)))

/-! ## One slot after the other -/

theorem start_of_mem_head?_slots {s : Slot ℚ} (hs : s ∈ (slots interval next readings).head?) :
    s.start = max s.now next := by
  cases readings with
  | nil => cases hs
  | cons now readings =>
    obtain rfl : take interval now next = s := Option.some.inj hs
    exact take_start interval now next

/-- A slot starts when its caller has come and the slot before it is over. -/
theorem isChain_slots :
    (slots interval next readings).IsChain fun a b => b.start = max b.now (a.start + interval) := by
  induction readings generalizing next with
  | nil => exact .nil
  | cons now readings ih =>
    rw [slots_cons, List.isChain_cons]
    exact ⟨fun b hb => start_of_mem_head?_slots hb, ih⟩

theorem pairwise_slots (h : 0 ≤ interval) :
    (slots interval next readings).Pairwise fun a b => a.start + interval ≤ b.start := by
  induction readings generalizing next with
  | nil => exact .nil
  | cons now readings ih =>
    rw [slots_cons, List.pairwise_cons]
    exact ⟨fun b hb => next_le_start_of_mem h hb, ih⟩

/-! ## Within a minute -/

/-- What is apart by an interval and starts before so many intervals are over, is no more. -/
theorem length_le_of_pairwise {s : Slot ℚ} {ss : List (Slot ℚ)} {n : ℕ}
    (hs : (s :: ss).Pairwise fun a b => a.start + interval ≤ b.start)
    (hlt : ∀ b ∈ ss, b.start < s.start + (n + 1) * interval) : ss.length ≤ n := by
  induction ss generalizing s n with
  | nil => exact Nat.zero_le n
  | cons b ss ih =>
    rw [List.pairwise_cons] at hs
    have hb : s.start + interval ≤ b.start := hs.1 b List.mem_cons_self
    have hbn : b.start < s.start + (n + 1) * interval := hlt b List.mem_cons_self
    cases n with
    | zero =>
      simp only [Nat.cast_zero, zero_add, one_mul] at hbn
      exact absurd hbn hb.not_gt
    | succ n =>
      refine Nat.succ_le_succ (ih hs.2 fun c hc => ?_)
      have hcn := hlt c (List.mem_cons_of_mem b hc)
      push_cast at hcn
      linarith

/-- In a minute no more slots start than are allowed. -/
theorem length_window_le (perMinute : ℤ) (next t : ℚ) (readings : List ℚ) :
    (((slots ((Pacing.interval perMinute : ℚ)) next readings).filter
        fun s => t ≤ s.start ∧ s.start < t + 60).length : ℤ) ≤ max perMinute 1 := by
  have hpos := interval_pos perMinute
  obtain ⟨n, hn⟩ : ∃ n : ℕ, max perMinute 1 = n + 1 :=
    ⟨(max perMinute 1 - 1).toNat, by omega⟩
  have hminute : (n + 1) * (Pacing.interval perMinute : ℚ) = 60 := by
    rw [interval_eq, hn]
    push_cast
    field_simp
  have happart : (slots ((Pacing.interval perMinute : ℚ)) next readings).Pairwise
      fun a b => a.start + (Pacing.interval perMinute : ℚ) ≤ b.start := pairwise_slots hpos.le
  replace happart := happart.filter fun s => t ≤ s.start ∧ s.start < t + 60
  rw [hn]
  cases hwindow : (slots ((Pacing.interval perMinute : ℚ)) next readings).filter
      fun s => t ≤ s.start ∧ s.start < t + 60 with
  | nil => simp only [List.length_nil, Nat.cast_zero]; omega
  | cons s ss =>
    rw [hwindow] at happart
    have hin : ∀ b ∈ s :: ss, t ≤ b.start ∧ b.start < t + 60 := by
      intro b hb
      rw [← hwindow] at hb
      simpa using (List.mem_filter.mp hb).2
    have hle : ss.length ≤ n := by
      refine length_le_of_pairwise happart fun b hb => ?_
      have hs := (hin s List.mem_cons_self).1
      have hb := (hin b (List.mem_cons_of_mem s hb)).2
      linarith
    rw [List.length_cons]
    omega

/-! ## Keeping to a limit -/

/-- The slots are given to callers who come at these times, and keep to a limit of so many a minute.
-/
structure KeepsTo (limit : ℤ) (readings : List ℚ) (given : List (Slot ℚ)) : Prop where
  callers : given.map Slot.now = readings
  first : ∀ s ∈ given.head?, s.start = max s.now 0
  next : given.IsChain fun a b => b.start = max b.now (a.start + (60 : ℚ) / limit)
  waits : ∀ s ∈ given, 0 ≤ s.start - s.now
    ∧ s.wait? = if s.start = s.now then none else some (s.start - s.now)
  /-- Who comes late enough does not wait. -/
  late : given.IsChain fun a b => a.start + (60 : ℚ) / limit ≤ b.now → b.wait? = none
  apart : given.Pairwise fun a b => a.start + (60 : ℚ) / limit ≤ b.start
  window : ∀ t, ((given.filter fun s => t ≤ s.start ∧ s.start < t + 60).length : ℤ) ≤ limit

theorem keepsTo_slots (perMinute : ℤ) (readings : List ℚ) :
    KeepsTo (max perMinute 1) readings (slots ((Pacing.interval perMinute : ℚ)) 0 readings) where
  callers := map_now_slots _ 0 readings
  first _ hs := start_of_mem_head?_slots hs
  next := interval_eq perMinute ▸ isChain_slots
  waits s hs := by
    have hle := now_le_start_of_mem hs
    exact ⟨sub_nonneg.mpr hle, wait?_eq hle⟩
  late := by
    rw [← interval_eq]
    refine isChain_slots.imp fun a b hb hlate => ?_
    rw [max_eq_left hlate] at hb
    rw [wait?_eq hb.ge, if_pos hb]
  apart := interval_eq perMinute ▸ pairwise_slots (interval_pos perMinute).le
  window t := length_window_le perMinute 0 t readings

end DocWeave.Pacing
