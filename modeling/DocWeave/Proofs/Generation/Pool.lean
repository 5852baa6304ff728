import DocWeave.Generation.Pool
import DocWeave.Proofs.Generation.Stage
import Mathlib.Algebra.GroupWithZero.Nat

/-!
# Runs of a pool

What holds of every run of a pool, in whatever order its steps are taken.

* `Keeps.run` — what every step of the work at a job preserves holds of all jobs that are in hand,
  of all that are done, and of what has been collected
* `exists_step` — a pool in which something is left to be done can go on
* `load_step_lt` — with every step less is left to be done, so that no run goes on for ever

`Keeps` is the one induction over runs: what results look like, and that they do not depend on the
order, are two instances of it.
-/

namespace DocWeave.Generation.Pool

variable {ask : Asker} {workers : Nat} {p q : Pool}

/-! ## What steps preserve -/

/-- `Inv` holds of every job as far as it has come. -/
structure Keeps (Inv : Job → Stage → Prop) (p : Pool) : Prop where
  ahead : ∀ j ∈ p.ahead, Inv j .fresh
  waiting : ∀ j ∈ p.waiting, Inv j .fresh
  busy : ∀ w ∈ p.busy, Inv w.job w.stage
  done : ∀ d ∈ p.done, ∃ j, j.number = d.1 ∧ Inv j (.settled d.2)
  collected : ∀ i b, p.collected[i]? = some b → ∃ j, j.number = i ∧ Inv j (.settled (.ok b))
  failure : ∀ e, p.failure = some e →
    ∃ j, j.number = p.collected.length ∧ Inv j (.settled (.error e))

/-- The step of a worker preserves a property of jobs, whatever the session is. -/
def Preserved (ask : Asker) (Inv : Job → Stage → Prop) : Prop :=
  ∀ w s, Inv w.job w.stage → Inv w.job (next ask w s).1

theorem keeps_start {Inv : Job → Stage → Prop} {jobs : List Job} (h : ∀ j ∈ jobs, Inv j .fresh)
    (s : Session) : Keeps Inv (start jobs s) where
  ahead := h
  waiting := by simp [start]
  busy := by simp [start]
  done := by simp [start]
  collected := by simp [start]
  failure := by simp [start]

theorem mem_append_cons {α : Type} {front back : List α} {a b : α} (h : b ∈ front ++ a :: back) :
    b = a ∨ b ∈ front ++ back := by
  rcases List.mem_append.mp h with h | h
  · exact Or.inr (List.mem_append_left _ h)
  · rcases List.mem_cons.mp h with h | h
    · exact Or.inl h
    · exact Or.inr (List.mem_append_right _ h)

theorem mem_of_mem_append {α : Type} {front back : List α} {a b : α} (h : b ∈ front ++ back) :
    b ∈ front ++ a :: back := by
  rcases List.mem_append.mp h with h | h
  · exact List.mem_append_left _ h
  · exact List.mem_append_right _ (List.mem_cons_of_mem a h)

theorem Keeps.step {Inv : Job → Stage → Prop} (hnext : Preserved ask Inv) (h : Keeps Inv p)
    (hs : Step ask workers p q) : Keeps Inv q := by
  -- all steps but `advance` only move jobs and results from one place to another
  cases hs with
  | @handIn j rest ahead =>
    have hj : Inv j .fresh := h.ahead j (by rw [ahead]; exact List.mem_cons_self)
    refine { h with ahead := ?_, waiting := ?_ }
    · intro k hk
      exact h.ahead k (by rw [ahead]; exact List.mem_cons_of_mem j hk)
    · intro k hk
      rcases List.mem_append.mp hk with hk | hk
      · exact h.waiting k hk
      · rw [List.mem_singleton.mp hk]
        exact hj
  | @take j rest waiting free =>
    have hj : Inv j .fresh := h.waiting j (by rw [waiting]; exact List.mem_cons_self)
    refine { h with waiting := ?_, busy := ?_ }
    · intro k hk
      exact h.waiting k (by rw [waiting]; exact List.mem_cons_of_mem j hk)
    · intro w hw
      rcases List.mem_append.mp hw with hw | hw
      · exact h.busy w hw
      · rw [List.mem_singleton.mp hw]
        exact hj
  | @advance w front back busy unsettled =>
    refine { h with busy := ?_ }
    intro v hv
    rcases mem_append_cons hv with rfl | hv
    · exact hnext w p.session (h.busy w (by rw [busy]; simp))
    · exact h.busy v (by rw [busy]; exact mem_of_mem_append hv)
  | @handOver w front back result busy settled =>
    have hw : Inv w.job (.settled result) := settled ▸ h.busy w (by rw [busy]; simp)
    refine { h with busy := ?_, done := ?_ }
    · intro v hv
      exact h.busy v (by rw [busy]; exact mem_of_mem_append hv)
    · intro d hd
      rcases List.mem_cons.mp hd with rfl | hd
      · exact ⟨w.job, rfl, hw⟩
      · exact h.done d hd
  | @collect b ahead going done =>
    refine { h with collected := ?_, failure := ?_ }
    · intro i c hc
      -- all comments but the last one were there before
      rcases Nat.lt_or_ge i p.collected.length with hi | hi
      · rw [List.getElem?_append_left hi] at hc
        exact h.collected i c hc
      · rw [List.getElem?_append_right hi, List.getElem?_singleton] at hc
        split at hc
        · next h0 =>
          cases hc
          have hlen : i = p.collected.length := by omega
          exact hlen ▸ h.done _ done
        · cases hc
    · intro e he
      rw [show p.failure = some e from he] at going
      cases going
  | @fail e ahead going done =>
    refine { h with failure := ?_ }
    intro f hf
    cases hf
    exact h.done _ done
  | @drop j front back stopped waiting =>
    refine { h with waiting := ?_ }
    intro k hk
    exact h.waiting k (by rw [waiting]; exact mem_of_mem_append hk)

/-- What the steps of workers preserve holds all through a run. -/
theorem Keeps.run {Inv : Job → Stage → Prop} (hnext : Preserved ask Inv) (h : Keeps Inv p)
    (hr : Run ask workers p q) : Keeps Inv q := by
  induction hr with
  | refl => exact h
  | tail _ hs ih => exact ih.step hnext hs

/-! ## No job gets lost -/

/-- Job `i` is still to be handed in, waits, is in hand or is done, or there has been a failure. -/
def Accounts (i : Nat) (p : Pool) : Prop :=
  i ∈ p.ahead.map Job.number ∨ i ∈ p.waiting.map Job.number
    ∨ i ∈ p.busy.map (fun w => w.job.number) ∨ i ∈ p.done.map Prod.fst ∨ p.failure.isSome

theorem Accounts.step {i : Nat} (h : Accounts i p) (hs : Step ask workers p q) : Accounts i q := by
  unfold Accounts at h ⊢
  cases hs with
  | handIn ahead =>
    rw [ahead] at h
    simp only [List.map_cons, List.mem_cons, List.map_append, List.mem_append, List.map_nil,
      List.not_mem_nil, or_false] at h ⊢
    grind
  | take waiting free =>
    rw [waiting] at h
    simp only [List.map_cons, List.mem_cons, List.map_append, List.mem_append, List.map_nil,
      List.not_mem_nil, or_false] at h ⊢
    grind
  | advance busy unsettled =>
    rw [busy] at h
    simp only [List.map_cons, List.mem_cons, List.map_append, List.mem_append] at h ⊢
    exact h
  | handOver busy settled =>
    rw [busy] at h
    simp only [List.map_cons, List.mem_cons, List.map_append, List.mem_append] at h ⊢
    grind
  | collect ahead going done => exact h
  | fail ahead going done => exact Or.inr (Or.inr (Or.inr (Or.inr rfl)))
  | drop stopped waiting => exact Or.inr (Or.inr (Or.inr (Or.inr stopped)))

theorem Accounts.run {i : Nat} (h : Accounts i p) (hr : Run ask workers p q) : Accounts i q := by
  induction hr with
  | refl => exact h
  | tail _ hs ih => exact ih.step hs

/-- Jobs are numbered in order, from `first` on. -/
def NumberedFrom (first : Nat) (jobs : List Job) : Prop :=
  ∀ i j, jobs[i]? = some j → j.number = first + i

theorem NumberedFrom.head {first : Nat} {j : Job} {rest : List Job}
    (h : NumberedFrom first (j :: rest)) : j.number = first := h 0 j rfl

theorem NumberedFrom.tail {first : Nat} {j : Job} {rest : List Job}
    (h : NumberedFrom first (j :: rest)) : NumberedFrom (first + 1) rest := by
  intro i k hk
  have := h (i + 1) k (by simpa using hk)
  omega

/-- The jobs of a numbered row are known by their numbers. -/
theorem NumberedFrom.getElem? {jobs : List Job} (h : NumberedFrom 0 jobs) {j : Job}
    (hj : j ∈ jobs) : jobs[j.number]? = some j := by
  obtain ⟨i, hi⟩ := List.mem_iff_getElem?.mp hj
  have hn := h i j hi
  rw [Nat.zero_add] at hn
  rw [hn, hi]

theorem NumberedFrom.lt {jobs : List Job} (h : NumberedFrom 0 jobs) {j : Job} (hj : j ∈ jobs) :
    j.number < jobs.length := (List.getElem?_eq_some_iff.mp (h.getElem? hj)).1

theorem accounts_start {jobs : List Job} (hn : NumberedFrom 0 jobs) (s : Session) {i : Nat}
    (hi : i < jobs.length) : Accounts i (start jobs s) := by
  refine Or.inl (List.mem_map.mpr ⟨jobs[i], List.getElem_mem hi, ?_⟩)
  have := hn i jobs[i] (List.getElem?_eq_getElem hi)
  omega

/-! ## Going on -/

/-- A worker that has a job in hand can go on with it or hand it over. -/
theorem exists_step_of_busy (h : p.busy ≠ []) : ∃ q, Step ask workers p q := by
  obtain ⟨w, rest, hw⟩ := List.exists_cons_of_ne_nil h
  have hb : p.busy = [] ++ w :: rest := hw
  cases hs : w.stage with
  | settled result => exact ⟨_, .handOver hb hs⟩
  | fresh => exact ⟨_, .advance hb (by rw [hs]; rfl)⟩
  | due t more attempt => exact ⟨_, .advance hb (by rw [hs]; rfl)⟩
  | answered t more attempt answer => exact ⟨_, .advance hb (by rw [hs]; rfl)⟩

/-- As long as it is not clear what the jobs have come to, something can be done. -/
theorem exists_step {count : Nat} (hworkers : 0 < workers) (hall : ∀ i < count, Accounts i p)
    (hle : p.collected.length ≤ count) (hr : p.result? count = none) :
    ∃ q, Step ask workers p q := by
  by_cases hbusy : p.busy = []
  · cases hwaiting : p.waiting with
    | cons j rest => exact ⟨_, .take hwaiting (by rw [hbusy]; exact hworkers)⟩
    | nil =>
      have hnone : p.failure = none := by
        cases hf : p.failure with
        | none => rfl
        | some e => simp [result?, hwaiting, hbusy, hf] at hr
      have hlt : p.collected.length < count := by
        simp [result?, hwaiting, hbusy, hnone] at hr
        omega
      cases hahead : p.ahead with
      | cons j rest => exact ⟨_, .handIn hahead⟩
      | nil =>
        -- nothing is left anywhere else, so the next job in order is done
        have hdone : p.collected.length ∈ p.done.map Prod.fst := by
          have := hall _ hlt
          simpa [Accounts, hahead, hwaiting, hbusy, hnone] using this
        obtain ⟨⟨i, result⟩, hd, rfl⟩ := List.mem_map.mp hdone
        cases result with
        | ok b => exact ⟨_, .collect hahead hnone hd⟩
        | error e => exact ⟨_, .fail hahead hnone hd⟩
  · exact exists_step_of_busy hbusy

/-! ## Coming to an end -/

/-- A bound on the steps that are left, where `count` comments are to be collected. -/
def load (count : Nat) (p : Pool) : Nat :=
  (p.ahead.map fun j => Stage.fresh.left j.prepared + 3).sum
    + (p.waiting.map fun j => Stage.fresh.left j.prepared + 2).sum
    + (p.busy.map fun w => w.stage.left w.job.prepared + 1).sum
    + (count - p.collected.length) + (if p.failure.isSome then 0 else 1)

theorem load_step_lt {count : Nat} (hdone : ∀ d ∈ p.done, d.1 < count)
    (hs : Step ask workers p q) : load count q < load count p := by
  unfold load
  -- every step moves something from a summand where it counts for more to one where it counts for less
  cases hs with
  | handIn ahead =>
    simp only [ahead, List.map_cons, List.map_append, List.map_nil, List.sum_cons, List.sum_append,
      List.sum_nil]
    omega
  | take waiting free =>
    simp only [waiting, List.map_cons, List.map_append, List.map_nil, List.sum_cons, List.sum_append,
      List.sum_nil]
    omega
  | @advance w front back busy unsettled =>
    have := Stage.next_left_lt (ask.forJob w.job.number) w.job.prepared w.stage p.session unsettled
    simp only [busy, next, List.map_cons, List.map_append, List.sum_cons, List.sum_append]
    omega
  | handOver busy settled =>
    simp only [busy, List.map_cons, List.map_append, List.sum_cons, List.sum_append]
    omega
  | collect ahead going done =>
    have := hdone _ done
    simp only [List.length_append, List.length_singleton] at this ⊢
    omega
  | fail ahead going done =>
    simp [going]
  | drop stopped waiting =>
    simp only [waiting, List.map_cons, List.map_append, List.sum_cons, List.sum_append]
    omega

end DocWeave.Generation.Pool
