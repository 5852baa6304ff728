import DocWeave.Proofs.Generation.Outcome

/-!
# Why there is no comment

There is no comment because it could not be asked for, or because asking has failed: all attempts
have, or one of them in a way that no other follows. What could be asked for fails only in the second
way, whoever answers and in whatever order the work is done.

* `perform_error_cases`, `error_of_outcome` — one job, and several of them on any schedule
-/

namespace DocWeave.Generation

variable {ask : Asker} {t : Task} {s : Session} {e : Failure}

/-- Asking has failed, not what leads up to it. -/
def Failure.IsOfAsking : Failure → Prop
  | exhausted _ _ _ => True
  | fault _ => True
  | _ => False

theorem isOfAsking_concluded {a : Attempt} (h : (t.concluded a s).1 = .error e) : e.IsOfAsking := by
  cases a with
  | accepted block => cases h
  | failed cause =>
    cases h
    trivial
  | broken f =>
    cases h
    trivial

/-! ## One job -/

theorem isOfAsking_of_attempts {more attempt : Nat} (h : (attempts ask t more attempt s).1 = .error e) :
    e.IsOfAsking := by
  induction more using Nat.strongRecOn generalizing attempt s with
  | _ more ih =>
    rw [attempts_eq] at h
    rcases Stage.next_answered ask (.ok t) t more attempt _ _ with
      ⟨cause, m, rfl, -, hgo⟩ | ⟨outcome, s', -, -, hend⟩
    · rw [hgo] at h
      exact ih m (Nat.lt_succ_self m) h
    · rw [hend] at h
      exact isOfAsking_concluded h

theorem perform_error_cases {prepared : Except Failure Task}
    (h : (perform ask prepared s).1 = .error e) : prepared = .error e ∨ e.IsOfAsking := by
  cases prepared with
  | error e' =>
    cases h
    exact Or.inl rfl
  | ok t => exact Or.inr (isOfAsking_of_attempts h)

/-! ## Several jobs -/

namespace Pool

/-- The job is one of `jobs`, and if its work has failed, then because of what was prepared or because
asking has failed. -/
def FailsInOrder (jobs : List Job) (j : Job) (stage : Stage) : Prop :=
  j ∈ jobs ∧ ∀ e, stage = .settled (.error e) → j.prepared = .error e ∨ e.IsOfAsking

theorem preserved_failsInOrder (ask : Asker) (jobs : List Job) :
    Preserved ask (FailsInOrder jobs) := by
  rintro ⟨j, stage⟩ s ⟨hj, hstage⟩
  refine ⟨hj, fun e he => ?_⟩
  cases stage with
  | fresh =>
    cases hprepared : j.prepared with
    | error e' =>
      simp only [next, Stage.next, hprepared] at he
      cases he
      exact Or.inl rfl
    | ok t =>
      simp only [next, Stage.next, hprepared] at he
      cases he
  | due t more attempt => cases he
  | answered t more attempt answer =>
    rcases Stage.next_answered (ask.forJob j.number) j.prepared t more attempt answer s with
      ⟨cause, m, -, hn, -⟩ | ⟨outcome, s', -, hn, -⟩
    · simp only [next, hn] at he
      cases he
    · simp only [next, hn] at he
      exact Or.inr (isOfAsking_concluded (Stage.settled.inj he))
  | settled result => exact hstage e he

/-- Jobs fail because one of them could not be prepared, or because asking has failed. -/
theorem error_of_outcome {workers : Nat} {jobs : List Job} {s' : Session}
    (h : Outcome ask workers jobs s (.error e, s')) :
    (∃ j ∈ jobs, j.prepared = .error e) ∨ e.IsOfAsking := by
  have hfresh : ∀ j ∈ jobs, FailsInOrder jobs j .fresh := fun j hj => ⟨hj, fun e he => by cases he⟩
  obtain ⟨-, ⟨j, -, hj, hfails⟩, -⟩ := outcome_error (preserved_failsInOrder ask jobs) hfresh h
  rcases hfails e rfl with hprepared | hasking
  · exact Or.inl ⟨j, hj, hprepared⟩
  · exact Or.inr hasking

end Pool

end DocWeave.Generation
