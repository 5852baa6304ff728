import DocWeave.Proofs.Generation.Outcome
import DocWeave.Proofs.Results

/-!
# Schedules do not matter

Where the answer to a question depends on nothing but the question, a job comes to the same whenever
it is done and whatever is done in between. So what comes of the jobs is told by what each of them
comes to alone (`fst_of_outcome`): all their comments in order, or the first failure in order.

The invariant says of a job that is in hand that going on with it comes to what the job comes to
alone. It does not mention other jobs, so that it is preserved by the step of one worker.
-/

namespace DocWeave.Generation

/-- What a job comes to if nothing else is done. -/
def Job.alone (ask : Asker) (j : Job) : Except Failure Text := (j.perform ask {}).1

namespace Pool

variable {ask : Asker} {workers : Nat} {jobs : List Job} {s : Session}
  {r : Except Failure (List Text) × Session}

/-! ## What a job comes to -/

/-- The job is one of `jobs`, and going on with it comes to what it comes to alone. -/
def OnCourse (ask : Asker) (jobs : List Job) (j : Job) (stage : Stage) : Prop :=
  j ∈ jobs ∧ ∀ s, (stage.finish (ask.forJob j.number) j.prepared s).1 = j.alone ask

theorem preserved_onCourse (hask : Steady ask) (jobs : List Job) :
    Preserved ask (OnCourse ask jobs) := by
  intro w s hw
  refine ⟨hw.1, ?_⟩
  intro s'
  have hsteady := Stage.finish_eq_of_steady (hask.forJob w.job.number) w.job.prepared
    (next ask w s).1 s' (next ask w s).2
  rw [hsteady, next, Stage.finish_next]
  exact hw.2 s

theorem onCourse_fresh (hask : Steady ask) {j : Job} (hj : j ∈ jobs) : OnCourse ask jobs j .fresh :=
  ⟨hj, fun s => Stage.finish_eq_of_steady (hask.forJob j.number) j.prepared .fresh s {}⟩

/-- A job that is done has come to what it comes to alone. -/
theorem getElem?_of_onCourse (hn : NumberedFrom 0 jobs) {j : Job} {result : Except Failure Text}
    (h : OnCourse ask jobs j (.settled result)) :
    (jobs.map (Job.alone ask))[j.number]? = some result := by
  rw [List.getElem?_map, hn.getElem? h.1]
  exact congrArg some (h.2 {}).symm

/-! ## What jobs come to -/

/-- What comes of jobs on whatever schedule is told by what each of them comes to alone. -/
theorem fst_of_outcome (hask : Steady ask) (hn : NumberedFrom 0 jobs)
    (h : Outcome ask workers jobs s r) : r.1 = jobs.mapM (Job.alone ask) := by
  obtain ⟨result, s'⟩ := r
  have hnext := preserved_onCourse hask jobs
  have hfresh : ∀ j ∈ jobs, OnCourse ask jobs j .fresh := fun j hj => onCourse_fresh hask hj
  cases result with
  | ok bs =>
    obtain ⟨hlen, hall⟩ := outcome_ok hnext hfresh h
    refine (mapM_eq_ok (List.ext_getElem? fun i => ?_)).symm
    rw [List.getElem?_map (f := Except.ok)]
    cases hb : bs[i]? with
    | none =>
      rw [List.getElem?_eq_none_iff] at hb
      exact List.getElem?_eq_none_iff.mpr (by rw [List.length_map]; omega)
    | some b =>
      obtain ⟨j, rfl, hj⟩ := hall i b hb
      exact getElem?_of_onCourse hn hj
  | error e =>
    obtain ⟨n, ⟨j, rfl, hj⟩, hlt⟩ := outcome_error hnext hfresh h
    refine (mapM_eq_error (getElem?_of_onCourse hn hj) fun i hi => ?_).symm
    obtain ⟨b, k, rfl, hk⟩ := hlt i hi
    exact ⟨b, getElem?_of_onCourse hn hk⟩

end Pool

end DocWeave.Generation
