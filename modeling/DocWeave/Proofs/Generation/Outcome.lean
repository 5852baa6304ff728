import DocWeave.Proofs.Generation.Pool

/-!
# What may come of a pool

* `outcome_ok`, `outcome_error` — what the results of jobs have in common is found in what a run of
  the pool gives: in every comment, or in the failure of the first job in order that failed
* `exists_step_of_run`, `load_lt_of_run` — a run goes on until there is a result, and gets there
* `outcome_performAll` — doing the jobs one after the other is one of the things that may come of
  them

The last is shown by following one worker: it takes a job, goes on with it to its end and hands it
over, and the result is collected before the next job is taken.
-/

namespace DocWeave.Generation.Pool

variable {ask : Asker} {workers : Nat} {p q : Pool} {jobs : List Job} {s s' : Session}

/-! ## Results -/

theorem result?_eq_ok {count : Nat} {bs : List Text} (h : p.result? count = some (.ok bs)) :
    p.collected = bs ∧ bs.length = count := by
  unfold result? at h
  split at h
  · split at h
    · cases h
    · split at h
      · next hlen =>
        cases h
        exact ⟨rfl, hlen⟩
      · cases h
  · cases h

theorem result?_eq_error {count : Nat} {e : Failure} (h : p.result? count = some (.error e)) :
    p.failure = some e := by
  unfold result? at h
  split at h
  · split at h
    · next f hf =>
      cases h
      exact hf
    · split at h <;> cases h
  · cases h

theorem keeps_of_run {Inv : Job → Stage → Prop} (hnext : Preserved ask Inv)
    (hfresh : ∀ j ∈ jobs, Inv j .fresh) (hr : Run ask workers (start jobs s) p) : Keeps Inv p :=
  (keeps_start hfresh s).run hnext hr

theorem outcome_ok {Inv : Job → Stage → Prop} (hnext : Preserved ask Inv)
    (hfresh : ∀ j ∈ jobs, Inv j .fresh) {bs : List Text}
    (h : Outcome ask workers jobs s (.ok bs, s')) :
    bs.length = jobs.length
      ∧ ∀ i b, bs[i]? = some b → ∃ j, j.number = i ∧ Inv j (.settled (.ok b)) := by
  obtain ⟨p, hr, hres, -⟩ := h
  obtain ⟨rfl, hlen⟩ := result?_eq_ok hres
  exact ⟨hlen, (keeps_of_run hnext hfresh hr).collected⟩

theorem outcome_error {Inv : Job → Stage → Prop} (hnext : Preserved ask Inv)
    (hfresh : ∀ j ∈ jobs, Inv j .fresh) {e : Failure}
    (h : Outcome ask workers jobs s (.error e, s')) :
    ∃ n, (∃ j, j.number = n ∧ Inv j (.settled (.error e)))
      ∧ ∀ i < n, ∃ b j, j.number = i ∧ Inv j (.settled (.ok b)) := by
  obtain ⟨p, hr, hres, -⟩ := h
  have hk := keeps_of_run hnext hfresh hr
  refine ⟨p.collected.length, hk.failure e (result?_eq_error hres), ?_⟩
  intro i hi
  exact ⟨_, hk.collected i _ (List.getElem?_eq_getElem hi)⟩

/-! ## Every run gets there -/

/-- The jobs of a run are the ones with which it began. -/
theorem keeps_mem (hr : Run ask workers (start jobs s) p) : Keeps (fun j _ => j ∈ jobs) p :=
  keeps_of_run (fun _ _ h => h) (fun _ h => h) hr

theorem length_collected_le (hn : NumberedFrom 0 jobs) (hr : Run ask workers (start jobs s) p) :
    p.collected.length ≤ jobs.length := by
  rcases Nat.lt_or_ge jobs.length p.collected.length with hi | hi
  · obtain ⟨j, hj, hmem⟩ := (keeps_mem hr).collected _ _ (List.getElem?_eq_getElem hi)
    have := hn.lt hmem
    omega
  · exact hi

theorem done_lt (hn : NumberedFrom 0 jobs) (hr : Run ask workers (start jobs s) p) :
    ∀ d ∈ p.done, d.1 < jobs.length := by
  intro d hd
  obtain ⟨j, hj, hmem⟩ := (keeps_mem hr).done d hd
  rw [← hj]
  exact hn.lt hmem

/-- A run can go on as long as there is no result. -/
theorem exists_step_of_run (hworkers : 0 < workers) (hn : NumberedFrom 0 jobs)
    (hr : Run ask workers (start jobs s) p) (hres : p.result? jobs.length = none) :
    ∃ q, Step ask workers p q :=
  exists_step hworkers (fun _ hi => (accounts_start hn s hi).run hr) (length_collected_le hn hr)
    hres

theorem load_lt_of_run (hn : NumberedFrom 0 jobs) (hr : Run ask workers (start jobs s) p)
    (hs : Step ask workers p q) : load jobs.length q < load jobs.length p :=
  load_step_lt (done_lt hn hr) hs

/-- No run goes on for ever. -/
theorem not_forall_step (hn : NumberedFrom 0 jobs) :
    ¬ ∃ run : Nat → Pool, run 0 = start jobs s ∧ ∀ n, Step ask workers (run n) (run (n + 1)) := by
  rintro ⟨run, h0, hstep⟩
  -- no more steps can be taken than the load of the first pool
  have hr (n : Nat) : Run ask workers (start jobs s) (run n) := by
    induction n with
    | zero => rw [h0]
    | succ n ih => exact ih.tail (hstep n)
  have hload (n : Nat) : load jobs.length (run n) + n ≤ load jobs.length (run 0) := by
    induction n with
    | zero => exact Nat.le_refl _
    | succ n ih =>
      have := load_lt_of_run hn (hr n) (hstep n)
      omega
  have := hload (load jobs.length (run 0) + 1)
  omega

/-! ## One after the other -/

theorem run_handIn (jobs : List Job) (ha : p.ahead = jobs) :
    Run ask workers p { p with ahead := [], waiting := p.waiting ++ jobs } := by
  induction jobs generalizing p with
  | nil =>
    rw [List.append_nil, ← ha]
  | cons j rest ih =>
    refine .head (.handIn ha) ?_
    have := ih (p := { p with ahead := rest, waiting := p.waiting ++ [j] }) rfl
    simpa using this

/-- What the work of a worker comes to from where it is. -/
def finish (ask : Asker) (w : Work) (s : Session) : Except Failure Text × Session :=
  w.stage.finish (ask.forJob w.job.number) w.job.prepared s

/-- A worker that is alone takes the work at its job to the end. -/
theorem run_finish {w : Work} (hb : p.busy = [w]) :
    Run ask workers p { p with
      busy := [{ w with stage := .settled (finish ask w p.session).1 }]
      session := (finish ask w p.session).2 } := by
  -- by the steps that are left, for `finish` recurses on attempts, each of which takes two steps
  induction hn : w.stage.left w.job.prepared using Nat.strongRecOn generalizing p w with
  | _ n ih =>
    cases hs : w.stage.isSettled with
    | true =>
      obtain ⟨result, hw⟩ := Stage.isSettled_iff.mp hs
      have hfin : finish ask w p.session = (result, p.session) := by rw [finish, hw]; rfl
      rw [hfin, ← hw, ← hb]
    | false =>
      have hb' : p.busy = [] ++ w :: [] := hb
      have hlt := Stage.next_left_lt (ask.forJob w.job.number) w.job.prepared w.stage p.session hs
      have hfin : finish ask { w with stage := (next ask w p.session).1 } (next ask w p.session).2
          = finish ask w p.session := Stage.finish_next _ _ _ _
      have hrest := ih _ (hn ▸ hlt) (p := { p with
        busy := [{ w with stage := (next ask w p.session).1 }]
        session := (next ask w p.session).2 }) rfl rfl
      rw [hfin] at hrest
      exact .head (.advance hb' hs) hrest

/-- A job that is taken is done, and what it has come to is handed over. -/
theorem run_job (hworkers : 0 < workers) {j : Job} {rest : List Job} (hw : p.waiting = j :: rest)
    (hb : p.busy = []) :
    Run ask workers p { p with
      waiting := rest
      done := (j.number, (j.perform ask p.session).1) :: p.done
      session := (j.perform ask p.session).2 } := by
  let taken : Pool := { p with waiting := rest, busy := [{ job := j }] }
  let settled : Work := { job := j, stage := .settled (j.perform ask p.session).1 }
  let finished : Pool := { taken with busy := [settled], session := (j.perform ask p.session).2 }
  have htake : Step ask workers p taken := by
    have hstep : Step ask workers p { p with waiting := rest, busy := p.busy ++ [{ job := j }] } :=
      .take hw (by rw [hb]; exact hworkers)
    rwa [hb] at hstep
  have hdone : Run ask workers taken finished := run_finish (p := taken) (w := { job := j }) rfl
  have hbusy : finished.busy = [] ++ settled :: [] := rfl
  have hover : Step ask workers finished _ := .handOver hbusy rfl
  rw [hb]
  exact .head htake (hdone.tail hover)

/-- Behind a failure, all jobs that wait are dropped. -/
theorem run_drop (hf : p.failure.isSome) (waiting : List Job) (hw : p.waiting = waiting) :
    Run ask workers p { p with waiting := [] } := by
  induction waiting generalizing p with
  | nil => rw [← hw]
  | cons j rest ih =>
    have hw' : p.waiting = [] ++ j :: rest := hw
    exact .head (.drop hf hw') (ih (p := { p with waiting := [] ++ rest }) hf rfl)

/-- A pool in which nobody works any more, no failure has been met, and the collecting has come as
far as the work. -/
structure Idle (p : Pool) : Prop where
  ahead : p.ahead = []
  busy : p.busy = []
  going : p.failure = none

/-- Whatever is left for one worker to do comes to what doing the jobs in order comes to. -/
theorem run_performAll (hworkers : 0 < workers) (waiting : List Job) (hp : p.Idle)
    (hw : p.waiting = waiting) (hn : NumberedFrom p.collected.length waiting) :
    ∃ q, Run ask workers p q ∧ q.waiting = [] ∧ q.busy = []
      ∧ q.session = (performAll ask waiting p.session).2
      ∧ match (performAll ask waiting p.session).1 with
        | .ok bs => q.failure = none ∧ q.collected = p.collected ++ bs
        | .error e => q.failure = some e := by
  induction waiting generalizing p with
  | nil => exact ⟨p, .refl, hw, hp.busy, rfl, hp.going, (List.append_nil _).symm⟩
  | cons j rest ih =>
    have hjob : Run ask workers p _ := run_job hworkers hw hp.busy
    rw [hn.head] at hjob
    rw [performAll]
    cases hr : j.perform ask p.session with
    | mk result s =>
      rw [hr] at hjob
      cases result with
      | error e =>
        -- the collecting ends here, and the jobs that still wait are dropped
        have hfail := hjob.tail (.fail hp.ahead hp.going List.mem_cons_self)
        exact ⟨_, hfail.trans (run_drop rfl rest rfl), rfl, hp.busy, rfl, rfl⟩
      | ok b =>
        have hcollect := hjob.tail (.collect hp.ahead hp.going List.mem_cons_self)
        have hidle : Idle { p with
            waiting := rest
            done := (p.collected.length, .ok b) :: p.done
            collected := p.collected ++ [b]
            session := s } := ⟨hp.ahead, hp.busy, hp.going⟩
        obtain ⟨q, hrest, hqw, hqb, hqs, hq⟩ := ih hidle rfl (by simpa using hn.tail)
        refine ⟨q, hcollect.trans hrest, hqw, hqb, hqs, ?_⟩
        cases hall : (performAll ask rest s).1 with
        | error e => simpa [hall, Except.map] using hq
        | ok bs => simpa [hall, Except.map] using hq

theorem length_performAll {bs : List Text} (h : (performAll ask jobs s).1 = .ok bs) :
    bs.length = jobs.length := by
  induction jobs generalizing s bs with
  | nil =>
    cases h
    rfl
  | cons j rest ih =>
    rw [performAll] at h
    split at h
    · cases h
    · next b s₁ _ =>
      cases hall : (performAll ask rest s₁).1 with
      | error e => simp [hall, Except.map] at h
      | ok more =>
        simp only [hall, Except.map, Except.ok.injEq] at h
        rw [← h, List.length_cons, List.length_cons, ih hall]

/-- To do the jobs one after the other is one of the ways to do them. -/
theorem outcome_performAll (hworkers : 0 < workers) (hn : NumberedFrom 0 jobs) (s : Session) :
    Outcome ask workers jobs s (performAll ask jobs s) := by
  let handedIn : Pool := { start jobs s with ahead := [], waiting := jobs }
  have hin : Run ask workers (start jobs s) handedIn := run_handIn jobs rfl
  have hidle : handedIn.Idle := ⟨rfl, rfl, rfl⟩
  have hall : ∃ q, Run ask workers handedIn q ∧ _ := run_performAll hworkers jobs hidle rfl hn
  obtain ⟨q, hrun, hqw, hqb, hqs, hq⟩ := hall
  refine ⟨q, hin.trans hrun, ?_, hqs⟩
  change match (performAll ask jobs s).1 with
    | .ok bs => q.failure = none ∧ q.collected = [] ++ bs
    | .error e => q.failure = some e at hq
  cases hr : (performAll ask jobs s).1 with
  | error e =>
    rw [hr] at hq
    simp [result?, hqw, hqb, hq]
  | ok bs =>
    rw [hr] at hq
    simp [result?, hqw, hqb, hq.1, hq.2, length_performAll hr]

end DocWeave.Generation.Pool
