import DocWeave.Proofs.Client.Steps
import DocWeave.Proofs.Generation.Outcome

/-!
# What happens in a session

Workers log something, pause, and ask for what their jobs are about. They do nothing else, so what
these three preserve holds of the session all through a run, and no questions are asked but theirs.

* `Session.Move`, `Session.Follows` — what may happen next, and any number of such things
* `follows_next` — the step of a worker
* `follows_of_outcome` — whatever comes of jobs on whatever schedule
* `onlyAsks_of_follows` — all that has been asked on the way are questions that were allowed
* `sendsAsked_of_follows` — what a service is sent on the way are the prompts of the questions
-/

namespace DocWeave

/-! ## Moves -/

/-- What may happen next in a session: something is logged, there is a pause, or one of the questions
is asked that `P` allows. -/
inductive Session.Move (ask : Asker) (P : Question → Prop) (s : Session) : Session → Prop where
  | log (entries : List Log.Entry) : Move ask P s (s.log entries)
  | pause (seconds : Float) : Move ask P s (s.pause seconds)
  | ask {q : Question} (allowed : P q) : Move ask P s (ask q s).2

/-- Any number of moves. -/
abbrev Session.Follows (ask : Asker) (P : Question → Prop) : Session → Session → Prop :=
  Relation.ReflTransGen (Session.Move ask P)

namespace Session.Follows

variable {ask : Asker} {P P' : Question → Prop} {s s' : Session}

theorem mono (hP : ∀ q, P q → P' q) (h : Follows ask P s s') : Follows ask P' s s' := by
  refine Relation.ReflTransGen.mono (fun s₁ s₂ hmove => ?_) _ _ h
  cases hmove with
  | log entries => exact .log entries
  | pause seconds => exact .pause seconds
  | ask allowed => exact .ask (hP _ allowed)

/-- What every move preserves holds all the way. -/
theorem preserves {Inv : Session → Prop} (hmove : ∀ s s', Move ask P s s' → Inv s → Inv s')
    (h : Follows ask P s s') (hs : Inv s) : Inv s' := by
  induction h with
  | refl => exact hs
  | tail _ hlast ih => exact hmove _ _ hlast ih

end Session.Follows

/-! ## Questions asked -/

/-- From `s` to `s'` no questions have been asked but such as `P` allows. -/
def Session.OnlyAsks (P : Question → Prop) (s s' : Session) : Prop :=
  ∃ qs, s'.asked = qs ++ s.asked ∧ ∀ q ∈ qs, P q

namespace Session.OnlyAsks

variable {P P' : Question → Prop} {s s' s'' : Session}

theorem of_asked_eq (h : s'.asked = s.asked) : s.OnlyAsks P s' :=
  ⟨[], h, fun _ hq => absurd hq List.not_mem_nil⟩

theorem refl (s : Session) : s.OnlyAsks P s := of_asked_eq rfl

theorem trans (h : s.OnlyAsks P s') (h' : s'.OnlyAsks P s'') : s.OnlyAsks P s'' := by
  obtain ⟨qs, heq, hqs⟩ := h
  obtain ⟨qs', heq', hqs'⟩ := h'
  refine ⟨qs' ++ qs, ?_, List.forall_mem_append.mpr ⟨hqs', hqs⟩⟩
  rw [heq', heq, List.append_assoc]

theorem mono (hP : ∀ q, P q → P' q) (h : s.OnlyAsks P s') : s.OnlyAsks P' s' := by
  obtain ⟨qs, heq, hqs⟩ := h
  exact ⟨qs, heq, fun q hq => hP q (hqs q hq)⟩

end Session.OnlyAsks

namespace Generation

/-! ## Who is asked -/

/-- A question that is asked is noted, and nothing else is. -/
def Noting (ask : Asker) : Prop :=
  ∀ q s, (ask q s).2.asked = s.asked ∨ (ask q s).2.asked = q :: s.asked

theorem noting_scripted (answer : List Question → Except Fault Text) :
    Noting (Asker.scripted answer) := fun _ _ => Or.inr rfl

/-- What cannot be sent is not noted. -/
theorem noting_served (timer : Timer) (now : Float)
    (service : List Question → Client.Request → Except Fault Client.Response) :
    Noting (Asker.served timer now service) := by
  intro q s
  simp only [Asker.served]
  split
  · exact Or.inl rfl
  · simp only
    split
    · exact Or.inr rfl
    · exact Or.inl rfl

/-- What has been sent to a service, the newest in front, are the prompts of the questions asked. -/
def SendsAsked (s : Session) : Prop :=
  s.sent.map Client.Request.prompt = s.asked.map Question.prompt

/-- A question is sent as it is asked, or it is neither sent nor noted. -/
theorem sendsAsked_served (timer : Timer) (now : Float)
    (service : List Question → Client.Request → Except Fault Client.Response) (q : Question)
    {s : Session} (h : SendsAsked s) : SendsAsked (Asker.served timer now service q s).2 := by
  simp only [Asker.served]
  split
  · exact h
  · next c _ =>
    unfold SendsAsked Client.generate
    cases hconnect : c.connect with
    | error f =>
      rw [Client.exchange_of_error hconnect]
      exact h
    | ok c' =>
      rw [Client.exchange_of_ok hconnect]
      exact congrArg (q.prompt :: ·) h

theorem sendsAsked_of_follows {timer : Timer} {now : Float}
    {service : List Question → Client.Request → Except Fault Client.Response}
    {P : Question → Prop} {s s' : Session}
    (h : Session.Follows (Asker.served timer now service) P s s') (hs : SendsAsked s) :
    SendsAsked s' := by
  refine h.preserves (fun s₁ s₂ hmove hs₁ => ?_) hs
  cases hmove with
  | log entries => exact hs₁
  | pause seconds => exact hs₁
  | ask allowed => exact sendsAsked_served timer now service _ hs₁

/-- Where questions are noted, all that have been asked on the way are among those allowed. -/
theorem onlyAsks_of_follows {ask : Asker} {P : Question → Prop} {s s' : Session}
    (hask : Noting ask) (h : Session.Follows ask P s s') : s.OnlyAsks P s' := by
  refine h.preserves (fun s₁ s₂ hmove hs => hs.trans ?_) (.refl s)
  cases hmove with
  | log entries => exact .of_asked_eq rfl
  | pause seconds => exact .of_asked_eq rfl
  | @ask q allowed =>
    rcases hask q s₁ with hasked | hasked
    · exact .of_asked_eq hasked
    · exact ⟨[q], hasked, List.forall_mem_singleton.mpr allowed⟩

/-! ## Questions of a job -/

/-- The question is one that the job is about, at some attempt. -/
def Job.Asks (j : Job) (q : Question) : Prop :=
  ∃ t attempt, j.prepared = .ok t ∧ q = { t.question with job := j.number, attempt }

/-- The task at which the work goes on is the one that was prepared. -/
def Stage.Pursues (prepared : Except Failure Task) : Stage → Prop
  | .due t _ _ => prepared = .ok t
  | .answered t _ _ _ => prepared = .ok t
  | _ => True

theorem Stage.pursues_next (ask : Asker) {prepared : Except Failure Task} {stage : Stage}
    (h : stage.Pursues prepared) (s : Session) :
    (stage.next ask prepared s).1.Pursues prepared := by
  cases stage with
  | fresh =>
    cases prepared with
    | error e => trivial
    | ok t => rfl
  | due t more attempt => exact h
  | answered t more attempt answer =>
    rcases next_answered ask prepared t more attempt answer s with
      ⟨cause, m, -, hn, -⟩ | ⟨outcome, s', -, hn, -⟩
    · rw [hn]
      exact h
    · rw [hn]
      trivial
  | settled result => trivial

namespace Pool

variable {ask : Asker} {workers : Nat} {p q : Pool} {jobs : List Job} {s : Session}

theorem follows_concluded {P : Question → Prop} (t : Task) (a : Attempt) (s : Session) :
    Session.Follows ask P s (t.concluded a s).2 := by
  cases a with
  | accepted block => exact .single (.log _)
  | failed cause => exact .refl
  | broken f => exact .refl

/-- A worker logs something and pauses, and asks nothing but what its job is about. -/
theorem follows_next {w : Work} (hw : w.stage.Pursues w.job.prepared) (s : Session) :
    Session.Follows ask w.job.Asks s (next ask w s).2 := by
  obtain ⟨j, stage⟩ := w
  cases stage with
  | fresh =>
    rw [next, Stage.next.eq_def]
    cases j.prepared with
    | error e => exact .refl
    | ok t => exact .single (.log _)
  | due t more attempt => exact .single (.ask ⟨t, attempt, hw, rfl⟩)
  | answered t more attempt answer =>
    rcases Stage.next_answered (ask.forJob j.number) j.prepared t more attempt answer s with
      ⟨cause, m, -, hn, -⟩ | ⟨outcome, s', hends, hn, -⟩
    · rw [next, hn]
      exact .tail (.single (.log _)) (.pause _)
    · rw [next, hn]
      cases hends with
      | answer => exact follows_concluded t _ s
      | refused cause f => exact .head (.log _) (follows_concluded t _ _)
  | settled result => exact .refl

/-! ## Questions of a run -/

/-- The job is one of `jobs`, and the work at it is work at its task. -/
def AtWork (jobs : List Job) (j : Job) (stage : Stage) : Prop :=
  j ∈ jobs ∧ stage.Pursues j.prepared

theorem preserved_atWork (ask : Asker) (jobs : List Job) : Preserved ask (AtWork jobs) :=
  fun _ s hw => ⟨hw.1, Stage.pursues_next _ hw.2 s⟩

theorem follows_step (h : Keeps (AtWork jobs) p) (hs : Step ask workers p q) :
    Session.Follows ask (fun question => ∃ j ∈ jobs, j.Asks question) p.session q.session := by
  cases hs with
  | @advance w front back busy unsettled =>
    obtain ⟨hj, hw⟩ := h.busy w (by rw [busy]; simp)
    exact (follows_next hw p.session).mono fun question hq => ⟨w.job, hj, hq⟩
  | _ => exact .refl

theorem follows_run (hr : Run ask workers (start jobs s) p) :
    Session.Follows ask (fun question => ∃ j ∈ jobs, j.Asks question) s p.session := by
  induction hr with
  | refl => exact .refl
  | tail hr hs ih =>
    have hkeeps := keeps_of_run (preserved_atWork ask jobs) (fun _ hj => ⟨hj, trivial⟩) hr
    exact ih.trans (follows_step hkeeps hs)

/-- All that is asked are questions of the jobs. -/
theorem follows_of_outcome {r : Except Failure (List Text) × Session}
    (h : Outcome ask workers jobs s r) :
    Session.Follows ask (fun question => ∃ j ∈ jobs, j.Asks question) s r.2 := by
  obtain ⟨p, hr, -, hsession⟩ := h
  exact hsession ▸ follows_run hr

end Pool

end Generation

end DocWeave
