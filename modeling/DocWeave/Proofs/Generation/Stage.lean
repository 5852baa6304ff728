import DocWeave.Generation.Stage

/-!
# Steps and the whole

The steps of the work at a comment, taken one after the other, come to what `perform` does in one
go: `Stage.finish` is what is left to be done from a stage on, and no step changes what it comes to
(`finish_next`).

* `next_left_lt` — every step leaves fewer steps to be taken
* `finish_eq_of_steady` — where answers depend on nothing but the question, it does not matter what
  else has happened in the session
-/

namespace DocWeave.Generation

/-- The answer to a question depends on nothing but the question, which tells the job and the
attempt. -/
def Steady (ask : Asker) : Prop := ∀ q s s', (ask q s).1 = (ask q s').1

theorem Steady.forJob {ask : Asker} (h : Steady ask) (job : Nat) : Steady (ask.forJob job) :=
  fun q s s' => h { q with job } s s'

/-! ## Attempts -/

/-- What is done once an attempt has been answered. -/
def afterAnswer (ask : Asker) (t : Task) (more attempt : Nat) (answer : Except Fault Text)
    (s : Session) : Except Failure Text × Session :=
  match Attempt.ofAnswer answer, more with
  | .failed cause, more + 1 =>
    match ask.timer (delay t.base attempt) with
    | none => attempts ask t more (attempt + 1) (t.paused attempt cause s)
    | some f => t.concluded (.broken f) (t.retried attempt cause s)
  | outcome, _ => t.concluded outcome s

theorem attempts_eq (ask : Asker) (t : Task) (more attempt : Nat) (s : Session) :
    attempts ask t more attempt s = afterAnswer ask t more attempt
      (ask { t.question with attempt } s).1 (ask { t.question with attempt } s).2 := by
  rw [attempts.eq_def]
  rfl

theorem concluded_fst (t : Task) (a : Attempt) (s s' : Session) :
    (t.concluded a s).1 = (t.concluded a s').1 := by
  cases a <;> rfl

theorem asked_concluded (t : Task) (a : Attempt) (s : Session) :
    (t.concluded a s).2.asked = s.asked := by
  cases a <;> rfl

theorem pauses_concluded (t : Task) (a : Attempt) (s : Session) :
    (t.concluded a s).2.pauses = s.pauses := by
  cases a <;> rfl

theorem afterAnswer_fst {ask : Asker} {t : Task} {more : Nat}
    (ih : ∀ m < more, ∀ attempt s s',
      (attempts ask t m attempt s).1 = (attempts ask t m attempt s').1)
    (attempt : Nat) (answer : Except Fault Text) (s s' : Session) :
    (afterAnswer ask t more attempt answer s).1 = (afterAnswer ask t more attempt answer s').1 := by
  unfold afterAnswer
  split
  · split
    · exact ih _ (Nat.lt_succ_self _) _ _ _
    · exact concluded_fst _ _ _ _
  · exact concluded_fst _ _ _ _

theorem attempts_fst {ask : Asker} (h : Steady ask) (t : Task) (more attempt : Nat)
    (s s' : Session) : (attempts ask t more attempt s).1 = (attempts ask t more attempt s').1 := by
  -- the session differs from attempt to attempt, so that it is generalized along with their number
  induction more using Nat.strongRecOn generalizing attempt s s' with
  | _ more ih =>
    rw [attempts_eq, attempts_eq, h { t.question with attempt } s s']
    exact afterAnswer_fst ih _ _ _ _

namespace Stage

/-! ## What is left to be done -/

/-- Goes on from a stage to the end. -/
def finish (ask : Asker) (prepared : Except Failure Task) :
    Stage → Session → Except Failure Text × Session
  | fresh, s => perform ask prepared s
  | due t more attempt, s => attempts ask t more attempt s
  | answered t more attempt answer, s => afterAnswer ask t more attempt answer s
  | settled result, s => (result, s)

/-- With what the work ends behind an answer, and in which session: with the answer itself, or with
the fault of the timer that refuses to wait for another attempt. -/
inductive EndsWith (t : Task) (attempt : Nat) (answer : Except Fault Text) (s : Session) :
    Attempt → Session → Prop where
  | answer : EndsWith t attempt answer s (Attempt.ofAnswer answer) s
  | refused (cause : Cause) (f : Fault) :
      EndsWith t attempt answer s (.broken f) (t.retried attempt cause s)

/-- Behind an answer another attempt follows, or the work is done. -/
theorem next_answered (ask : Asker) (prepared : Except Failure Task) (t : Task)
    (more attempt : Nat) (answer : Except Fault Text) (s : Session) :
    (∃ cause m, more = m + 1
      ∧ next ask prepared (answered t more attempt answer) s
        = (due t m (attempt + 1), t.paused attempt cause s)
      ∧ afterAnswer ask t more attempt answer s
        = attempts ask t m (attempt + 1) (t.paused attempt cause s))
    ∨ ∃ outcome s', EndsWith t attempt answer s outcome s'
      ∧ next ask prepared (answered t more attempt answer) s
        = (settled (t.concluded outcome s').1, (t.concluded outcome s').2)
      ∧ afterAnswer ask t more attempt answer s = t.concluded outcome s' := by
  cases h : Attempt.ofAnswer answer with
  | accepted b =>
    exact Or.inr ⟨_, _, .answer, by simp [next, h], by simp [afterAnswer, h]⟩
  | broken f =>
    exact Or.inr ⟨_, _, .answer, by simp [next, h], by simp [afterAnswer, h]⟩
  | failed cause =>
    cases more with
    | zero => exact Or.inr ⟨_, _, .answer, by simp [next, h], by simp [afterAnswer, h]⟩
    | succ m =>
      cases htimer : ask.timer (delay t.base attempt) with
      | none =>
        exact Or.inl ⟨cause, m, rfl, by simp [next, h, htimer], by simp [afterAnswer, h, htimer]⟩
      | some f =>
        exact Or.inr ⟨_, _, .refused cause f, by simp [next, h, htimer],
          by simp [afterAnswer, h, htimer]⟩

/-- A step does not change what the work comes to. -/
theorem finish_next (ask : Asker) (prepared : Except Failure Task) (stage : Stage) (s : Session) :
    finish ask prepared (stage.next ask prepared s).1 (stage.next ask prepared s).2
      = stage.finish ask prepared s := by
  cases stage with
  | fresh => cases prepared <;> rfl
  | due t more attempt => exact (attempts_eq ask t more attempt s).symm
  | answered t more attempt answer =>
    rcases next_answered ask prepared t more attempt answer s with
      ⟨cause, m, rfl, hn, ha⟩ | ⟨outcome, s', -, hn, ha⟩
    · rw [hn]
      exact ha.symm
    · rw [hn]
      exact ha.symm
  | settled result => rfl

theorem finish_eq_of_steady {ask : Asker} (h : Steady ask) (prepared : Except Failure Task)
    (stage : Stage) (s s' : Session) :
    (stage.finish ask prepared s).1 = (stage.finish ask prepared s').1 := by
  cases stage with
  | fresh =>
    cases prepared with
    | error e => rfl
    | ok t => exact attempts_fst h _ _ _ _ _
  | due t more attempt => exact attempts_fst h _ _ _ _ _
  | answered t more attempt answer =>
    exact afterAnswer_fst (fun m _ a s s' => attempts_fst h t m a s s') _ _ _ _
  | settled result => rfl

/-! ## The end comes nearer -/

theorem isSettled_iff {stage : Stage} :
    stage.isSettled = true ↔ ∃ result, stage = settled result := by
  cases stage <;> simp [isSettled]

/-- A bound on the steps that are left. -/
def left (prepared : Except Failure Task) : Stage → Nat
  | fresh =>
    match prepared with
    | .error _ => 1
    | .ok t => 2 * t.further + 3
  | due _ more _ => 2 * more + 2
  | answered _ more _ _ => 2 * more + 1
  | settled _ => 0

theorem next_left_lt (ask : Asker) (prepared : Except Failure Task) (stage : Stage) (s : Session)
    (h : stage.isSettled = false) :
    left prepared (stage.next ask prepared s).1 < left prepared stage := by
  cases stage with
  | fresh =>
    cases prepared with
    | error e => exact Nat.zero_lt_one
    | ok t => exact Nat.lt_succ_self _
  | due t more attempt => exact Nat.lt_succ_self _
  | answered t more attempt answer =>
    rcases next_answered ask prepared t more attempt answer s with
      ⟨cause, m, rfl, hn, -⟩ | ⟨outcome, s', -, hn, -⟩
    · rw [hn]
      exact Nat.lt_succ_self _
    · rw [hn]
      exact Nat.zero_lt_succ _
  | settled result => cases h

/-! ## Accepted comments -/

theorem concluded_eq_ok {t : Task} {a : Attempt} {s : Session} {b : Text}
    (h : (t.concluded a s).1 = .ok b) : a = .accepted b := by
  cases a with
  | accepted block => exact congrArg Attempt.accepted (Except.ok.inj h)
  | failed cause => cases h
  | broken f => cases h

/-- Only what is accepted in an answer is a comment. -/
theorem accept_of_ofAnswer {answer : Except Fault Text} {b : Text}
    (h : Attempt.ofAnswer answer = .accepted b) :
    ∃ text, answer = .ok text ∧ Comment.accept text = .ok b := by
  cases answer with
  | ok text =>
    cases hb : Comment.accept text with
    | error r => simp [Attempt.ofAnswer, hb] at h
    | ok block =>
      simp only [Attempt.ofAnswer, hb, Attempt.accepted.injEq] at h
      exact ⟨text, rfl, by rw [hb, h]⟩
  | error f =>
    simp only [Attempt.ofAnswer] at h
    split at h <;> cases h

/-- Where the work ends in a comment, the comment is an accepted answer. -/
def Accepts (stage : Stage) : Prop :=
  ∀ b, stage = settled (.ok b) → ∃ text, Comment.accept text = .ok b

theorem accepts_next (ask : Asker) (prepared : Except Failure Task) {stage : Stage}
    (h : stage.Accepts) (s : Session) : (stage.next ask prepared s).1.Accepts := by
  intro b hb
  cases stage with
  | fresh => cases prepared <;> cases hb
  | due t more attempt => cases hb
  | answered t more attempt answer =>
    rcases next_answered ask prepared t more attempt answer s with
      ⟨cause, m, rfl, hn, -⟩ | ⟨outcome, s', hends, hn, -⟩
    · rw [hn] at hb
      cases hb
    · rw [hn] at hb
      have houtcome := concluded_eq_ok (settled.inj hb)
      cases hends with
      | answer =>
        obtain ⟨text, -, haccept⟩ := accept_of_ofAnswer houtcome
        exact ⟨text, haccept⟩
      | refused cause f => cases houtcome
  | settled result => exact h b hb

end Stage

end DocWeave.Generation
