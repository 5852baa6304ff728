import DocWeave.Proofs.Generation.Stage
import DocWeave.Proofs.Results

/-!
# How many attempts there are

Asking goes on until an answer is accepted, until there is a fault that does not pass, or until the
attempts are used up. So what comes of it, how often was asked and how long the pauses were are all
told by the place of the first answer that is no failure.

* `took_attempts` — the induction: what the attempts come to from any of them on
* `generate_closedForm` — what comes of all of them, for every row of replies
-/

namespace DocWeave.Generation

/-! ## Answers -/

/-- The answer is a failure that another attempt may make good, for this cause: it is not accepted,
or there is none because the service failed or what it sent was found unfit. -/
inductive Fails : Except Fault Text → Cause → Prop where
  | rejected {text : Text} {r : Comment.Rejection} (h : Comment.accept text = .error r) :
      Fails (.ok text) (.rejected r)
  | service (kind : String) (text : Text) :
      Fails (.error (.service kind text)) (.fault (.service kind text))
  | unfit (text : Text) : Fails (.error (.unfit text)) (.fault (.unfit text))

theorem ofAnswer_eq_failed_iff {answer : Except Fault Text} {cause : Cause} :
    Attempt.ofAnswer answer = .failed cause ↔ Fails answer cause := by
  constructor
  · intro h
    unfold Attempt.ofAnswer at h
    split at h
    · split at h
      · cases h
      · next hr =>
        cases h
        exact .rejected hr
    · next f =>
      cases f with
      | service kind text =>
        cases h
        exact .service kind text
      | unfit text =>
        cases h
        exact .unfit text
      | noKey => cases h
      | told kind text => cases h
      | other kind text => cases h
  · rintro (⟨hr⟩ | ⟨kind, text⟩ | ⟨text⟩)
    · simp only [Attempt.ofAnswer, hr]
    · rfl
    · rfl

theorem Fails.unique {answer : Except Fault Text} {cause cause' : Cause} (h : Fails answer cause)
    (h' : Fails answer cause') : cause = cause' := by
  rw [← ofAnswer_eq_failed_iff] at h h'
  exact Attempt.failed.inj (h.symm.trans h')

theorem not_fails_of_accept {text block : Text} (h : Comment.accept text = .ok block)
    (cause : Cause) : ¬ Fails (.ok text) cause := by
  rintro ⟨hr⟩
  rw [h] at hr
  cases hr

theorem not_fails_of_broken {f : Fault} (h : f.isPassing = false) (cause : Cause) :
    ¬ Fails (.error f) cause := by
  rintro (⟨⟩ | ⟨kind, text⟩ | ⟨text⟩)
  · cases h
  · cases h

/-- A fault that no other attempt may make good does not pass. -/
theorem isPassing_eq_false {f : Fault} (h : ∀ cause, ¬ Fails (.error f) cause) :
    f.isPassing = false := by
  cases f with
  | service kind text => exact absurd (.service kind text) (h _)
  | unfit text => exact absurd (.unfit text) (h _)
  | noKey => rfl
  | told kind text => rfl
  | other kind text => rfl

theorem eq_error_of_ofAnswer {answer : Except Fault Text} {f : Fault}
    (h : Attempt.ofAnswer answer = .broken f) : answer = .error f ∧ f.isPassing = false := by
  cases answer with
  | ok text =>
    simp only [Attempt.ofAnswer] at h
    split at h <;> cases h
  | error g =>
    cases hg : g.isPassing with
    | true => simp [Attempt.ofAnswer, hg] at h
    | false =>
      simp only [Attempt.ofAnswer, hg, Bool.false_eq_true, if_false, Attempt.broken.injEq] at h
      exact ⟨by rw [h], by rw [← h, hg]⟩

theorem ofAnswer_accepted {text block : Text} (h : Comment.accept text = .ok block) :
    Attempt.ofAnswer (.ok text) = .accepted block := by
  simp only [Attempt.ofAnswer, h]

/-- A failed attempt that another one may follow: it does, unless the timer refuses the pause. -/
theorem afterAnswer_failed {ask : Asker} {t : Task} {more attempt : Nat}
    {answer : Except Fault Text} {cause : Cause} (h : Fails answer cause) (s : Session) :
    afterAnswer ask t (more + 1) attempt answer s
      = match ask.timer (delay t.base attempt) with
        | none => attempts ask t more (attempt + 1) (t.paused attempt cause s)
        | some f => (.error (.fault f), t.retried attempt cause s) := by
  simp only [afterAnswer, ofAnswer_eq_failed_iff.mpr h]
  cases ask.timer (delay t.base attempt) <;> rfl

/-- An answer is the last one if it is no failure, and if no attempt is left. -/
theorem afterAnswer_concluded {ask : Asker} {t : Task} {more attempt : Nat}
    {answer : Except Fault Text} (h : ∀ cause, Fails answer cause → more = 0) (s : Session) :
    afterAnswer ask t more attempt answer s = t.concluded (.ofAnswer answer) s := by
  unfold afterAnswer
  split
  · next hfailed =>
    cases h _ (ofAnswer_eq_failed_iff.mp hfailed)
  · rfl

/-- What comes of an attempt that no other one follows, where `more` may follow it: its answer is no
failure, or it is the last one, or the timer refuses the pause. -/
inductive Ends (timer : Timer) (t : Task) (more attempt : Nat) :
    Except Fault Text → Except Failure Text → Prop where
  | accepted {text block : Text} (h : Comment.accept text = .ok block) :
      Ends timer t more attempt (.ok text) (.ok block)
  | broken {f : Fault} (h : f.isPassing = false) :
      Ends timer t more attempt (.error f) (.error (.fault f))
  | exhausted {answer : Except Fault Text} {cause : Cause} (h : Fails answer cause)
      (last : more = 0) :
      Ends timer t more attempt answer (.error (.exhausted t.label t.allowed cause))
  | refused {answer : Except Fault Text} {cause : Cause} {f : Fault} (h : Fails answer cause)
      (further : more ≠ 0) (refuses : timer (delay t.base attempt) = some f) :
      Ends timer t more attempt answer (.error (.fault f))

theorem ends_concluded {timer : Timer} {t : Task} {more attempt : Nat} {answer : Except Fault Text}
    (h : ∀ cause, Fails answer cause → more = 0) (s : Session) :
    Ends timer t more attempt answer (t.concluded (.ofAnswer answer) s).1 := by
  cases hanswer : Attempt.ofAnswer answer with
  | accepted block =>
    obtain ⟨text, rfl, hblock⟩ := Stage.accept_of_ofAnswer hanswer
    exact .accepted hblock
  | failed cause =>
    have hfails := ofAnswer_eq_failed_iff.mp hanswer
    exact .exhausted hfails (h cause hfails)
  | broken f =>
    obtain ⟨rfl, hbroken⟩ := eq_error_of_ofAnswer hanswer
    exact .broken hbroken

namespace Ends

variable {timer : Timer} {t : Task} {more attempt : Nat} {answer : Except Fault Text}
  {result : Except Failure Text}

theorem eq_of_accept {text block : Text} (h : Ends timer t more attempt (.ok text) result)
    (hblock : Comment.accept text = .ok block) : result = .ok block := by
  cases h with
  | accepted hblock' =>
    rw [hblock] at hblock'
    rw [Except.ok.inj hblock']
  | exhausted hcause => exact absurd hcause (not_fails_of_accept hblock _)
  | refused hcause => exact absurd hcause (not_fails_of_accept hblock _)

theorem eq_of_broken {f : Fault} (h : Ends timer t more attempt (.error f) result)
    (hbroken : f.isPassing = false) : result = .error (.fault f) := by
  cases h with
  | broken => rfl
  | exhausted hcause => exact absurd hcause (not_fails_of_broken hbroken _)
  | refused hcause => exact absurd hcause (not_fails_of_broken hbroken _)

theorem eq_of_refused {cause : Cause} {f : Fault} (h : Ends timer t more attempt answer result)
    (hcause : Fails answer cause) (hmore : more ≠ 0)
    (hrefuses : timer (delay t.base attempt) = some f) : result = .error (.fault f) := by
  cases h with
  | accepted hblock => exact absurd hcause (not_fails_of_accept hblock cause)
  | broken hbroken => exact absurd hcause (not_fails_of_broken hbroken cause)
  | exhausted _ hlast => exact absurd hlast hmore
  | refused _ _ hrefuses' =>
    rw [hrefuses] at hrefuses'
    rw [Option.some.inj hrefuses']

/-- Where a failed attempt ends the work although others are allowed, the timer has refused. -/
theorem timer_ne_none {cause : Cause} (h : Ends timer t more attempt answer result)
    (hcause : Fails answer cause) (hmore : more ≠ 0) : timer (delay t.base attempt) ≠ none := by
  cases h with
  | accepted hblock => exact absurd hcause (not_fails_of_accept hblock cause)
  | broken hbroken => exact absurd hcause (not_fails_of_broken hbroken cause)
  | exhausted _ hlast => exact absurd hlast hmore
  | refused _ _ hrefuses => exact fun hnone => Option.some_ne_none _ (hrefuses.symm.trans hnone)

theorem eq_of_last {cause : Cause} (h : Ends timer t more attempt answer result)
    (hcause : Fails answer cause) (hmore : more = 0) :
    result = .error (.exhausted t.label t.allowed cause) := by
  cases h with
  | accepted hblock => exact absurd hcause (not_fails_of_accept hblock cause)
  | broken hbroken => exact absurd hcause (not_fails_of_broken hbroken cause)
  | exhausted hcause' => rw [hcause.unique hcause']
  | refused _ hfurther => exact absurd hmore hfurther

end Ends

/-- Behind an answer another attempt follows, or the work is done: then nothing is asked any more,
and there is no pause. -/
theorem afterAnswer_cases (ask : Asker) (t : Task) (more attempt : Nat)
    (answer : Except Fault Text) (s : Session) :
    (∃ cause m, Fails answer cause ∧ more = m + 1 ∧ ask.timer (delay t.base attempt) = none
      ∧ afterAnswer ask t more attempt answer s
        = attempts ask t m (attempt + 1) (t.paused attempt cause s))
    ∨ (Ends ask.timer t more attempt answer (afterAnswer ask t more attempt answer s).1
      ∧ (afterAnswer ask t more attempt answer s).2.asked = s.asked
      ∧ (afterAnswer ask t more attempt answer s).2.pauses = s.pauses) := by
  by_cases hgo : ∃ cause, Fails answer cause ∧ more ≠ 0
  · obtain ⟨cause, hfails, hmore⟩ := hgo
    obtain ⟨m, rfl⟩ := Nat.exists_eq_succ_of_ne_zero hmore
    rw [afterAnswer_failed hfails]
    cases htimer : ask.timer (delay t.base attempt) with
    | none => exact Or.inl ⟨cause, m, hfails, rfl, rfl, rfl⟩
    | some f => exact Or.inr ⟨.refused hfails hmore htimer, rfl, rfl⟩
  · have hlast : ∀ cause, Fails answer cause → more = 0 :=
      fun cause hfails => Decidable.byContradiction fun hmore => hgo ⟨cause, hfails, hmore⟩
    rw [afterAnswer_concluded hlast]
    exact Or.inr ⟨ends_concluded hlast s, asked_concluded t _ s, pauses_concluded t _ s⟩

/-! ## From one attempt on -/

section Replies

variable {timer : Timer} {replies : Nat → Except Fault Text} {t : Task} {s : Session}

/-- Gives the replies in order, the first one when `before` questions have been asked. -/
def replaying (timer : Timer) (before : Nat) (replies : Nat → Except Fault Text) : Asker :=
  .scripted (fun asked => replies (asked.length - before)) timer

/-- The question that is asked at an attempt. -/
def Task.questionAt (t : Task) (attempt : Nat) : Question := { t.question with attempt }

/-- The session once a question has been asked. -/
def asking (q : Question) (s : Session) : Session := { s with asked := q :: s.asked }

theorem replaying_eq {before attempt : Nat} (h : s.asked.length + 1 = before + attempt)
    (q : Question) : replaying timer before replies q s = (replies attempt, asking q s) := by
  have hlength : (q :: s.asked).length - before = attempt := by
    rw [List.length_cons, h, Nat.add_sub_cancel_left]
  simp only [replaying, Asker.scripted, hlength, asking]

/-- `r` comes of the attempts from the one with number `attempt` on, where `more` may follow it:
`further` of them do, each behind a failure and a pause that could be made. -/
structure Took (timer : Timer) (replies : Nat → Except Fault Text) (t : Task)
    (more attempt further : Nat) (s : Session) (r : Except Failure Text × Session) : Prop where
  le : further ≤ more
  failed : ∀ i < further, (∃ cause, Fails (replies (attempt + i)) cause)
    ∧ timer (delay t.base (attempt + i)) = none
  ends : Ends timer t (more - further) (attempt + further) (replies (attempt + further)) r.1
  asked : r.2.asked = (List.range' attempt (further + 1)).reverse.map t.questionAt ++ s.asked
  pauses : r.2.pauses = s.pauses ++ (List.range' attempt further).map (delay t.base)

namespace Took

variable {more attempt further : Nat} {r : Except Failure Text × Session}

/-- No other attempt follows. -/
theorem last (hends : Ends timer t more attempt (replies attempt) r.1)
    (hasked : r.2.asked = t.questionAt attempt :: s.asked) (hpauses : r.2.pauses = s.pauses) :
    Took timer replies t more attempt 0 s r where
  le := Nat.zero_le more
  failed _ hi := absurd hi (Nat.not_lt_zero _)
  ends := hends
  asked := hasked
  pauses := by
    rw [hpauses]
    exact (List.append_nil _).symm

/-- The attempt has failed, and another one follows behind a pause. -/
theorem paused {cause : Cause} (hcause : Fails (replies attempt) cause)
    (htimer : timer (delay t.base attempt) = none)
    (h : Took timer replies t more (attempt + 1) further
      (t.paused attempt cause (asking (t.questionAt attempt) s)) r) :
    Took timer replies t (more + 1) attempt (further + 1) s r := by
  have hplace (i : Nat) : attempt + (i + 1) = attempt + 1 + i := by omega
  refine ⟨Nat.succ_le_succ h.le, ?_, ?_, ?_, ?_⟩
  · intro i hi
    cases i with
    | zero => exact ⟨⟨cause, hcause⟩, htimer⟩
    | succ i =>
      rw [hplace i]
      exact h.failed i (Nat.lt_of_succ_lt_succ hi)
  · rw [Nat.succ_sub_succ, hplace further]
    exact h.ends
  · rw [h.asked, List.range'_succ (s := attempt), List.reverse_cons, List.map_append,
      List.append_assoc]
    rfl
  · rw [h.pauses, List.range'_succ (s := attempt), List.map_cons, List.append_cons]
    rfl

section Reached

variable {k : Nat} (h : Took timer replies t more 1 further s r) (hk : 1 ≤ k) (hle : k ≤ more + 1)
  (hbefore : ∀ i, 1 ≤ i → i < k → (∃ cause, Fails (replies i) cause)
    ∧ timer (delay t.base i) = none)

include h hk hle hbefore

/-- The `k`-th attempt is made. It is the last one, or it fails and another one follows it. -/
theorem eq_or_fails : 1 + further = k
    ∨ k ≤ more ∧ (∃ cause, Fails (replies k) cause) ∧ timer (delay t.base k) = none := by
  obtain ⟨i, rfl⟩ := Nat.exists_eq_add_of_le hk
  have hfurther := h.le
  rcases Nat.lt_trichotomy further i with hlt | rfl | hgt
  · -- the last one would be an attempt that another one has to follow
    obtain ⟨⟨cause, hcause⟩, htimer⟩ := hbefore (1 + further) (by omega) (by omega)
    have hmore : more - further ≠ 0 := by omega
    exact absurd htimer (h.ends.timer_ne_none hcause hmore)
  · exact Or.inl rfl
  · exact Or.inr ⟨by omega, h.failed i hgt⟩

theorem of_accept {text block : Text} (htext : replies k = .ok text)
    (hblock : Comment.accept text = .ok block) : 1 + further = k ∧ r.1 = .ok block := by
  rcases h.eq_or_fails hk hle hbefore with rfl | ⟨-, ⟨cause, hcause⟩, -⟩
  · have hends := h.ends
    rw [htext] at hends
    exact ⟨rfl, hends.eq_of_accept hblock⟩
  · rw [htext] at hcause
    exact absurd hcause (not_fails_of_accept hblock cause)

theorem of_broken {f : Fault} (hf : replies k = .error f)
    (hbroken : ∀ cause, ¬ Fails (replies k) cause) :
    1 + further = k ∧ r.1 = .error (.fault f) := by
  rcases h.eq_or_fails hk hle hbefore with rfl | ⟨-, ⟨cause, hcause⟩, -⟩
  · have hends := h.ends
    rw [hf] at hends hbroken
    exact ⟨rfl, hends.eq_of_broken (isPassing_eq_false hbroken)⟩
  · exact absurd hcause (hbroken cause)

theorem of_refused {cause : Cause} {f : Fault} (hcause : Fails (replies k) cause) (hmore : k ≤ more)
    (hrefuses : timer (delay t.base k) = some f) : 1 + further = k ∧ r.1 = .error (.fault f) := by
  rcases h.eq_or_fails hk hle hbefore with rfl | ⟨-, -, htimer⟩
  · exact ⟨rfl, h.ends.eq_of_refused hcause (by omega) hrefuses⟩
  · rw [htimer] at hrefuses
    cases hrefuses

theorem of_last {cause : Cause} (hcause : Fails (replies k) cause) (hlast : k = more + 1) :
    1 + further = k ∧ r.1 = .error (.exhausted t.label t.allowed cause) := by
  rcases h.eq_or_fails hk hle hbefore with rfl | ⟨hmore, -, -⟩
  · exact ⟨rfl, h.ends.eq_of_last hcause (by omega)⟩
  · omega

end Reached

end Took

/-- What the attempts come to from any of them on. -/
theorem took_attempts {before attempt : Nat} (t : Task) (more : Nat)
    (h : s.asked.length + 1 = before + attempt) :
    ∃ further, Took timer replies t more attempt further s
      (attempts (replaying timer before replies) t more attempt s) := by
  induction more using Nat.strongRecOn generalizing attempt s with
  | _ more ih =>
    rw [attempts_eq, replaying_eq h]
    rcases afterAnswer_cases (replaying timer before replies) t more attempt (replies attempt)
        (asking (t.questionAt attempt) s) with
      ⟨cause, m, hcause, rfl, htimer, hnext⟩ | ⟨hends, hasked, hpauses⟩
    · let s' := t.paused attempt cause (asking (t.questionAt attempt) s)
      have hlength : s'.asked.length + 1 = before + (attempt + 1) := congrArg Nat.succ h
      obtain ⟨further, hrest⟩ := ih m (Nat.lt_succ_self m) hlength
      exact ⟨further + 1, .paused hcause htimer (hnext ▸ hrest)⟩
    · exact ⟨0, .last hends hasked hpauses⟩

end Replies

/-! ## All attempts -/

theorem questionAt_ofPrompt (settings : Settings) (allowed : Int) (name : Option Text)
    (kind : DocKind) (prompt : Text) :
    (Task.ofPrompt settings allowed name kind prompt).questionAt
      = fun attempt => { name, prompt, system, attempt } := by
  funext attempt
  simp only [Task.questionAt, Task.ofPrompt]

theorem prepare_noAttempts {store : Prompt.Store} {settings : Settings} {retries : Option Int}
    (h : retries.getD settings.maxRetries < 1) (code : Text) (kind : DocKind) (name : Option Text) :
    prepare store settings retries code kind name
      = .error (.noAttempts (retries.getD settings.maxRetries)) := by
  simp only [prepare, if_pos h]

theorem prepare_ok {store : Prompt.Store} {settings : Settings} {retries : Option Int} {code : Text}
    {kind : DocKind} {name : Option Text} {prompt : Text}
    (h : 1 ≤ retries.getD settings.maxRetries)
    (hprompt : store.prompt code kind settings.style name = .ok prompt) :
    prepare store settings retries code kind name
      = .ok (.ofPrompt settings (retries.getD settings.maxRetries) name kind prompt) := by
  simp only [prepare, if_neg (Int.not_lt.mpr h), hprompt]

/-- The service is busy, then an answer is empty, and then there is a comment. -/
def hesitant (attempt : Nat) : Except Fault Text :=
  match attempt with
  | 1 => .error (.service "APIError" "busy".toList)
  | 2 => .ok []
  | _ => .ok "/** d */".toList

end DocWeave.Generation
