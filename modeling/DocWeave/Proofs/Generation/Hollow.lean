import DocWeave.Proofs.Comment.Hollow
import DocWeave.Proofs.Generation.Attempts

/-!
# Hollow answers end the attempts

An attempt that gets a hollow answer fails only if the answer is blank. Any other hollow answer is
taken for a comment, and no other attempt follows.

* `generate_of_isHollow` — what comes of a hollow answer, at any attempt
-/

namespace DocWeave.Generation

open Comment

variable {ask : Asker} {t : Task} {attempt : Nat} {s s' : Session} {answer : Text}

/-- The attempts from one on that gets an answer which is accepted. -/
theorem attempts_of_accept {block : Text} (h : accept answer = .ok block) (more : Nat)
    (hasked : ask { t.question with attempt } s = (.ok answer, s')) :
    attempts ask t more attempt s = (.ok block, s'.log [t.acceptedEntry]) := by
  rw [attempts_eq, hasked,
    afterAnswer_concluded fun cause hf => absurd hf (not_fails_of_accept h cause),
    ofAnswer_accepted h]
  rfl

/-- No second attempt is made if the first answer is accepted. -/
theorem generate_of_accept {block : Text} (h : accept answer = .ok block) {store : Prompt.Store}
    {settings : Settings} {retries : Option Int} {code : Text} {kind : DocKind} {name : Option Text}
    (hprepared : prepare store settings retries code kind name = .ok t)
    (hasked : ask { t.question with attempt := 1 } (t.opened s) = (.ok answer, s')) :
    generate ask store settings retries code kind name s
      = (.ok block, s'.log [t.acceptedEntry]) := by
  show perform ask (prepare store settings retries code kind name) s = _
  rw [hprepared]
  exact attempts_of_accept h t.further hasked

/-- The attempts from one on that gets an answer which is not accepted: another one follows behind a
pause, unless the timer refuses it, or this one was the last. -/
theorem attempts_of_reject {reason : Rejection} (h : accept answer = .error reason) (more : Nat)
    (hasked : ask { t.question with attempt } s = (.ok answer, s')) :
    attempts ask t (more + 1) attempt s
        = (match ask.timer (delay t.base attempt) with
          | none => attempts ask t more (attempt + 1) (t.paused attempt (.rejected reason) s')
          | some f => (.error (.fault f), t.retried attempt (.rejected reason) s'))
      ∧ attempts ask t 0 attempt s
        = (.error (.exhausted t.label t.allowed (.rejected reason)), s') := by
  have hfails : Fails (.ok answer) (.rejected reason) := .rejected h
  constructor
  · rw [attempts_eq, hasked]
    exact afterAnswer_failed hfails s'
  · rw [attempts_eq, hasked, afterAnswer_concluded fun _ _ => rfl,
      ofAnswer_eq_failed_iff.mpr hfails]
    rfl

/-- What comes of an answer that is rejected only if it is blank: if it is not, it ends the attempts
with what is left of it between marks that have been added. -/
structure EndsUnlessBlank (answer : Text) : Prop where
  rejected : ¬ IsSaid answer → accept answer = .error .empty
  accepted : IsSaid answer → accept answer = .ok (framed (core answer))
  fails {ask : Asker} {t : Task} {attempt : Nat} {s s' : Session} (more : Nat) :
    ¬ IsSaid answer → ask { t.question with attempt } s = (.ok answer, s') →
      attempts ask t (more + 1) attempt s
          = (match ask.timer (delay t.base attempt) with
            | none => attempts ask t more (attempt + 1) (t.paused attempt (.rejected .empty) s')
            | some f => (.error (.fault f), t.retried attempt (.rejected .empty) s'))
        ∧ attempts ask t 0 attempt s
          = (.error (.exhausted t.label t.allowed (.rejected .empty)), s')
  ends {ask : Asker} {t : Task} {attempt : Nat} {s s' : Session} (more : Nat) :
    IsSaid answer → ask { t.question with attempt } s = (.ok answer, s') →
      attempts ask t more attempt s = (.ok (framed (core answer)), s'.log [t.acceptedEntry])
  generated {ask : Asker} {store : Prompt.Store} {settings : Settings} {retries : Option Int}
    {code : Text} {kind : DocKind} {name : Option Text} {t : Task} {s s' : Session} :
    IsSaid answer → prepare store settings retries code kind name = .ok t →
      ask { t.question with attempt := 1 } (t.opened s) = (.ok answer, s') →
      generate ask store settings retries code kind name s
        = (.ok (framed (core answer)), s'.log [t.acceptedEntry])

theorem endsUnlessBlank_of_isHollow (h : IsHollow answer) : EndsUnlessBlank answer where
  rejected := accept_of_not_isSaid
  accepted := accept_of_isHollow h
  fails more hblank hasked := attempts_of_reject (accept_of_not_isSaid hblank) more hasked
  ends more hsaid hasked := attempts_of_accept (accept_of_isHollow h hsaid) more hasked
  generated hsaid hprepared hasked :=
    generate_of_accept (accept_of_isHollow h hsaid) hprepared hasked

/--
Cleaning leaves nothing of an answer exactly if nothing stands in it but a heading and blanks, once
fences and backticks have gone; every such answer is hollow. A hollow answer is rejected as empty,
so that its attempt fails, exactly if it is blank. Any other one is accepted, at whatever attempt it
is given: its comment is what is left of it between marks that have been added.
-/
theorem generate_of_isHollow (answer : Text) :
    (core answer = [] ↔ IsVoid (unfenced answer))
      ∧ (core answer = [] → IsHollow answer)
      ∧ (IsHollow answer → EndsUnlessBlank answer) :=
  ⟨core_eq_nil_iff, isHollow_of_core_eq_nil, endsUnlessBlank_of_isHollow⟩

/-- A fence that holds nothing becomes a comment in which nothing stands, and no other attempt is
made. A blank answer is rejected. -/
theorem generate_of_isHollow_fence :
    let answer := "\x60\x60\x60js\n\x60\x60\x60".toList
    let nothing := "/**\n\n */".toList
    let r := generate (.scripted fun _ => .ok answer) (.packaged []) {} none "x;".toList .function
      none {}
    IsHollow answer ∧ IsSaid answer ∧ accept answer = .ok nothing ∧ r.1 = .ok nothing
      ∧ r.2.asked.length = 1
      ∧ IsHollow [' '] ∧ ¬ IsSaid [' '] ∧ accept [' '] = .error .empty := by
  intro answer nothing r
  have hcore : core answer = [] := by decide +kernel
  have hhollow := (generate_of_isHollow answer).2.1 hcore
  have hends := (generate_of_isHollow answer).2.2 hhollow
  have hsaid : IsSaid answer := ⟨'\x60', by decide, by decide⟩
  have hnothing : framed (core answer) = nothing := by
    rw [hcore]
    decide
  have hmade : ((Prompt.Store.packaged []).prompt "x;".toList .function
      ({} : Settings).style none).toOption.isSome := by decide +kernel
  obtain ⟨prompt, hprompt⟩ := Option.isSome_iff_exists.mp hmade
  have hallowed : 1 ≤ (none : Option Int).getD ({} : Settings).maxRetries := by decide
  have hprepared := prepare_ok hallowed (eq_ok_of_toOption hprompt)
  have hgenerated : r = _ := hends.generated hsaid hprepared rfl
  have haccepted := hends.accepted hsaid
  have hblank : core [' '] = [] := by decide +kernel
  have hhollow' := (generate_of_isHollow [' ']).2.1 hblank
  have hnotSaid : ¬ IsSaid [' '] := by
    rintro ⟨c, hc, hcblank⟩
    obtain rfl := List.mem_singleton.mp hc
    cases hcblank
  rw [hnothing] at hgenerated haccepted
  refine ⟨hhollow, hsaid, haccepted, ?_, ?_, hhollow', hnotSaid, ?_⟩
  · rw [hgenerated]
  · rw [hgenerated]
    rfl
  · exact ((generate_of_isHollow [' ']).2.2 hhollow').rejected hnotSaid

end DocWeave.Generation
