import DocWeave.Generation

/-!
# The work at a comment in steps

`Generation.perform` gets a comment in one go. Where several comments are worked at side by side,
other work goes on in between: while a prompt is made, until an answer comes, and during a pause. So
the same work is cut into the steps between which others may take theirs.
-/

namespace DocWeave.Generation

/-- How far the work at a comment has come. -/
inductive Stage where
  /-- Nothing has been done yet. -/
  | fresh
  /-- An attempt is due; `more` attempts may follow it. -/
  | due (t : Task) (more attempt : Nat)
  /-- The answer to an attempt has come. -/
  | answered (t : Task) (more attempt : Nat) (answer : Except Fault Text)
  /-- There is a comment, or there will be none. -/
  | settled (result : Except Failure Text)

namespace Stage

def isSettled : Stage → Bool
  | settled _ => true
  | _ => false

/-- Takes the next step. -/
def next (ask : Asker) (prepared : Except Failure Task) : Stage → Session → Stage × Session
  | fresh, s =>
    match prepared with
    | .error e => (settled (.error e), s)
    | .ok t => (due t t.further 1, t.opened s)
  | due t more attempt, s =>
    let (answer, s) := ask { t.question with attempt } s
    (answered t more attempt answer, s)
  | answered t more attempt answer, s =>
    match Attempt.ofAnswer answer, more with
    | .failed cause, more + 1 =>
      match ask.timer (delay t.base attempt) with
      | none => (due t more (attempt + 1), t.paused attempt cause s)
      | some f =>
        let (result, s) := t.concluded (.broken f) (t.retried attempt cause s)
        (settled result, s)
    | outcome, _ =>
      let (result, s) := t.concluded outcome s
      (settled result, s)
  | settled result, s => (settled result, s)

end Stage

end DocWeave.Generation
