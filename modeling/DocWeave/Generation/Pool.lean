import DocWeave.Generation.Stage
import Mathlib.Logic.Relation

/-!
# A pool of workers

Several workers do jobs side by side. All jobs are handed in first, in order, and wait in a row; a
worker that is free takes the one that has waited longest. Meanwhile the comments are collected in
the order of the jobs, whichever is done first. The first failure that is met on the way ends the
collecting: jobs that still wait are dropped, and those in hand are done to their end.

Which of all possible steps is the next one is left open. `Step` lists them, so that a run of the
pool is any row of steps, and `Outcome` is what may come of it.
-/

namespace DocWeave.Generation

/-- A job in the hands of a worker. -/
structure Work where
  job : Job
  stage : Stage := .fresh

structure Pool where
  /-- Jobs that have not been handed in yet. -/
  ahead : List Job
  /-- Jobs that wait for a worker, the oldest in front. -/
  waiting : List Job := []
  busy : List Work := []
  /-- What jobs have come to, by their numbers. -/
  done : List (Nat × Except Failure Text) := []
  /-- Comments in the order of the jobs. -/
  collected : List Text := []
  /-- The failure that has ended the collecting. -/
  failure : Option Failure := none
  session : Session

namespace Pool

/-- The pool before anything is done. -/
def start (jobs : List Job) (s : Session) : Pool := { ahead := jobs, session := s }

/-- The step that a worker takes next. -/
def next (ask : Asker) (w : Work) (s : Session) : Stage × Session :=
  w.stage.next (ask.forJob w.job.number) w.job.prepared s

/-- What may happen next where there are `workers` workers. -/
inductive Step (ask : Asker) (workers : Nat) : Pool → Pool → Prop where
  /-- A job is handed in. -/
  | handIn {p : Pool} {j : Job} {rest : List Job} (ahead : p.ahead = j :: rest) :
      Step ask workers p { p with ahead := rest, waiting := p.waiting ++ [j] }
  /-- A worker that is free takes the job that has waited longest. -/
  | take {p : Pool} {j : Job} {rest : List Job} (waiting : p.waiting = j :: rest)
      (free : p.busy.length < workers) :
      Step ask workers p { p with waiting := rest, busy := p.busy ++ [{ job := j }] }
  /-- A worker goes on with its job. -/
  | advance {p : Pool} {w : Work} {front back : List Work} (busy : p.busy = front ++ w :: back)
      (unsettled : w.stage.isSettled = false) :
      Step ask workers p { p with
        busy := front ++ { w with stage := (next ask w p.session).1 } :: back
        session := (next ask w p.session).2 }
  /-- A worker hands over what its job has come to. -/
  | handOver {p : Pool} {w : Work} {front back : List Work} {result : Except Failure Text}
      (busy : p.busy = front ++ w :: back) (settled : w.stage = .settled result) :
      Step ask workers p { p with
        busy := front ++ back
        done := (w.job.number, result) :: p.done }
  /-- The next comment in the order of the jobs is collected. -/
  | collect {p : Pool} {b : Text} (ahead : p.ahead = []) (going : p.failure = none)
      (done : (p.collected.length, .ok b) ∈ p.done) :
      Step ask workers p { p with collected := p.collected ++ [b] }
  /-- The next job in order has failed. -/
  | fail {p : Pool} {e : Failure} (ahead : p.ahead = []) (going : p.failure = none)
      (done : (p.collected.length, .error e) ∈ p.done) :
      Step ask workers p { p with failure := some e }
  /-- Behind a failure, a job that waits is dropped. -/
  | drop {p : Pool} {j : Job} {front back : List Job} (stopped : p.failure.isSome)
      (waiting : p.waiting = front ++ j :: back) :
      Step ask workers p { p with waiting := front ++ back }

/-- Any number of steps. -/
abbrev Run (ask : Asker) (workers : Nat) : Pool → Pool → Prop :=
  Relation.ReflTransGen (Step ask workers)

/-- What `count` jobs have come to, once no job waits or is in hand any more: the failure with which
the collecting has ended, or all comments. -/
def result? (count : Nat) (p : Pool) : Option (Except Failure (List Text)) :=
  if p.waiting.isEmpty && p.busy.isEmpty then
    match p.failure with
    | some e => some (.error e)
    | none => if p.collected.length = count then some (.ok p.collected) else none
  else none

/-- What may come of jobs, and the session behind them. -/
def Outcome (ask : Asker) (workers : Nat) (jobs : List Job) (s : Session)
    (r : Except Failure (List Text) × Session) : Prop :=
  ∃ p, Run ask workers (start jobs s) p ∧ p.result? jobs.length = some r.1 ∧ p.session = r.2

end Pool

end DocWeave.Generation
