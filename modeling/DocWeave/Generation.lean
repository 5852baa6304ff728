import DocWeave.Client
import DocWeave.Comment.Acceptance
import DocWeave.Prompt

/-!
# Generating a comment

A comment is asked for until an answer is accepted or the attempts are used up. Between two attempts
there is a pause, which grows by the same amount each time; a pause that cannot be made ends the
attempts. All attempts ask the same question.
-/

namespace DocWeave

/-! ## Asking -/

/-- A question to a model: what it is about, and what is sent. -/
structure Question where
  name : Option Text
  prompt : Text
  system : Text
  /-- The number of the job that asks. -/
  job : Nat := 0
  /-- The number of the attempt at which it is asked. -/
  attempt : Nat := 1
deriving DecidableEq, Inhabited

/-- What has happened while questions were asked. -/
structure Session where
  entries : List Log.Entry := []
  pauses : List Float := []
  /-- The questions asked, newest first. -/
  asked : List Question := []
  /-- The requests sent to a service, newest first. -/
  sent : List Client.Request := []
  /-- The client by which they were asked, if one was used. -/
  client : Option Client := none

namespace Session

def log (s : Session) (entries : List Log.Entry) : Session :=
  { s with entries := s.entries ++ entries }

def pause (s : Session) (seconds : Float) : Session := { s with pauses := s.pauses ++ [seconds] }

end Session

/-- Waits so many seconds; told is the fault if it cannot wait for so long. -/
abbrev Timer := Float → Option Fault

namespace Timer

/-- Waits for as long as is asked. -/
def patient : Timer := fun _ => none

/-- The timer of the system. It counts the seconds in billionths, with 63 bits and a sign, and does
not wait for less than nothing. -/
def system : Timer := fun seconds =>
  let count := seconds * 1e9
  let bound := Float.ofNat (Decimal.twoTo 63)
  if seconds.isNaN then some (.other "ValueError" "Invalid value NaN (not a number)".toList)
  else if count < -bound ∨ bound ≤ count then
    some (.other "OverflowError" "timestamp out of range for platform time_t".toList)
  else if seconds < 0 then some (.other "ValueError" "sleep length must be non-negative".toList)
  else none

end Timer

/-- Something that answers questions, and the timer by which is waited between them. -/
structure Asker where
  /-- What is answered may depend on all that went before. -/
  answer : Question → Session → Except Fault Text × Session
  timer : Timer := .patient

instance : CoeFun Asker fun _ => Question → Session → Except Fault Text × Session := ⟨Asker.answer⟩

namespace Asker

/-- What answers is told which job asks. -/
def forJob (ask : Asker) (job : Nat) : Asker :=
  { ask with answer := fun q s => ask { q with job } s }

/-- Answers by what has been asked so far, the question itself in front. -/
def scripted (answer : List Question → Except Fault Text) (timer : Timer := .patient) : Asker where
  answer q s :=
    let asked := q :: s.asked
    (answer asked, { s with asked })
  timer := timer

/-- Sends questions to a service by the session's client. -/
def served (timer : Timer) (now : Float)
    (service : List Question → Client.Request → Except Fault Client.Response) : Asker where
  answer q s :=
    match s.client with
    | none => (.error .noKey, s)
    | some c =>
      let asked := q :: s.asked
      let e := c.generate now q.prompt (some q.system) .null .null (service asked)
      let s := { s with
        entries := s.entries ++ e.entries
        pauses := s.pauses ++ e.pause.toList
        asked := if e.request.isSome then asked else s.asked
        sent := e.request.toList ++ s.sent
        client := some e.client }
      (e.result.map Client.Response.content, s)
  timer := timer

end Asker

namespace Generation

/-- How comments are asked for. -/
structure Settings where
  style : Text := "jsdoc".toList
  maxRetries : Int := 3
  retryBaseDelay : Float := 1.0
  maxWorkers : Int := 4
deriving Inhabited

/-- What the model is told before every question. -/
def system : Text :=
  ("You are an expert JavaScript and TypeScript developer writing API "
    ++ "documentation. Generate clear, concise and accurate documentation "
    ++ "comments. Return only the comment block, without Markdown formatting, "
    ++ "code, or explanation.").toList

/-- Why an attempt failed. -/
inductive Cause where
  | rejected (r : Comment.Rejection)
  | fault (f : Fault)
deriving DecidableEq

def Cause.message : Cause → Text
  | rejected r => r.message
  | fault f => f.message

/-- How entries speak of it. -/
def Cause.said : Cause → Log.Said
  | rejected r => .failure "ValidationFailure" r.message
  | fault f => f.said

/-- Why there is no comment. -/
inductive Failure where
  | noAttempts (allowed : Int)
  | prompt (e : Prompt.Failure)
  /-- All attempts failed, the last one for this cause. -/
  | exhausted (label : Text) (attempts : Int) (cause : Cause)
  | fault (f : Fault)
deriving DecidableEq

def Failure.message : Failure → Text
  | noAttempts allowed => ("retries must be at least 1, got " ++ toString allowed).toList
  | prompt e => e.message
  | exhausted label attempts cause =>
    "Failed to generate documentation for ".toList ++ label
      ++ (" after " ++ toString attempts ++ " attempts: ").toList ++ cause.message
  | fault f => f.message

/-! ## Attempts -/

/-- The outcome of one attempt. -/
inductive Attempt where
  | accepted (block : Text)
  /-- Another attempt may do better. -/
  | failed (cause : Cause)
  | broken (f : Fault)
deriving DecidableEq

namespace Attempt

/-- What an answer amounts to. -/
def ofAnswer : Except Fault Text → Attempt
  | .ok answer =>
    match Comment.accept answer with
    | .ok block => accepted block
    | .error r => failed (.rejected r)
  | .error f => if f.isPassing then failed (.fault f) else broken f

end Attempt

/-- The pause behind an attempt. -/
def delay (base : Float) (attempt : Nat) : Float := base * Float.ofNat attempt

/-! ## Tasks -/

/-- What a comment is called in messages: by its function's name, or by its kind. -/
def label (kind : DocKind) : Option Text → Text
  | some (c :: name) => c :: name
  | _ => kind.word.toList

/-- What is asked on the way to a comment, how often at most, and how the pauses grow. -/
structure Task where
  question : Question
  kind : DocKind
  allowed : Int
  base : Float

namespace Task

/-- What the comment is called in messages. -/
def label (t : Task) : Text := Generation.label t.kind t.question.name

/-- The attempts that may follow the first one. -/
def further (t : Task) : Nat := t.allowed.toNat - 1

def acceptedEntry (t : Task) : Log.Entry :=
  Log.Source.generation.entry .debug ["Generated documentation for ", .text t.label]

def retryEntry (t : Task) (attempt : Nat) (cause : Cause) (delay : Float) : Log.Entry :=
  Log.Source.generation.entry .warning
    ["Generation for ", .text t.label, " failed (attempt ", .number attempt, "/",
      .number t.allowed, "): ", cause.said, "; retrying in ", .real 1 delay, " seconds"]

/-- The session once the prompt is made. -/
def opened (t : Task) (s : Session) : Session :=
  s.log [Prompt.Store.promptEntry t.kind t.question.prompt]

/-- The session behind a failed attempt, once it is told that another one follows. -/
def retried (t : Task) (attempt : Nat) (cause : Cause) (s : Session) : Session :=
  s.log [t.retryEntry attempt cause (delay t.base attempt)]

/-- The session once the pause behind a failed attempt is over. -/
def paused (t : Task) (attempt : Nat) (cause : Cause) (s : Session) : Session :=
  (t.retried attempt cause s).pause (delay t.base attempt)

/-- What an attempt comes to that no other one follows. -/
def concluded (t : Task) : Attempt → Session → Except Failure Text × Session
  | .accepted block, s => (.ok block, s.log [t.acceptedEntry])
  | .failed cause, s => (.error (.exhausted t.label t.allowed cause), s)
  | .broken f, s => (.error (.fault f), s)

/-- The task that is set by a prompt. -/
def ofPrompt (settings : Settings) (allowed : Int) (name : Option Text) (kind : DocKind)
    (prompt : Text) : Task where
  question := { name, prompt, system }
  kind := kind
  allowed := allowed
  base := settings.retryBaseDelay

end Task

/-- Asks until an answer is accepted. `more` attempts may follow the one with number `attempt`. -/
def attempts (ask : Asker) (t : Task) : Nat → Nat → Session → Except Failure Text × Session
  | more, attempt, s =>
    let (answer, s) := ask { t.question with attempt } s
    match Attempt.ofAnswer answer, more with
    | .failed cause, more + 1 =>
      match ask.timer (delay t.base attempt) with
      | none => attempts ask t more (attempt + 1) (t.paused attempt cause s)
      | some f => t.concluded (.broken f) (t.retried attempt cause s)
    | outcome, _ => t.concluded outcome s

/-- The task to get a comment on a piece of code. `retries` bounds the attempts, else the settings do. -/
def prepare (store : Prompt.Store) (settings : Settings) (retries : Option Int) (code : Text)
    (kind : DocKind) (name : Option Text) : Except Failure Task :=
  let allowed := retries.getD settings.maxRetries
  if allowed < 1 then .error (.noAttempts allowed)
  else
    match store.prompt code kind settings.style name with
    | .error e => .error (.prompt e)
    | .ok prompt => .ok (.ofPrompt settings allowed name kind prompt)

/-- As `prepare`, for a kind that is given by its word. -/
def prepareOfWord (store : Prompt.Store) (settings : Settings) (retries : Option Int)
    (code kind : Text) (name : Option Text) : Except Failure Task :=
  let allowed := retries.getD settings.maxRetries
  if allowed < 1 then .error (.noAttempts allowed)
  else
    match store.promptOfWord code kind settings.style name with
    | .error e => .error (.prompt e)
    | .ok (kind, prompt) => .ok (.ofPrompt settings allowed name kind prompt)

/-- Does a task that has been prepared. -/
def perform (ask : Asker) : Except Failure Task → Session → Except Failure Text × Session
  | .error e, s => (.error e, s)
  | .ok t, s => attempts ask t t.further 1 (t.opened s)

/-- Asks for a comment on a piece of code. -/
def generate (ask : Asker) (store : Prompt.Store) (settings : Settings) (retries : Option Int)
    (code : Text) (kind : DocKind) (name : Option Text) : Session → Except Failure Text × Session :=
  perform ask (prepare store settings retries code kind name)

/-- As `generate`, for a kind that is given by its word. -/
def generateOfWord (ask : Asker) (store : Prompt.Store) (settings : Settings) (retries : Option Int)
    (code kind : Text) (name : Option Text) : Session → Except Failure Text × Session :=
  perform ask (prepareOfWord store settings retries code kind name)

/-! ## Jobs -/

/-- One of several comments that are asked for: its number among them, and its task. -/
structure Job where
  number : Nat
  prepared : Except Failure Task

/-- Does a job. Whoever answers is told its number. -/
def Job.perform (ask : Asker) (j : Job) : Session → Except Failure Text × Session :=
  Generation.perform (ask.forJob j.number) j.prepared

/-- Does jobs one after the other, up to the first that fails. -/
def performAll (ask : Asker) : List Job → Session → Except Failure (List Text) × Session
  | [], s => (.ok [], s)
  | j :: rest, s =>
    match j.perform ask s with
    | (.error e, s) => (.error e, s)
    | (.ok b, s) =>
      let (more, s) := performAll ask rest s
      (more.map (b :: ·), s)

end Generation

end DocWeave
