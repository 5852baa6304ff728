import DocWeave.Config.Loading
import DocWeave.Documenting
import DocWeave.Log.Writing

/-!
# The work of a command

A command works on the files and comes to an end, or stops before. Stops are of three kinds: what was
asked for is refused, something is wrong that the user is told about, or the program breaks down.
-/

namespace DocWeave.Command

/-- What the program meets when it is called. -/
structure World where
  files : Files
  environment : Config.Environment
  /-- Answers a request, by the questions asked so far, the newest in front. -/
  service : List Question → Client.Request → Except Fault Client.Response
  /-- The directory in which the program lives. -/
  home : Text
  /-- The clock, which stands still while the program works. -/
  now : Float
  /-- Tells when and where entries are logged. -/
  time : Log.Clock
  /-- By what the program waits between two attempts. -/
  timer : Timer := .patient
  /-- By what scripts are read. -/
  reader : Reader := Reading.ofText

/-- Asks the service, by the client of the session. -/
def World.asker (w : World) : Asker := .served w.timer w.now w.service

/-! ## Stops -/

/-- A failure that the program does not deal with. -/
inductive Breakdown where
  | configuration (problem : Config.LoadProblem)
  | logging (problem : Log.Logger.Problem)
  | limit (e : Client.LimitError)
  | documenting (e : Documenting.Failure)
  /-- The name of the model is nothing that has a price. -/
  | noPrice
deriving Inhabited

/-- What has failed, as far as there are words for it. -/
def Breakdown.message : Breakdown → Text
  | configuration problem => problem.message
  | logging problem => problem.message
  | limit e => e.message
  | documenting e => e.message
  | noPrice => []

/-- Why a command ends before its work is done. -/
inductive Stop where
  /-- It is told how the command is used. -/
  | refused (message : Text)
  | told (message : Text)
  | broken (b : Breakdown)
deriving Inhabited

namespace Stop

/-- What a failure to document a file comes to: the user is told of faulty sources and answers. -/
def ofFailure : Documenting.Failure → Stop
  | .source e => if e.isParsing then told e.message else broken (.documenting (.source e))
  | .generation (.exhausted label attempts cause) =>
    told (Generation.Failure.exhausted label attempts cause).message
  | .generation (.fault (.told _ text)) => told text
  | e => broken (.documenting e)

end Stop

/-! ## Work -/

/-- What a command has done. -/
structure Work where
  /-- The lines printed at the end. -/
  result : Except Stop (List Text)
  /-- What was logged on the way. -/
  entries : List Log.Entry
  files : Files
  /-- What was printed on the way. -/
  shown : List Text := []
  session : Session := {}

/-- Goes through a list, up to the first item at which it stops. -/
def each {α β : Type} (step : α → Except Stop β × List Log.Entry) :
    List α → Except Stop (List β) × List Log.Entry
  | [] => (.ok [], [])
  | a :: rest =>
    match step a with
    | (.error stop, entries) => (.error stop, entries)
    | (.ok b, entries) =>
      let (more, later) := each step rest
      (more.map (b :: ·), entries ++ later)

/-! ## Targets -/

/-- What is said about a directory that is not to be gone through. -/
def directoryMessage (written : Text) : Text :=
  ['\''] ++ written ++ "' is a directory; pass --recursive to process it.".toList

/-- The files that a path stands for: those below it if it is a directory, else the path itself. -/
def targets (f : Files) (extensions : List Text) (recursive : Bool) (written : Text) :
    Except Stop (List Path) × List Log.Entry :=
  let p := Path.ofText written
  if f.isDirectory p then
    if recursive then
      match f.collect p extensions with
      | .ok found => (.ok found.paths, found.entries)
      | .error e => (.error (.ofFailure (.source (.file e p.toText))), [])
    else (.error (.refused (directoryMessage written)), [])
  else (.ok [p], [])

end DocWeave.Command
