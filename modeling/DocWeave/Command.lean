import DocWeave.Command.Estimate
import DocWeave.Command.Help
import DocWeave.Command.Run
import DocWeave.Command.Spans

/-!
# Calling the program

A call is read from the outside in: first the arguments in front of the command, then the
configuration, then the arguments of the command. Whatever is wrong is found in this order, so a
faulty configuration is told even to those who only ask for help on a command.
-/

namespace DocWeave.Command

/-- How the program ends. -/
inductive Ending where
  | exit (code : Nat)
  | broken (b : Breakdown)

/-- What a call of the program comes to. -/
structure Outcome where
  ending : Ending
  /-- What was printed. -/
  out : Text
  /-- What was logged and complained of. -/
  err : Text
  files : Files
  session : Session

/-! ## The console -/

/-- What has been printed and logged so far. -/
structure Console where
  out : Text := []
  sink : Log.Sink
  logger : Log.Logger

namespace Console

def print (c : Console) (lines : List Text) : Console :=
  { c with out := c.out ++ lines.flatMap (· ++ ['\n']) }

def complain (c : Console) (lines : List Text) : Console :=
  { c with sink := { c.sink with console := c.sink.console ++ lines.flatMap (· ++ ['\n']) } }

def log (c : Console) (entries : List Log.Entry) : Console :=
  { c with sink := c.logger.writeAll entries c.sink }

/-- Ends the call. -/
def close (c : Console) (ending : Ending) (session : Session) : Outcome where
  ending := ending
  out := c.out
  err := c.sink.console
  files := c.sink.files
  session := session

end Console

def errorLine (message : Text) : Text := "Error: ".toList ++ message

/-- How a misuse is told: how the program or the command is used, where more is said, and what is wrong. -/
def misuseLines (usage hint : String) (m : Misuse) : List Text :=
  (if m.tellsUsage then [usage.toList, hint.toList, []] else []) ++ [errorLine m.message]

/-! ## In front of the command -/

/-- What the arguments in front of the command ask for. -/
inductive Opening where
  | help
  | version
  | command (kind : Kind) (config : Option Text) (arguments : List Text)

/-- Reads the switches in front of the command. What they ask for at once is given. -/
def readFront (f : Files) (arguments : List Text) : Except Misuse (Option Opening × Given) := do
  let g ← Arguments.read commonSwitches false arguments
  match g.switches.find? fun s => s.1 != "--config".toList with
  | some (name, _) => return (some (if name = "--help".toList then .help else .version), g)
  | none =>
    match g.value? "--config" with
    | some t =>
      if !t.isEmpty && f.isDirectory (Path.ofText t) then
        throw (.badValue "'--config'".toList
          ("File ".toList ++ Printed.quoted t ++ " is a directory.".toList))
      else return (none, g)
    | none => return (none, g)

/-- Reads all that stands in front of the command, and the command itself. -/
def opening (f : Files) (arguments : List Text) : Except Misuse Opening := do
  let (asked, g) ← readFront f arguments
  match asked, g.words with
  | some o, _ => return o
  | none, [] => throw .missingCommand
  | none, word :: rest =>
    match Kind.ofWord? word with
    | some k => return .command k (g.value? "--config") rest
    | none =>
      -- What looks like a switch although the switches have ended is taken as one after all.
      let (asked, _) ← if word.head? = some '-' then readFront f (word :: rest) else pure (none, g)
      match asked with
      | some o => return o
      | none => throw (.unknownCommand word (Likeness.closest word (Kind.all.map (·.word.toList))))

/-! ## The arguments of the command -/

/-- The value of a switch that asks for a comment style. -/
def styleValue (g : Given) : Except Misuse Value :=
  match g.value? "--format" with
  | none => .ok .null
  | some t =>
    if (Prompt.styles.map (·.1)).contains t then .ok (.text t)
    else
      .error (.badValue "'--format'".toList (Printed.quoted t ++ " is not one of ".toList
        ++ [',', ' '].intercalate (Prompt.styles.map fun s => Printed.quoted s.1) ++ ['.']))

/-- The path that is given; it must lead somewhere. -/
def pathValue (f : Files) (k : Kind) (g : Given) : Except Misuse (Option Text) :=
  let parameter := ['\''] ++ k.parameter ++ ['\'']
  match g.words with
  | [] => if k = .run then .ok none else .error (.missingWord parameter)
  | t :: _ =>
    if f.isPresentText t then .ok (some t)
    else .error (.badValue parameter ("Path ".toList ++ Printed.quoted t ++ " does not exist.".toList))

/-- What a command is called with. -/
structure Call where
  path : Option Text
  recursive : Bool
  asJson : Bool
  overrides : Config.Overrides

/-- Reads the arguments of a command; `none` asks for help. -/
def readCall (f : Files) (k : Kind) (arguments : List Text) : Except Misuse (Option Call) := do
  let g ← Arguments.read k.switches true arguments
  if g.has "--help" then return none
  let style ← styleValue g
  let path ← pathValue f k g
  match g.words.drop 1 with
  | [] =>
    return some {
      path
      recursive := g.has "--recursive"
      asJson := g.has "--json"
      overrides := {
        key := g.value? "--api-key"
        model := ((g.value? "--model").map .text).getD .null
        style
        dryRun := if g.has "--dry-run" then some true else none } }
  | extra => throw (.extraWords extra)

/-! ## Calls -/

/-- Does the work of a command. -/
def work (w : World) (f : Files) (c : Config) (k : Kind) (call : Call) : Work :=
  let store := Prompt.Store.packaged w.home
  match k with
  | .run => Run.work w f store c call.overrides call.recursive call.path
  | .spans => Spans.work f w.reader c call.recursive call.asJson (call.path.getD [])
  | .estimate => Estimate.work f store w.reader c call.overrides call.recursive (call.path.getD [])

/-- Prints what the work came to. -/
def Console.conclude (console : Console) (k : Kind) (done : Work) : Outcome :=
  let console := { console with sink := { console.sink with files := done.files } }
  let console := (console.print done.shown).log done.entries
  match done.result with
  | .ok lines => (console.print lines).close (.exit 0) done.session
  | .error (.refused message) =>
    (console.complain [(Help.usageOf k).toList, errorLine message]).close (.exit 1) done.session
  | .error (.told message) =>
    (console.complain [errorLine message]).close (.exit 1) done.session
  | .error (.broken b) => console.close (.broken b) done.session

/-- The configuration of a file and the environment. -/
def configure (w : World) (file : Option Text) :
    Except Config.LoadProblem Config × List Log.Entry :=
  let (loaded, entries) := Config.load w.files file
  (loaded.bind fun c => (c.withEnvironment w.environment).mapError .setting, entries)

/-- Calls a command once it is known which. -/
def callCommand (w : World) (k : Kind) (file : Option Text) (arguments : List Text)
    (console : Console) : Outcome :=
  let (configured, entries) := configure w file
  let console := console.log entries
  match configured with
  | .error (.setting p) =>
    if p.isTold then (console.complain [errorLine p.message]).close (.exit 1) {}
    else console.close (.broken (.configuration (.setting p))) {}
  | .error p => console.close (.broken (.configuration p)) {}
  | .ok c =>
    let (logger, sink, problem) := console.logger.setUp c.logging console.sink
    let console := { console with logger, sink }
    match problem with
    | some p => console.close (.broken (.logging p)) {}
    | none =>
      match readCall sink.files k arguments with
      | .error m =>
        (console.complain (misuseLines (Help.usageOf k) (Help.hintOf k) m)).close (.exit 2) {}
      | .ok none => (console.print [Help.textOf k]).close (.exit 0) {}
      | .ok (some call) => console.conclude k (work w sink.files c k call)

/-- What the program does when it is called with some arguments. -/
def call (w : World) (arguments : List Text) : Outcome :=
  let console : Console := { sink := { files := w.files }, logger := { time := w.time } }
  match arguments with
  | [] => (console.complain [Help.text]).close (.exit 2) {}
  | _ =>
    match opening w.files arguments with
    | .error m => (console.complain (misuseLines Help.usage Help.hint m)).close (.exit 2) {}
    | .ok .help => (console.print [Help.text]).close (.exit 0) {}
    | .ok .version =>
      (console.print [(programName ++ ", version " ++ version).toList]).close (.exit 0) {}
    | .ok (.command k file rest) => callCommand w k file rest console

end DocWeave.Command
