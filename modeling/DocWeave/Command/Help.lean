import DocWeave.Command.Arguments

/-!
# Help

The commands, the switches that they know, and what is said about them.
-/

namespace DocWeave.Command

/-- The commands. -/
inductive Kind where
  | run
  | spans
  | estimate
deriving DecidableEq, Inhabited

namespace Kind

def word : Kind → String
  | run => "run"
  | spans => "spans"
  | estimate => "estimate"

def all : List Kind := [run, spans, estimate]

def ofWord? (t : Text) : Option Kind := all.find? fun k => k.word.toList == t

/-- How the parameter of a command is written: in brackets where it may be left out. -/
def parameter : Kind → Text
  | run => "[PATH]".toList
  | _ => "PATH".toList

/-- The switches of a command. -/
def switches : Kind → List Switch
  | run => [
      { name := "--dry-run".toList },
      { name := "--api-key".toList, takesValue := true },
      { name := "--recursive".toList, letter := some 'r' },
      { name := "--model".toList, takesValue := true },
      { name := "--format".toList, takesValue := true },
      { name := "--help".toList }]
  | spans => [
      { name := "--recursive".toList, letter := some 'r' },
      { name := "--json".toList },
      { name := "--help".toList }]
  | estimate => [
      { name := "--recursive".toList, letter := some 'r' },
      { name := "--model".toList, takesValue := true },
      { name := "--help".toList }]

end Kind

/-- The switches in front of the command. -/
def commonSwitches : List Switch := [
    { name := "--version".toList },
    { name := "--config".toList, takesValue := true },
    { name := "--help".toList }]

/-- The name under which the program is called. -/
def programName : String := "autoscribe"

def version : String := "0.1.0"

namespace Help

/-- How the program is used. -/
def usage : String := "Usage: " ++ programName ++ " [OPTIONS] COMMAND [ARGS]..."

/-- How a command is used. -/
def usageOf (k : Kind) : String :=
  "Usage: " ++ programName ++ " " ++ k.word ++ " [OPTIONS] " ++ String.ofList k.parameter

/-- Where more is said about the program. -/
def hint : String := "Try '" ++ programName ++ " --help' for help."

/-- Where more is said about a command. -/
def hintOf (k : Kind) : String := "Try '" ++ programName ++ " " ++ k.word ++ " --help' for help."

def lines : List String := [
  usage,
  "",
  "  " ++ programName ++ ": write JSDoc/TSDoc comments into JS and TS sources.",
  "",
  "Options:",
  "  --version      Show the version and exit.",
  "  --config FILE  YAML configuration file.",
  "  --help         Show this message and exit.",
  "",
  "Commands:",
  "  estimate  Estimate API cost without generating documentation.",
  "  run       Generate documentation comments and write them into the sources.",
  "  spans     List the functions that would be documented."]

def linesOf : Kind → List String
  | .run => [
      usageOf .run,
      "",
      "  Generate documentation comments and write them into the sources.",
      "",
      "  PATH is a source file, or a directory when --recursive is given. Command-",
      "  line flags take precedence over environment variables.",
      "",
      "Options:",
      "  --dry-run               Print the documented sources instead of writing",
      "                          them.",
      "  --api-key TEXT          Anthropic API key.",
      "  -r, --recursive         Process a directory recursively.",
      "  --model TEXT            Model used for generation.",
      "  --format [jsdoc|tsdoc]  Comment style to generate.",
      "  --help                  Show this message and exit."]
  | .spans => [
      usageOf .spans,
      "",
      "  List the functions that would be documented.",
      "",
      "  Parses each file and prints its documentable spans without calling the API.",
      "",
      "Options:",
      "  -r, --recursive  Scan a directory recursively.",
      "  --json           Print spans as JSON.",
      "  --help           Show this message and exit."]
  | .estimate => [
      usageOf .estimate,
      "",
      "  Estimate API cost without generating documentation.",
      "",
      "  Renders every prompt a run would send and prices it, assuming one comment",
      "  block of typical size per request.",
      "",
      "Options:",
      "  -r, --recursive  Scan a directory recursively.",
      "  --model TEXT     Model to price the estimate with.",
      "  --help           Show this message and exit."]

def text : Text := ("\n".intercalate lines).toList

def textOf (k : Kind) : Text := ("\n".intercalate (linesOf k)).toList

end Help

end DocWeave.Command
