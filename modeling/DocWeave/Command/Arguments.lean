import DocWeave.Text.Likeness
import DocWeave.Text.Pieces
import DocWeave.Text.Printed

/-!
# Arguments

The arguments of a command are switches, which begin with a dash, and words. A switch may take a value:
the argument behind it, or what follows its equals sign. Two dashes end the switches.
-/

namespace DocWeave.Command

structure Switch where
  name : Text
  /-- The letter by which the switch is also known. -/
  letter : Option Char := none
  takesValue : Bool := false
deriving DecidableEq

/-- Why arguments cannot be used. -/
inductive Misuse where
  /-- The switches in `known` may have been meant. -/
  | unknownSwitch (name : Text) (known : List Text)
  | noValue (name : Text)
  | unwantedValue (name : Text)
  /-- The value of a parameter will not do. -/
  | badValue (parameter why : Text)
  | missingWord (parameter : Text)
  | extraWords (words : List Text)
  | missingCommand
  | unknownCommand (name : Text) (known : List Text)
deriving DecidableEq

namespace Misuse

/-- Whether it is told how the command is used. -/
def tellsUsage : Misuse → Bool
  | noValue _ => false
  | unwantedValue _ => false
  | _ => true

/-- What may have been meant. -/
def suggestion : List Text → Text
  | [] => []
  | [name] => " Did you mean ".toList ++ Printed.quoted name ++ ['?']
  | names =>
    " (Did you mean one of: ".toList ++ [',', ' '].intercalate (names.map Printed.quoted)
      ++ ['?', ')']

def message : Misuse → Text
  | unknownSwitch name known =>
    "No such option ".toList ++ Printed.quoted name ++ ['.'] ++ suggestion known
  | noValue name => "Option ".toList ++ Printed.quoted name ++ " requires an argument.".toList
  | unwantedValue name => "Option ".toList ++ Printed.quoted name ++ " does not take a value.".toList
  | badValue parameter why => "Invalid value for ".toList ++ parameter ++ [':', ' '] ++ why
  | missingWord parameter => "Missing argument ".toList ++ parameter ++ ['.']
  | extraWords words =>
    "Got unexpected extra argument".toList ++ (if words.length = 1 then [] else ['s'])
      ++ [' ', '('] ++ Pieces.join ' ' words ++ [')']
  | missingCommand => "Missing command.".toList
  | unknownCommand name known =>
    "No such command ".toList ++ Printed.quoted name ++ ['.'] ++ suggestion known

end Misuse

/-- What has been given: switches in their order, with their values, and words. -/
structure Given where
  switches : List (Text × Text) := []
  words : List Text := []

namespace Given

def has (g : Given) (name : String) : Bool := (g.switches.lookup name.toList).isSome

/-- The value of a switch; the last one counts. -/
def value? (g : Given) (name : String) : Option Text := g.switches.reverse.lookup name.toList

def addSwitch (g : Given) (name value : Text) : Given :=
  { g with switches := (name, value) :: g.switches }

def addWord (g : Given) (word : Text) : Given := { g with words := word :: g.words }

end Given

namespace Arguments

/-- The switches that a row of letters stands for; those with letters take no values. -/
def letters (switches : List Switch) : Text → Except Misuse (List Text)
  | [] => .ok []
  | c :: rest =>
    match switches.find? fun s => s.letter == some c with
    | some s => (letters switches rest).map (s.name :: ·)
    | none => .error (.unknownSwitch ['-', c] [])

/-- The name of a switch and the value behind its equals sign. -/
def cut (argument : Text) : Text × Option Text :=
  match argument.dropWhile (· != '=') with
  | _ :: value => (argument.takeWhile (· != '='), some value)
  | [] => (argument, none)

def isSwitch (argument : Text) : Bool := argument.head? == some '-' && argument.length > 1

/-- Reads arguments. Unless they are mixed, the first word ends the switches. -/
def read (switches : List Switch) (mixed : Bool) : List Text → Except Misuse Given
  | [] => .ok {}
  | argument :: rest =>
    if argument = ['-', '-'] then .ok { words := rest }
    else if isSwitch argument then
      let (name, value) := cut argument
      match switches.find? fun s => s.name == name with
      | some s =>
        if s.takesValue then
          match value with
          | some v => (read switches mixed rest).map fun g => g.addSwitch s.name v
          | none =>
            match rest with
            | v :: rest => (read switches mixed rest).map fun g => g.addSwitch s.name v
            | [] => .error (.noValue name)
        else
          match value with
          | some _ => .error (.unwantedValue name)
          | none => (read switches mixed rest).map fun g => g.addSwitch s.name []
      | none =>
        if ['-', '-'].isPrefixOf argument then
          .error (.unknownSwitch name (Likeness.closest name (switches.map (·.name))))
        else
          match letters switches (argument.drop 1) with
          | .error e => .error e
          | .ok names =>
            (read switches mixed rest).map fun g => names.foldr (fun n g => g.addSwitch n []) g
    else if mixed then (read switches mixed rest).map fun g => g.addWord argument
    else .ok { words := argument :: rest }

end Arguments

end DocWeave.Command
