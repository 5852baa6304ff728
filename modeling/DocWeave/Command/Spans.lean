import DocWeave.Command.Work
import DocWeave.Decimal.Fixed
import DocWeave.Path
import DocWeave.Span
import DocWeave.Text.Lines
import DocWeave.Text.Printed

/-!
# Listing spans

The spans that would be documented are listed, file by file, as a table for people or as JSON for
programs. Nobody is asked and nothing is written.
-/

namespace DocWeave.Command

/-- The spans of files, in the order of the files. -/
abbrev Report := List (Path × List Span)

namespace Report

def spanCount (r : Report) : Nat := (r.flatMap fun e => e.2).length

/-- A text of so many characters at least, filled up in front. -/
def padLeft (width : Nat) (t : Text) : Text := List.replicate (width - t.length) ' ' ++ t

/-- A text of so many characters at least, filled up behind. -/
def padRight (width : Nat) (t : Text) : Text := t ++ List.replicate (width - t.length) ' '

/-! ## The table -/

def spanLine (s : Span) : Text :=
  [' ', ' '] ++ padLeft 5 (toString s.line).toList ++ [' ', ' ']
    ++ padRight 15 s.kind.word.toList ++ [' '] ++ s.name.getD "None".toList

def fileLines (path : Path) (spans : List Span) : List Text :=
  (path.toText ++ (" (" ++ toString spans.length ++ " functions)").toList) :: spans.map spanLine

def table (r : Report) : List Text :=
  r.flatMap (fun e => fileLines e.1 e.2) ++
    [("Found " ++ toString (spanCount r) ++ " documentable functions in " ++ toString r.length
      ++ " files").toList]

/-! ## JSON -/

/-- A character of a JSON text. Only ASCII characters stand for themselves. -/
def jsonChar (c : Char) : Text :=
  let unit (n : Nat) : Text := '\\' :: 'u' :: Printed.hexDigits 4 n
  if c = '"' ∨ c = '\\' then ['\\', c]
  else if c = '\n' then ['\\', 'n']
  else if c = '\r' then ['\\', 'r']
  else if c = '\t' then ['\\', 't']
  else if c = '\x0c' then ['\\', 'f']
  else if c = '\x08' then ['\\', 'b']
  else if ' ' ≤ c ∧ c ≤ '~' then [c]
  else if c.toNat < 0x10000 then unit c.toNat
  else
    let n := c.toNat - 0x10000
    unit (0xd800 + n / 0x400) ++ unit (0xdc00 + n % 0x400)

def jsonText (t : Text) : Text := '"' :: t.flatMap jsonChar ++ ['"']

/-- Items in brackets, each on a line of its own; there is no line if there is no item. -/
def bracketed (opening closing : Char) (indent : Nat) (items : List Text) : Text :=
  if items.isEmpty then [opening, closing]
  else
    let margin (n : Nat) : Text := List.replicate n ' '
    opening :: '\n' :: [',', '\n'].intercalate (items.map fun i => margin (indent + 2) ++ i)
      ++ '\n' :: margin indent ++ [closing]

def member (name : Text) (value : Text) : Text := jsonText name ++ [':', ' '] ++ value

def jsonSpan (indent : Nat) (s : Span) : Text :=
  let number (n : Int) : Text := (toString n).toList
  bracketed '\x7b' '\x7d' indent [
    member "name".toList ((s.name.map jsonText).getD "null".toList),
    member "kind".toList (jsonText s.kind.word.toList),
    member "start_offset".toList (number s.start),
    member "end_offset".toList (number s.stop),
    member "line_number".toList (number s.line)]

def json (r : Report) : Text :=
  bracketed '\x7b' '\x7d' 0 (r.map fun e =>
    member e.1.toText (bracketed '[' ']' 2 (e.2.map (jsonSpan 4))))

end Report

/-! ## The command -/

namespace Spans

/-- The spans of one file. -/
def fileReport (f : Files) (reader : Reader) (p : Path) :
    Except Stop (Path × List Span) × List Log.Entry :=
  match Source.parse f p.toText reader with
  | (.ok script, entries) => (.ok (p, script.spans), entries)
  | (.error e, entries) => (.error (.ofFailure (.source e)), entries)

/-- The spans of all files that a path stands for. -/
def report (f : Files) (reader : Reader) (c : Config) (recursive : Bool) (written : Text) :
    Except Stop Report × List Log.Entry :=
  match targets f c.selection.extensions recursive written with
  | (.error stop, entries) => (.error stop, entries)
  | (.ok paths, entries) =>
    let (r, more) := each (fileReport f reader) paths
    (r, entries ++ more)

/-- The report as it is printed. -/
def lines (asJson : Bool) (r : Report) : List Text :=
  if asJson then [Report.json r] else Report.table r

def work (f : Files) (reader : Reader) (c : Config) (recursive asJson : Bool) (written : Text) :
    Work :=
  let (r, entries) := report f reader c recursive written
  { result := r.map (lines asJson), entries, files := f }

end Spans

end DocWeave.Command
