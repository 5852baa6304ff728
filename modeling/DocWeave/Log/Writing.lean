import DocWeave.Files
import DocWeave.Log.Format

/-!
# Where entries are written

Entries of the program go to the console and, if one is named, to a file. A setup takes the place of
the one before it, so that no entry is written twice. Before the first setup, and for entries that do
not come from the program, warnings go to the console as they are.
-/

namespace DocWeave.Log

/-! ## Writers -/

inductive Target where
  | console
  | file (path : Path)
deriving DecidableEq

/-- A writer takes the entries from some level on. -/
structure Writer where
  target : Target
  level : Int
  format : Text
deriving DecidableEq

/-- The writers of the program's entries. -/
structure Logger where
  /-- The least level that is taken; `0` stands for the usual one. -/
  level : Int := 0
  writers : List Writer := []
  /-- Tells when and where entries are logged. -/
  time : Clock := default
deriving Inhabited

/-- What entries are written to. -/
structure Sink where
  files : Files
  console : Text := []
  /-- How many entries have been logged. -/
  count : Nat := 0

namespace Writer

/-- Writes an entry as a line. -/
def write (w : Writer) (m : Moment) (e : Entry) (s : Sink) : Sink :=
  match Format.line? w.format m e with
  | none => s
  | some line =>
    match w.target with
    | .console => { s with console := s.console ++ line ++ ['\n'] }
    | .file p =>
      match s.files.append p (Encoding.encode (line ++ ['\n'])) with
      | .ok files => { s with files }
      | .error _ => s

end Writer

namespace Logger

/-- The level that counts if none is set. -/
def usualLevel : Int := Level.warning.rank

def leastLevel (l : Logger) : Int := if l.level = 0 then usualLevel else l.level

/-- Whether entries under a name come from the program. -/
def isOwn (source : String) : Bool :=
  source == Source.program.name || (Source.program.name ++ ".").toList.isPrefixOf source.toList

/-- Writes an entry as it is, if it is a warning at least. -/
def writePlain (e : Entry) (s : Sink) : Sink :=
  if e.level.rank < usualLevel then s else { s with console := s.console ++ e.message ++ ['\n'] }

/-- Writes an entry wherever it belongs, at a moment. -/
def writeAt (l : Logger) (m : Moment) (e : Entry) (s : Sink) : Sink :=
  if isOwn e.source && !l.writers.isEmpty then
    if e.level.rank < l.leastLevel then s
    else
      (l.writers.filter fun w => w.level ≤ e.level.rank).foldl (fun s w => w.write m e s) s
  else if isOwn e.source && e.level.rank < l.leastLevel then s
  else writePlain e s

/-- Writes an entry, which is the next one to be logged. -/
def write (l : Logger) (e : Entry) (s : Sink) : Sink :=
  l.writeAt (l.time.reading s.count) e { s with count := s.count + 1 }

def writeAll (l : Logger) (entries : List Entry) (s : Sink) : Sink :=
  entries.foldl (fun s e => l.write e s) s

/-! ## Setting up -/

/-- Why entries cannot be written as asked. -/
inductive Problem where
  /-- The level is no text. -/
  | noText
  /-- The word for the level stands for something else. -/
  | unknownLevel (given : Text)
  /-- The level, the format or the path is of the wrong kind. -/
  | wrongKind
  | invalidFormat (format : Text)
  | file (problem : Files.Problem) (path : Text)
deriving DecidableEq

def Problem.message : Problem → Text
  | unknownLevel given => "Unknown level: ".toList ++ Printed.quoted given
  | invalidFormat format =>
    "Invalid format '".toList ++ format ++ "' for '%' style".toList
  | file problem path => problem.message path
  | noText => []
  | wrongKind => []

/-- Capital letters of a word; only those matter that come out as ASCII. -/
def capitals (c : Char) : Text :=
  if c = 'ı' then ['I']
  else if c = 'ſ' then ['S']
  else if c = 'ﬅ' ∨ c = 'ﬆ' then ['S', 'T']
  else [c.toUpper]

/-- What a word in capital letters stands for. -/
inductive LevelWord where
  | level (n : Int)
  /-- It is the name of another text. -/
  | text (t : Text)
  /-- It is the name of something else. -/
  | other
deriving DecidableEq

/-- The words for levels, and words that are taken otherwise. -/
def levelWords : List (String × LevelWord) :=
  Level.all.map (fun l => (l.word, .level l.rank)) ++
    [("WARN", .level 30), ("FATAL", .level 50), ("NOTSET", .level 0),
      ("BASIC_FORMAT", .text "%(levelname)s:%(name)s:%(message)s".toList), ("_STYLES", .other)]

/-- The level that a word stands for; unknown words stand for the usual information. -/
def levelOfWord (word : Text) : Except Problem Int :=
  match levelWords.find? fun w => w.1.toList == word.flatMap capitals with
  | some (_, .level n) => .ok n
  | some (_, .text t) => .error (.unknownLevel t)
  | some (_, .other) => .error .wrongKind
  | none => .ok Level.info.rank

/-- The format that a setting stands for; nothing stands for the message alone. -/
def formatOf (v : Value) : Except Problem Text :=
  match v with
  | .text (c :: t) =>
    if Format.hasField (c :: t) then .ok (c :: t) else .error (.invalidFormat (c :: t))
  | v => if v.isGiven then .error .wrongKind else .ok "%(message)s".toList

/-- The path by which a file is opened: from the root, with what two points undo left out. -/
def absolute (here : List Text) (p : Path) : Path :=
  let names := (if p.root.isEmpty then here else []) ++ p.names
  { root := if p.root.isEmpty then ['/'] else p.root
    names := names.foldl (fun done n => if n = ['.', '.'] then done.dropLast else done ++ [n]) [] }

/-- Opens a file for entries. -/
def openFile (v : Value) (s : Sink) : Except Problem (Option Path × Sink) :=
  if v.isGiven then
    match v with
    | .text t =>
      let p := absolute s.files.here (Path.ofText t)
      match s.files.append p [] with
      | .ok files => .ok (some p, { s with files })
      | .error e => .error (.file e p.toText)
    | _ => .error .wrongKind
  else .ok (none, s)

/-- What is logged at the end of a setup. -/
def readyEntry (level : Text) : Entry :=
  Source.program.entry .debug ["Logging initialized at level ", .text level]

/-- Sets the writers up. What has been done before a problem is found stays done. -/
def setUp (l : Logger) (settings : Settings) (s : Sink) : Logger × Sink × Option Problem :=
  let l := { l with writers := [] }
  match settings.level with
  | .text word =>
    match levelOfWord word with
    | .error p => (l, s, some p)
    | .ok level =>
      let l := { l with level }
      match formatOf settings.format with
      | .error p => (l, s, some p)
      | .ok format =>
        let l := { l with writers := [⟨.console, level, format⟩] }
        match openFile settings.file s with
        | .error p => (l, s, some p)
        | .ok (path, s) =>
          let fileWriter := path.toList.map fun p => ⟨.file p, level, format⟩
          let l := { l with writers := l.writers ++ fileWriter }
          (l, l.write (readyEntry word) s, none)
  | _ => (l, s, some .noText)

end Logger

end DocWeave.Log
