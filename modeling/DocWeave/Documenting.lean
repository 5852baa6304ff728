import DocWeave.Config
import DocWeave.Files.Collecting
import DocWeave.Source
import DocWeave.Splice

/-!
# Documenting files

A file is documented in three steps: its spans are found, comments are asked for, for the file as a
whole and for every span, and when all of them have come they are put into the text, which is then
written. Whatever fails before the last step leaves the file as it was, and ends the run: files in
front of it stay documented, files behind it are not touched.
-/

namespace DocWeave.Documenting

structure Settings where
  selection : Selection := {}
  generation : Generation.Settings := {}
  /-- By what scripts are read. -/
  reader : Reader := Reading.ofText
  /-- Whether the texts of a dry run are handed out; else they are logged. -/
  observed : Bool := false

/-- A file that has been documented. -/
structure Documented where
  path : Path
  content : Text
  spans : List Span
  written : Bool

/-- Why a file has not been documented. -/
inductive Failure where
  | source (e : Source.Failure)
  /-- There is nobody to do the work. -/
  | noWorkers
  | generation (e : Generation.Failure)
  | misplaced (m : Splice.Misplaced)
deriving DecidableEq

def Failure.message : Failure → Text
  | source e => e.message
  | noWorkers => "max_workers must be greater than 0".toList
  | generation e => e.message
  | misplaced m => m.message

structure State where
  files : Files
  session : Session := {}
  /-- The texts that a dry run has handed out. -/
  shown : List (Path × Text) := []

namespace State

def log (s : State) (entries : List Log.Entry) : State := { s with session := s.session.log entries }

end State

def entry (level : Log.Level) (said : Log.Message) : Log.Entry :=
  Log.Source.documenting.entry level said

/-! ## Comments -/

/-- What comments are asked for: one for the file, and one for every span. -/
def jobs (script : Source.Parsed) : List Span := Span.ofFile script.text :: script.spans

/-- The job to get a comment on a span. -/
def job (store : Prompt.Store) (settings : Generation.Settings) (number : Nat) (span : Span) :
    Generation.Job where
  number := number
  prepared := Generation.prepare store settings (some settings.maxRetries) span.text span.docKind
    span.name

/-- The jobs to get comments on spans, numbered from zero. -/
def commentJobs (store : Prompt.Store) (settings : Generation.Settings) (spans : List Span) :
    List Generation.Job :=
  spans.mapIdx (job store settings)

/-- Something that has comments made for spans: all of them in order, or a failure. -/
abbrev Runner := List Span → Session → Except Generation.Failure (List Text) × Session

/-- Asks for the comments of spans one after the other, up to the first that there is none for. -/
def blocks (ask : Asker) (store : Prompt.Store) (settings : Generation.Settings) : Runner :=
  fun spans => Generation.performAll ask (commentJobs store settings spans)

/-! ## One file -/

/-- The documented text of a script, the comments of which `run` has made. -/
def documentScript (run : Runner) (settings : Generation.Settings) (script : Source.Parsed)
    (s : Session) : Except Failure Text × Session :=
  if settings.maxWorkers ≤ 0 then (.error .noWorkers, s)
  else
    match run (jobs script) s with
    | (.error e, s) => (.error (.generation e), s)
    | (.ok bs, s) =>
      let placements := (script.spans.zip bs.tail).map fun p => ⟨p.1, p.2⟩
      match Splice.splice script.text (bs.headD []) placements with
      | .ok content => (.ok content, s.log [Splice.entry placements.length])
      | .error m => (.error (.misplaced m), s)

/-- Writes a documented text, or hands it out in a dry run. -/
def deliver (settings : Settings) (p : Path) (script : Source.Parsed) (content : Text) (s : State) :
    Except Failure Documented × State :=
  if settings.selection.dryRun then
    let done : Documented := ⟨p, content, script.spans, false⟩
    if settings.observed then (.ok done, { s with shown := s.shown ++ [(p, content)] })
    else
      (.ok done, s.log [entry .info
        ["Dry run, not writing ", .path p.toText, ":\n", .text content]])
  else
    match s.files.write p (Encoding.encode content) with
    | .ok files =>
      (.ok ⟨p, content, script.spans, true⟩,
        { s with files }.log [entry .info
          ["Documented ", .path p.toText, " (", .number script.spans.length, " functions)"]])
    | .error e => (.error (.source (.file e p.toText)), s)

/-- Documents one file, the comments of which `run` has made. -/
def documentFileBy (run : Runner) (settings : Settings) (p : Path) (s : State) :
    Except Failure Documented × State :=
  let s := s.log [entry .info ["Processing ", .path p.toText]]
  let (script, entries) := Source.load s.files p settings.reader
  let s := s.log entries
  match script with
  | .error e => (.error (.source e), s)
  | .ok script =>
    let (content, session) := documentScript run settings.generation script s.session
    let s := { s with session }
    match content with
    | .error e => (.error e, s)
    | .ok content => deliver settings p script content s

/-- Documents one file. -/
def documentFile (ask : Asker) (store : Prompt.Store) (settings : Settings) (p : Path) (s : State) :
    Except Failure Documented × State :=
  documentFileBy (blocks ask store settings.generation) settings p s

/-! ## Directories -/

/-- Documents files one after the other, up to the first that cannot be documented. The comments of
the file at `p` are made by `run p`. -/
def documentFilesBy (run : Path → Runner) (settings : Settings) :
    List Path → State → Except Failure (List Documented) × State
  | [], s => (.ok [], s)
  | p :: rest, s =>
    match documentFileBy (run p) settings p s with
    | (.error e, s) => (.error e, s)
    | (.ok d, s) =>
      let (more, s) := documentFilesBy run settings rest s
      (more.map (d :: ·), s)

/-- What is logged once the files of a directory have been collected. -/
def collectedEntries (found : Files.Found) (written : Text) : List Log.Entry :=
  found.entries ++ [entry .info
    ["Found ", .number found.paths.length, " files to document in ", .text written]]

/-- Documents the files below a directory, the path of which is told as it is written. The comments
of the file at `p` are made by `run p`. -/
def documentDirectoryBy (run : Path → Runner) (settings : Settings) (written : Text) (s : State) :
    Except Failure (List Documented) × State :=
  let p := Path.ofText written
  match s.files.collect p settings.selection.extensions with
  | .error e => (.error (.source (.file e p.toText)), s)
  | .ok found =>
    documentFilesBy run settings found.paths (s.log (collectedEntries found written))

/-- Documents the files below a directory. -/
def documentDirectory (ask : Asker) (store : Prompt.Store) (settings : Settings) (written : Text)
    (s : State) : Except Failure (List Documented) × State :=
  documentDirectoryBy (fun _ => blocks ask store settings.generation) settings written s

end DocWeave.Documenting
