import DocWeave.Extraction
import DocWeave.Files
import DocWeave.Text.Lines

/-!
# Sources

A source is a file that holds a script. Its bytes are read as UTF-8, and all its lines end in a line
feed from then on.
-/

namespace DocWeave.Source

/-- Why a source cannot be used. -/
inductive Failure where
  | missing (path : Text)
  | file (problem : Files.Problem) (path : Text)
  | undecodable (fault : Encoding.Fault) (path : Text)
  | script (e : ScriptError) (path : Text)
deriving DecidableEq

/-- What is said of a file, with its path in front if it is known. -/
def inFile (path message : Text) : Text := if path.isEmpty then message else path ++ [':', ' '] ++ message

namespace Failure

/-- Whether the failure lies in what the source holds. -/
def isParsing : Failure → Bool
  | undecodable _ _ => true
  | script (.malformed _) _ => true
  | _ => false

/-- What is wrong, with the path in front where the contents are. -/
def message : Failure → Text
  | missing path => "File not found: ".toList ++ path
  | file problem path => problem.message path
  | undecodable fault path => inFile path ("Not valid UTF-8: ".toList ++ fault.message)
  | script (.malformed description) path => inFile path description
  | script .brokenNode _ => []

end Failure

/-- The text of a source. The path is told as it is written. -/
def read (f : Files) (written : Text) : Except Failure Text :=
  let p := Path.ofText written
  match f.read p with
  | .error problem => .error (.file problem p.toText)
  | .ok bytes =>
    match Encoding.decode bytes with
    | .ok t => .ok (Lines.unify t)
    | .error fault => .error (.undecodable fault written)

/-- A source that has been read and understood. -/
structure Parsed where
  text : Text
  spans : List Span

/-- Looks for the spans of a text; the language is told by the path. -/
def extract (text written : Text) (reader : Reader := Reading.ofText) :
    Except Failure Parsed × List Log.Entry :=
  let e := Extraction.run (reader text) text written (Script.Language.ofPath (Path.ofText written))
  match e.result with
  | .ok spans => (.ok ⟨text, spans⟩, e.log)
  | .error err => (.error (.script err written), e.log)

/-- Reads a source and looks for its spans. -/
def load (f : Files) (p : Path) (reader : Reader := Reading.ofText) :
    Except Failure Parsed × List Log.Entry :=
  match read f p.toText with
  | .ok text => extract text p.toText reader
  | .error e => (.error e, [])

/-- As `load`, for a path as it is written, which must lead to something. -/
def parse (f : Files) (written : Text) (reader : Reader := Reading.ofText) :
    Except Failure Parsed × List Log.Entry :=
  let p := Path.ofText written
  if f.isPresent p then
    match read f p.toText with
    | .ok text => extract text written reader
    | .error e => (.error e, [])
  else (.error (.missing written), [])

end DocWeave.Source
