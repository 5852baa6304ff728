import DocWeave.Config
import DocWeave.Files
import DocWeave.Text.Lines
import DocWeave.Yaml.Load

/-!
# Loading the configuration

The configuration is read from a file if one is named and there. A file that cannot be read, or holds
what is no configuration, is a problem; that there is no file is none.
-/

namespace DocWeave.Config

/-- Why a configuration cannot be loaded. -/
inductive LoadProblem where
  | file (problem : Files.Problem) (path : Text)
  | undecodable (fault : Encoding.Fault)
  | contents (problem : Yaml.Problem)
  | setting (problem : Problem)
deriving Inhabited

def LoadProblem.message : LoadProblem → Text
  | file problem path => problem.message path
  | undecodable fault => fault.message
  | contents problem => problem.message
  | setting problem => problem.message

/-- The end of a file is read by itself, so that faulty bytes there are counted from its start. -/
def relocate (f : Encoding.Fault) : Encoding.Fault :=
  match f.reason with
  | .ending => { f with start := 0, stop := f.stop - f.start }
  | _ => f

/-- The configuration that some bytes hold. -/
def ofBytes (bytes : Bytes) : Except LoadProblem Config :=
  match Encoding.decode bytes with
  | .error fault => .error (.undecodable (relocate fault))
  | .ok t =>
    match Yaml.read (Lines.unify t) with
    | .error problem => .error (.contents problem)
    | .ok v => (ofValue v).mapError .setting

/-- The configuration of a file and what is logged about it. Nothing named is what is built in. -/
def load (f : Files) (written : Option Text) : Except LoadProblem Config × List Log.Entry :=
  match written with
  | none => (.ok {}, [])
  | some t =>
    let p := Path.ofText t
    if t.isEmpty then (.ok {}, [])
    else if f.isPresent p then
      match f.read p with
      | .error problem => (.error (.file problem p.toText), [])
      | .ok bytes =>
        (ofBytes bytes, [Log.Source.configuration.entry .debug
          ["Loaded configuration from ", .path p.toText]])
    else
      (.ok {}, [Log.Source.configuration.entry .debug
        ["Config file not found at ", .path p.toText, ", using defaults"]])

end DocWeave.Config
