import DocWeave.Command
import Std.Time.Format

/-!
# The program

Reads the files that a call names, lets the library say what the call comes to, and then prints and
writes that. No service is connected, so every request meets a fault that may pass.
-/

namespace DocWeave.Program

/-! ## Files -/

/-- What a directory holds under a name. What links lead to is kept in mind. -/
partial def readEntry (e : IO.FS.DirEntry) : StateT (List String) IO (Option (Text × FileNode)) := do
  let name := e.fileName.toList
  match (← e.path.symlinkMetadata).type with
  | .dir => return some (name, .directory (← (← e.path.readDir).toList.filterMapM readEntry))
  | .file => return some (name, .file (← IO.FS.readBinFile e.path).toList)
  | .symlink =>
    try
      let target ← IO.FS.realPath e.path
      modify (target.toString :: ·)
      return some (name, .link target.toString.toList)
    catch _ => return none
  | .other => return none

/-- Puts a node where nothing is known yet. -/
def putNew (location : List Text) (n : FileNode) (f : Files) : Files :=
  if (f.root.find? location).isSome then f else { f with root := FileNode.put n location f.root }

/-- What a link leads to is a file, or a directory that is not gone through. -/
def surveyTarget (f : Files) (target : String) : IO Files := do
  let location := (Path.ofText target.toList).names
  try return putNew location (.file (← IO.FS.readBinFile target).toList) f
  catch _ => return putNew location (.directory []) f

/-- The files once what a path leads to is known as well. -/
def survey (f : Files) (written : Text) : IO Files := do
  let location := (Log.Logger.absolute f.here (Path.ofText written)).names
  try
    let real ← IO.FS.realPath (String.ofList written)
    let names := (Path.ofText real.toString.toList).names
    let entry : IO.FS.DirEntry := match real.parent, real.fileName with
      | some directory, some name => ⟨directory, name⟩
      | _, _ => ⟨real, "."⟩
    let (node, targets) ← (readEntry entry).run []
    let f := (node.map fun n => { f with root := FileNode.put n.2 names f.root }).getD f
    let f := if names = location then f
      else putNew location (.link real.toString.toList) f
    targets.foldlM surveyTarget f
  catch _ =>
    try
      let parent := (Path.toText ⟨['/'], location.dropLast⟩)
      let _ ← IO.FS.realPath (String.ofList parent)
      return putNew location.dropLast (.directory []) f
    catch _ => return f

/-- Texts that may be paths: arguments, and what follows an equals sign in them. -/
def candidates (arguments : List Text) : List Text :=
  arguments.flatMap fun a => a :: (Command.Arguments.cut a).2.toList

/-- The file in which a call logs. -/
def logFile? (w : Command.World) (arguments : List Text) : Option Text :=
  match Command.opening w.files arguments with
  | .ok (.command _ config _) =>
    match (Command.configure w config).1 with
    | .ok { logging := { file := .text t, .. }, .. } => some t
    | _ => none
  | _ => none

/-- Writes the files that have changed. -/
def writeChanges (old new : Files) : IO Unit := do
  let before := old.root.files
  for (location, bytes) in new.root.files do
    if before.lookup location != some bytes then
      let path : Path := ⟨['/'], location⟩
      IO.FS.writeBinFile (String.ofList path.toText) ⟨bytes.toArray⟩

/-! ## Calls -/

/-- Does what the arguments ask for. -/
def run (arguments : List Text) : IO UInt32 := do
  let here := (Path.ofText (← IO.currentDir).toString.toList).names
  let root := FileNode.put (.directory []) here (.directory [])
  let files ← (candidates arguments).foldlM survey { root, here }
  let given ← Config.Environment.names.filterMapM fun name => do
    return (← IO.getEnv name).map fun value => (name, value.toList)
  let home := ((← IO.appPath).parent.map fun p => p.toString.toList).getD []
  let time ← Std.Time.PlainDateTime.now
  let world : Command.World := {
    files
    environment := fun name => List.lookup name given
    service := fun _ _ => .error (.service "APIConnectionError" "Connection error.".toList)
    home
    now := 0.0
    timer := .system
    time := (time.format "uuuu-MM-dd HH:mm:ss,SSS").toList }
  let world := { world with
    files := ← ((logFile? world arguments).toList.foldlM survey files) }
  let outcome := Command.call world arguments
  writeChanges world.files outcome.files
  IO.print (String.ofList outcome.out)
  IO.eprint (String.ofList outcome.err)
  match outcome.ending with
  | .exit code => return code.toUInt32
  | .broken b =>
    IO.eprintln (String.ofList b.message)
    return 1

end DocWeave.Program

def main (arguments : List String) : IO UInt32 :=
  DocWeave.Program.run (arguments.map String.toList)
