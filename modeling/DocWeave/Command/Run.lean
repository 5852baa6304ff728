import DocWeave.Command.Work

/-!
# Running

Files are documented by a model service, and written unless it is a dry run. Nobody is asked before
it is clear that there is a path, a key, and leave to go through a directory.
-/

namespace DocWeave.Command.Run

/-- What is said about a call that has no path. -/
def pathMessage : Text := "Missing argument 'PATH'.".toList

/-- What is said about a call for which no key is known. -/
def keyMessage : Text := "No API key found. Set ANTHROPIC_API_KEY or pass --api-key.".toList

/-- The path to be documented, unless the call is refused. -/
def guarded (f : Files) (c : Config) (recursive : Bool) (path : Option Text) : Except Stop Text :=
  match path with
  | some (x :: t) =>
    if (c.client.key.getD []).isEmpty then .error (.refused keyMessage)
    else if f.isDirectory (Path.ofText (x :: t)) && !recursive then
      .error (.refused (directoryMessage (x :: t)))
    else .ok (x :: t)
  | _ => .error (.refused pathMessage)

/-! ## What is printed -/

/-- A text of a dry run, under the path to which it belongs. -/
def shownText (p : Path) (content : Text) : List Text :=
  ["----- ".toList ++ p.toText ++ " (dry run) -----".toList, content]

def functionCount (done : List Documenting.Documented) : Nat :=
  (done.flatMap fun d => d.spans).length

def usageLine (u : Client.Usage) : Text :=
  "Tokens used: ".toList ++ Decimal.grouped u.total ++ " (input: ".toList
    ++ Decimal.grouped u.input ++ ", output: ".toList ++ Decimal.grouped u.output ++ [')']

def summary (dryRun : Bool) (done : List Documenting.Documented) (u : Client.Usage) : List Text :=
  let files := toString done.length
  let functions := toString (functionCount done)
  [(if dryRun then
      "Dry run complete: " ++ files ++ " files, " ++ functions
        ++ " functions. No files were modified."
    else "Documented " ++ files ++ " files (" ++ functions ++ " functions)").toList,
    usageLine u]

/-! ## Documenting -/

/-- How files are documented by a configuration. Dry runs are shown. -/
def settings (reader : Reader) (c : Config) : Documenting.Settings where
  selection := c.selection
  generation := c.generation
  reader := reader
  observed := true

/-- Documents what a path leads to. -/
def document (ask : Asker) (store : Prompt.Store) (reader : Reader) (c : Config) (written : Text)
    (s : Documenting.State) :
    Except Documenting.Failure (List Documenting.Documented) × Documenting.State :=
  if s.files.isDirectory (Path.ofText written) then
    Documenting.documentDirectory ask store (settings reader c) written s
  else
    let (d, s) := Documenting.documentFile ask store (settings reader c) (Path.ofText written) s
    (d.map fun d => [d], s)

/-- The state in which a run begins. -/
def start (store : Prompt.Store) (client : Client) (f : Files) : Documenting.State where
  files := f
  session := { entries := store.openingEntries, client := some client }

/-- Documents what a path leads to by a client. -/
def workWith (w : World) (store : Prompt.Store) (c : Config) (client : Client) (f : Files)
    (written : Text) : Work :=
  let (done, s) := document w.asker store w.reader c written (start store client f)
  let usage := (s.session.client.getD client).usage
  { result := match done with
      | .ok done => .ok (summary c.selection.dryRun done usage)
      | .error e => .error (.ofFailure e)
    entries := s.session.entries
    files := s.files
    shown := s.shown.flatMap fun e => shownText e.1 e.2
    session := s.session }

def work (w : World) (f : Files) (store : Prompt.Store) (c : Config) (o : Config.Overrides)
    (recursive : Bool) (path : Option Text) : Work :=
  let stopped (stop : Stop) : Work := { result := .error stop, entries := [], files := f }
  match c.withOverrides o with
  | .error p => stopped (.broken (.configuration (.setting p)))
  | .ok c =>
    match guarded f c recursive path with
    | .error stop => stopped stop
    | .ok written =>
      match Client.ofSettings c.client with
      | .error e => stopped (.broken (.limit e))
      | .ok client => workWith w store c client f written

end DocWeave.Command.Run
