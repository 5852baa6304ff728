import DocWeave.Command.Work

/-!
# Estimating costs

Every prompt that a run would send is made and priced, as if each were answered by a comment of usual
length. Nobody is asked and nothing is written.
-/

namespace DocWeave.Command.Estimate

/-- A prompt and its price. -/
structure Priced where
  prompt : Text
  price : Pricing.Estimate

/-- Prices the prompt for a span. -/
def priceSpan (store : Prompt.Store) (style : Text) (client : Client) (s : Span) :
    Except Stop Priced × List Log.Entry :=
  match store.prompt s.text s.docKind style s.name with
  | .error e => (.error (.broken (.documenting (.generation (.prompt e)))), [])
  | .ok prompt =>
    let entries := [Prompt.Store.promptEntry s.docKind prompt]
    match client.estimate? prompt.length Pricing.Estimate.usualOutput none with
    | none => (.error (.broken .noPrice), entries)
    | some price => (.ok ⟨prompt, price⟩, entries)

/-- Prices all prompts for a file. -/
def priceFile (f : Files) (store : Prompt.Store) (reader : Reader) (style : Text) (client : Client)
    (p : Path) : Except Stop (List Priced) × List Log.Entry :=
  match Source.load f p reader with
  | (.error e, entries) => (.error (.ofFailure (.source e)), entries)
  | (.ok script, entries) =>
    let (r, more) := each (priceSpan store style client) (Documenting.jobs script)
    (r, entries ++ more)

/-- The prices of files, file by file. -/
structure Quote where
  model : Value
  files : List (List Priced)

namespace Quote

def priced (q : Quote) : List Priced := q.files.flatten

def inputTokens (q : Quote) : Nat := q.priced.foldl (fun sum p => sum + p.price.inputTokens) 0

/-- Prices are summed up one after the other. -/
def cost (q : Quote) : Float := q.priced.foldl (fun sum p => sum + p.price.total) 0.0

def lines (q : Quote) : List Text :=
  let requests := q.priced.length
  let files := q.files.length
  [("Files: " ++ toString files).toList,
    ("Requests: " ++ toString requests ++ " (" ++ toString (requests - files) ++ " functions, "
      ++ toString files ++ " file comments)").toList,
    "Estimated input tokens: ".toList ++ Decimal.grouped q.inputTokens,
    "Estimated cost: $".toList ++ Decimal.fixed 4 q.cost ++ " USD".toList,
    "Model: ".toList ++ q.model.plain]

/-- What is logged when all is priced. -/
def entry (q : Quote) (written : Text) : Log.Entry :=
  Log.Source.commands.entry .debug
    ["Estimated ", .number q.priced.length, " requests for ", .text written]

end Quote

/-- Prices the files that a path stands for. -/
def quote (f : Files) (store : Prompt.Store) (reader : Reader) (c : Config) (recursive : Bool)
    (written : Text) : Except Stop Quote × List Log.Entry :=
  match targets f c.selection.extensions recursive written with
  | (.error stop, entries) => (.error stop, entries)
  | (.ok paths, entries) =>
    let entries := entries ++ store.openingEntries
    match Client.ofSettings c.client with
    | .error e => (.error (.broken (.limit e)), entries)
    | .ok client =>
      let (r, more) := each (priceFile f store reader c.generation.style client) paths
      (r.map fun files => ⟨c.client.model, files⟩, entries ++ more)

def work (f : Files) (store : Prompt.Store) (reader : Reader) (c : Config) (o : Config.Overrides)
    (recursive : Bool) (written : Text) : Work :=
  match c.withOverrides o with
  | .error p => { result := .error (.broken (.configuration (.setting p))), entries := [], files := f }
  | .ok c =>
    match quote f store reader c recursive written with
    | (.error stop, entries) => { result := .error stop, entries, files := f }
    | (.ok q, entries) => { result := .ok q.lines, entries := entries ++ [q.entry written], files := f }

end DocWeave.Command.Estimate
