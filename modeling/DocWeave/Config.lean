import DocWeave.Config.Reading
import DocWeave.Generation
import DocWeave.Log

/-!
# The configuration

Settings come in layers: what is built in, what a file says, what the environment says and what the
command line says. Every layer changes only what it names, and the key of the service is never read
from a file.
-/

namespace DocWeave

/-- Which files are taken and whether they are written. -/
structure Selection where
  extensions : List Text := [".js".toList, ".jsx".toList, ".ts".toList]
  dryRun : Bool := false
deriving DecidableEq, Inhabited

structure Config where
  client : Client.Settings := {}
  generation : Generation.Settings := {}
  selection : Selection := {}
  logging : Log.Settings := {}
deriving Inhabited

namespace Config

/-! ## Files -/

/-- The settings of a section. What counts as nothing is a section without settings. -/
def sectionOf : Value → Except Problem (List (Value × Value))
  | .map entries => .ok entries
  | v => if v.isGiven then .error .noSection else .ok []

/-- The setting of a name. -/
def find? (entries : List (Value × Value)) (name : String) : Option Value :=
  (entries.find? fun
    | (.text key, _) => key == name.toList
    | _ => false).map (·.2)

/-- The section of a name, within the whole. -/
def subsection (entries : List (Value × Value)) (name : String) :
    Except Problem (List (Value × Value)) :=
  sectionOf ((find? entries name).getD .null)

/-- A setting that is read from what is given for it, if there is anything. -/
def readOr {α β : Type} (given? : Option α) (default : β) (read : α → Except Problem β) :
    Except Problem β :=
  match given? with
  | some a => read a
  | none => .ok default

def clientSection (entries : List (Value × Value)) : Client.Settings :=
  let base : Client.Settings := {}
  { model := (find? entries "model").getD base.model
    maxTokens := (find? entries "max_tokens").getD base.maxTokens
    temperature := (find? entries "temperature").getD base.temperature
    perMinute := (find? entries "rate_limit_rpm").getD base.perMinute }

def generationSection (entries : List (Value × Value)) : Except Problem Generation.Settings := do
  let base : Generation.Settings := {}
  let style ← readOr (find? entries "output_format") base.style style
  let maxRetries ← readOr (find? entries "max_retries") base.maxRetries
    (count "generation.max_retries".toList)
  let retryBaseDelay ← readOr (find? entries "retry_base_delay") base.retryBaseDelay number
  let maxWorkers ← readOr (find? entries "max_workers") base.maxWorkers
    (count "generation.max_workers".toList)
  return { style, maxRetries, retryBaseDelay, maxWorkers }

def selectionSection (entries : List (Value × Value)) : Except Problem Selection := do
  let base : Selection := {}
  let extensions ← readOr (find? entries "supported_extensions") base.extensions extensions
  let dryRun ← readOr (find? entries "dry_run") base.dryRun (flag "walker.dry_run".toList)
  return { extensions, dryRun }

def loggingSection (entries : List (Value × Value)) : Log.Settings :=
  let base : Log.Settings := {}
  { level := (find? entries "level").getD base.level
    format := (find? entries "format").getD base.format
    file := (find? entries "file").getD base.file }

/-- The configuration that the contents of a file make. -/
def ofValue (v : Value) : Except Problem Config := do
  let whole ← sectionOf v
  let client ← subsection whole "api"
  let generation ← generationSection (← subsection whole "generation")
  let selection ← selectionSection (← subsection whole "walker")
  let logging ← subsection whole "logging"
  return { client := clientSection client, generation, selection, logging := loggingSection logging }

/-! ## The environment -/

/-- What the variables of the environment stand for. -/
abbrev Environment := String → Option Text

/-- The variables that count. -/
def Environment.names : List String :=
  ["ANTHROPIC_API_KEY", "AUTOSCRIBE_MODEL", "AUTOSCRIBE_FORMAT", "SUPPORTED_EXTENSIONS",
    "MAX_RETRIES", "DRY_RUN"]

/-- A variable that stands for something; an empty one does not. -/
def Environment.given? (e : Environment) (name : String) : Option Text :=
  (e name).filter fun t => !t.isEmpty

/-- The layer of the environment. -/
def withEnvironment (c : Config) (e : Environment) : Except Problem Config := do
  let style ← readOr (e.given? "AUTOSCRIBE_FORMAT") c.generation.style fun t => style (.text t)
  let maxRetries ← readOr (e.given? "MAX_RETRIES") c.generation.maxRetries fun t =>
    count "MAX_RETRIES".toList (.text t)
  let extensions := match (e.given? "SUPPORTED_EXTENSIONS").map extensionsOfText with
    | some (x :: more) => x :: more
    | _ => c.selection.extensions
  let dryRun ← readOr (e "DRY_RUN") c.selection.dryRun fun t => flag "DRY_RUN".toList (.text t)
  return { c with
    client := { c.client with
      key := (e.given? "ANTHROPIC_API_KEY").or c.client.key
      model := ((e.given? "AUTOSCRIBE_MODEL").map .text).getD c.client.model }
    generation := { c.generation with style, maxRetries }
    selection := { extensions, dryRun } }

/-! ## The command line -/

/-- Settings of the command line. Texts that are empty count as not given. -/
structure Overrides where
  key : Option Text := none
  model : Value := .null
  style : Value := .null
  dryRun : Option Bool := none
deriving Inhabited

/-- The layer of the command line. -/
def withOverrides (c : Config) (o : Overrides) : Except Problem Config := do
  let style ← if o.style.isGiven then style o.style else pure c.generation.style
  return { c with
    client := { c.client with
      key := (o.key.filter fun t => !t.isEmpty).or c.client.key
      model := if o.model.isGiven then o.model else c.client.model }
    generation := { c.generation with style }
    selection := { c.selection with dryRun := o.dryRun.getD c.selection.dryRun } }

end Config

end DocWeave
