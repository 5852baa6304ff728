import DocWeave.Log
import DocWeave.Decimal.Fixed
import DocWeave.Pacing
import DocWeave.Pricing

/-!
# The client of a model service

The client turns a prompt into one request, waits until the request may be sent, and keeps count of
the tokens that were used. It connects to the service when it is first needed, once.
-/

namespace DocWeave

/-! ## Faults -/

/-- Why a question got no answer. -/
inductive Fault where
  /-- The service failed; another attempt may do better. -/
  | service (kind : String) (text : Text)
  /-- The answer was found unfit; another attempt may do better. -/
  | unfit (text : Text)
  /-- No key is known with which to ask. -/
  | noKey
  /-- A failure of the program's own kind, which the user is told about. -/
  | told (kind : String) (text : Text)
  /-- Any other failure; it ends the program. -/
  | other (kind : String) (text : Text)
deriving DecidableEq

namespace Fault

/-- Whether another attempt may do better. -/
def isPassing : Fault → Bool
  | service _ _ => true
  | unfit _ => true
  | _ => false

def message : Fault → Text
  | service _ t => t
  | unfit t => t
  | noKey => "No API key configured. Set ANTHROPIC_API_KEY or pass --api-key.".toList
  | told _ t => t
  | other _ t => t

/-- How entries speak of it. -/
def said : Fault → Log.Said
  | service kind t => .failure kind t
  | unfit t => .failure "ValidationFailure" t
  | noKey => .failure "ValueError" noKey.message
  | told kind t => .failure kind t
  | other kind t => .failure kind t

end Fault

namespace Client

/-! ## Requests and responses -/

/-- How a service is used. All but the key may hold any value. -/
structure Settings where
  key : Option Text := none
  model : Value := .text "claude-sonnet-4-20250514".toList
  maxTokens : Value := .int 1024
  temperature : Value := .float 0.2
  perMinute : Value := .int 50
deriving Inhabited

structure Request where
  model : Value
  maxTokens : Value
  temperature : Value
  prompt : Text
  /-- An empty one is not sent. -/
  system : Option Text

structure Usage where
  input : Int := 0
  output : Int := 0
deriving DecidableEq, Inhabited

def Usage.total (u : Usage) : Int := u.input + u.output

def Usage.add (u v : Usage) : Usage := ⟨u.input + v.input, u.output + v.output⟩

structure Response where
  blocks : List Text
  usage : Usage
  model : Text
  stopReason : Option Text
  /-- What is said of a first block that holds something else than a text. -/
  textless : Option Text := none

namespace Response

/-- The text of an answer is its first block. -/
def content (r : Response) : Text := r.blocks.headD []

/-- The response as far as it can be read. -/
def read (r : Response) : Except Fault Response :=
  match r.textless with
  | none => .ok r
  | some message => .error (.other "AttributeError" message)

end Response

/-! ## The client -/

/-- Why a limit of requests cannot be kept to. -/
inductive LimitError where
  | noNumber
  | tooLarge
deriving DecidableEq

/-- What is wrong, as far as there are words for it. -/
def LimitError.message : LimitError → Text
  | noNumber => []
  | tooLarge => "int too large to convert to float".toList

/-- The seconds between two requests. -/
def intervalOf : Value → Except LimitError Float
  | .bool _ => .ok (Pacing.interval 1)
  | .int n => if (Float.ofInt (max n 1)).isInf then .error .tooLarge else .ok (Pacing.interval n)
  | .float x => .ok (60 / Pacing.later x 1)
  | _ => .error .noNumber

/-- A connection to the service, by which a request is sent again so many times if it fails. -/
structure Connection where
  key : Text
  maxRetries : Nat
deriving DecidableEq

end Client

structure Client where
  settings : Client.Settings
  interval : Float
  nextSlot : Float := 0.0
  usage : Client.Usage := {}
  /-- The key with which the service was connected to. -/
  connection : Option Text := none
  /-- The connections that have been made, the newest first. -/
  built : List Client.Connection := []

namespace Client

def ofSettings (s : Settings) : Except LimitError Client :=
  (intervalOf s.perMinute).map fun interval => { settings := s, interval }

/-- The client once it is connected; there is one connection for good. -/
def connect (c : Client) : Except Fault Client :=
  match c.connection with
  | some _ => .ok c
  | none =>
    match c.settings.key with
    | some (k :: key) =>
      .ok { c with
        connection := some (k :: key)
        built := { key := k :: key, maxRetries := 0 } :: c.built }
    | _ => .error .noKey

/-- The request for a prompt. What is not given is taken from the settings. -/
def request (c : Client) (prompt : Text) (system : Option Text) (maxTokens temperature : Value) :
    Request where
  model := c.settings.model
  maxTokens := if maxTokens.isGiven then maxTokens else c.settings.maxTokens
  temperature := match temperature with
    | .null => c.settings.temperature
    | t => t
  prompt := prompt
  system := system.filter fun s => !s.isEmpty

/-- Takes the next slot; tells how long to wait for it. -/
def waitForSlot (c : Client) (now : Float) : Client × Option Float :=
  let slot := Pacing.take c.interval now c.nextSlot
  ({ c with nextSlot := slot.next }, slot.wait?)

def waitEntry (delay : Float) : Log.Entry :=
  Log.Source.client.entry .debug
    ["Rate limit reached, waiting ", .real 2 delay, " seconds"]

def usageEntry (u : Usage) : Log.Entry :=
  Log.Source.client.entry .debug
    ["Request used ", .number u.input, " input and ", .number u.output, " output tokens"]

/-- Counts what a response used. -/
def count (c : Client) (r : Response) : Client := { c with usage := c.usage.add r.usage }

/-- What one request did. -/
structure Exchange where
  client : Client
  request : Option Request
  pause : Option Float
  entries : List Log.Entry
  result : Except Fault Response

/-- Sends one request when its slot comes. It is not sent again if it fails. What is sent may change
the state of the service. -/
def exchange {σ : Type} (c : Client) (now : Float) (prompt : Text) (system : Option Text)
    (maxTokens temperature : Value) (send : Request → σ → Except Fault Response × σ)
    (service : σ) : Exchange × σ :=
  match c.connect with
  | .error f => (⟨c, none, none, [], .error f⟩, service)
  | .ok c =>
    let request := c.request prompt system maxTokens temperature
    let (c, pause) := c.waitForSlot now
    let waiting := (pause.map waitEntry).toList
    match send request service with
    | (.error f, service) => (⟨c, some request, pause, waiting, .error f⟩, service)
    | (.ok r, service) =>
      (⟨c.count r, some request, pause, waiting ++ [usageEntry r.usage], r.read⟩, service)

/-- As `exchange`, with a service of which nothing but its answer is known. -/
def generate (c : Client) (now : Float) (prompt : Text) (system : Option Text)
    (maxTokens temperature : Value) (send : Request → Except Fault Response) : Exchange :=
  (c.exchange now prompt system maxTokens temperature (fun r _ => (send r, ())) ()).1

/-- Prices a prompt without sending it. -/
def estimate? (c : Client) (promptLength : Nat) (outputTokens : Int) (model : Option Text) :
    Option Pricing.Estimate :=
  let name := match model with
    | some (m :: model) => .text (m :: model)
    | _ => c.settings.model
  Pricing.estimate? name promptLength outputTokens

end Client

end DocWeave
