import DocWeave.Client

/-!
# Steps of a client

A client is used step by step: it sends a request, waits for a slot, connects, counts tokens or
prices a prompt. Next to the client there is the service, which knows all that has been sent to it;
what it answers may depend on that.

* `connect_ok_cases`, `connect_error_cases` — connecting
* `exchange_of_error`, `exchange_of_ok` — all that can become of a request
-/

namespace DocWeave.Client

/-! ## The service -/

/-- What a service has been sent and has answered, the newest first. -/
abbrev Correspondence := List (Request × Except Fault Response)

/-- A service answers by what it has been sent before. -/
abbrev Service := Correspondence → Request → Except Fault Response

/-- Answers a request and keeps both. -/
def Service.reply (service : Service) (request : Request) (sent : Correspondence) :
    Except Fault Response × Correspondence :=
  (service sent request, (request, service sent request) :: sent)

/-- The responses that have been received. A request that failed got none. -/
def Correspondence.responses (sent : Correspondence) : List Response :=
  sent.filterMap fun e => e.2.toOption

/-! ## Steps -/

/-- What can be done with a client. -/
inductive Step where
  | generate (now : Float) (prompt : Text) (system : Option Text) (maxTokens temperature : Value)
  | wait (now : Float)
  | connect
  | count (text : Text)
  | estimate (promptLength : Nat) (outputTokens : Int) (model : Option Text)

/-- What a step comes to. -/
inductive Answer where
  | generated (pause : Option Float) (result : Except Fault Response)
  | waited (pause : Option Float)
  | connected (result : Except Fault Unit)
  | counted (tokens : Nat)
  | estimated (price : Option Pricing.Estimate)

/-- A client and what has been sent by it. -/
structure Account where
  client : Client
  sent : Correspondence := []

/-- Takes a step. -/
def Step.take (service : Service) (a : Account) : Step → Answer × Account
  | generate now prompt system maxTokens temperature =>
    let (e, sent) := a.client.exchange now prompt system maxTokens temperature service.reply a.sent
    (.generated e.pause e.result, ⟨e.client, sent⟩)
  | wait now =>
    let (client, pause) := a.client.waitForSlot now
    (.waited pause, { a with client })
  | connect =>
    match a.client.connect with
    | .ok client => (.connected (.ok ()), { a with client })
    | .error f => (.connected (.error f), a)
  | count text => (.counted (Pricing.tokens text), a)
  | estimate promptLength outputTokens model =>
    (.estimated (a.client.estimate? promptLength outputTokens model), a)

/-- Takes steps one after the other. -/
def run (service : Service) (a : Account) : List Step → List Answer × Account
  | [] => ([], a)
  | step :: rest =>
    let (answer, a) := step.take service a
    let (answers, a) := run service a rest
    (answer :: answers, a)

@[simp] theorem run_nil (service : Service) (a : Account) : run service a [] = ([], a) := rfl

theorem run_cons (service : Service) (a : Account) (step : Step) (rest : List Step) :
    run service a (step :: rest)
      = ((step.take service a).1 :: (run service (step.take service a).2 rest).1,
        (run service (step.take service a).2 rest).2) := rfl

/-! ## Keys and connections -/

/-- There is a key with which to ask. -/
def Settings.HasKey (settings : Settings) : Prop := settings.key.getD [] ≠ []

instance (settings : Settings) : Decidable settings.HasKey :=
  inferInstanceAs (Decidable (_ ≠ _))

theorem Settings.HasKey.exists_key {settings : Settings} (h : settings.HasKey) :
    ∃ key, settings.key = some key ∧ key ≠ [] := by
  unfold HasKey at h
  cases hkey : settings.key with
  | none => simp [hkey] at h
  | some key => exact ⟨key, rfl, by simpa [hkey] using h⟩

/-- The client once it is connected by a key, with which it has never been connected before. -/
def connectedBy (c : Client) (key : Text) : Client :=
  { c with connection := some key, built := [⟨key, 0⟩] }

/-- The client has not been connected, or once, with the key of its settings. -/
def ConnectedOnce (c : Client) : Prop :=
  (c.connection = none ∧ c.built = [])
    ∨ ∃ key, c.settings.key = some key ∧ key ≠ [] ∧ c = c.connectedBy key

namespace ConnectedOnce

variable {c : Client}

theorem connect_of_noKey (hc : c.ConnectedOnce) (h : ¬ c.settings.HasKey) :
    c.connect = .error .noKey := by
  rcases hc with ⟨hnone, -⟩ | ⟨key, hkey, hne, -⟩
  · unfold connect
    rw [hnone]
    split
    · cases ‹_›
    · split
      · next hkey => exact absurd (by simp [Settings.HasKey, hkey]) h
      · rfl
  · exact absurd (by simpa [Settings.HasKey, hkey] using hne) h

/-- Whether it is for the first time or not, a client that has a key is connected by it. -/
theorem connect_of_key (hc : c.ConnectedOnce) {key : Text} (hkey : c.settings.key = some key)
    (hne : key ≠ []) : c.connect = .ok (c.connectedBy key) := by
  rcases hc with ⟨hnone, hbuilt⟩ | ⟨key', hkey', -, heq⟩
  · obtain ⟨k, rest, rfl⟩ := List.exists_cons_of_ne_nil hne
    simp only [connect, hnone, hkey, hbuilt, connectedBy]
  · obtain rfl : key = key' := Option.some.inj (hkey.symm.trans hkey')
    have hconnected : c.connection = some key := congrArg Client.connection heq
    simp only [connect, hconnected]
    exact congrArg Except.ok heq

theorem connectedBy {key : Text} (hkey : c.settings.key = some key) (hne : key ≠ []) :
    (c.connectedBy key).ConnectedOnce := Or.inr ⟨key, hkey, hne, rfl⟩

theorem waitForSlot (hc : c.ConnectedOnce) (now : Float) : (c.waitForSlot now).1.ConnectedOnce := by
  rcases hc with ⟨hnone, hbuilt⟩ | ⟨key, hkey, hne, heq⟩
  · exact Or.inl ⟨hnone, hbuilt⟩
  · exact Or.inr ⟨key, hkey, hne, by rw [heq]; rfl⟩

theorem length_built_le (hc : c.ConnectedOnce) : c.built.length ≤ 1 := by
  rcases hc with ⟨-, hbuilt⟩ | ⟨key, -, -, heq⟩
  · rw [hbuilt]
    exact Nat.zero_le 1
  · rw [heq]
    exact Nat.le_refl 1

theorem of_mem_built (hc : c.ConnectedOnce) {b : Connection} (hb : b ∈ c.built) :
    c.settings.key = some b.key ∧ b.maxRetries = 0 := by
  rcases hc with ⟨-, hbuilt⟩ | ⟨key, hkey, -, heq⟩
  · rw [hbuilt] at hb
    cases hb
  · rw [heq] at hb
    obtain rfl := List.mem_singleton.mp hb
    exact ⟨hkey, rfl⟩

end ConnectedOnce

/-! ## What becomes of a request -/

/-- What has been used once a request has been answered. -/
def Usage.after (u : Usage) : Except Fault Response → Usage
  | .ok r => u.add r.usage
  | .error _ => u

/-- What is logged once a request has been answered. -/
def answerEntries : Except Fault Response → List Log.Entry
  | .ok r => [usageEntry r.usage]
  | .error _ => []

section Requests

variable {c : Client} {σ : Type} {now : Float} {prompt : Text} {system : Option Text}
  {maxTokens temperature : Value} {send : Request → σ → Except Fault Response × σ}

/-- Without a connection nothing is sent, and no slot is taken. -/
theorem exchange_of_error {f : Fault} (h : c.connect = .error f) (service : σ) :
    c.exchange now prompt system maxTokens temperature send service
      = (⟨c, none, none, [], .error f⟩, service) := by
  simp only [exchange, h]

/-- With a connection the next slot is taken and one request is sent, whatever comes of it. -/
theorem exchange_of_ok {c' : Client} (h : c.connect = .ok c') (service : σ) :
    c.exchange now prompt system maxTokens temperature send service =
      let request := c'.request prompt system maxTokens temperature
      let slot := Pacing.take c'.interval now c'.nextSlot
      let answer := (send request service).1
      ({ client := { c' with nextSlot := slot.next, usage := c'.usage.after answer }
         request := some request
         pause := slot.wait?
         entries := (slot.wait?.map waitEntry).toList ++ answerEntries answer
         result := answer.bind Response.read }, (send request service).2) := by
  simp only [exchange, h]
  rcases send (c'.request prompt system maxTokens temperature) service with ⟨f | r, service'⟩
  · simp only [answerEntries, List.append_nil]
    rfl
  · rfl

end Requests

end DocWeave.Client
