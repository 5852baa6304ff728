import DocWeave.Proofs.Client.Steps
import Mathlib.Algebra.Order.Field.Rat

/-!
# What a client keeps count of

Whatever is done with a client, in whatever order and with whatever success, its count is what the
responses have used that it has received, and it connects once at most.

* `Regular` — the invariant, `Regular.take` and `Regular.run` — a step preserves it, and so do many
* `take_generate_of_key`, `take_generate_of_noKey` — all that a request does
* `run_accounts` — what is known behind any steps, and of any step that follows
-/

namespace DocWeave.Client

variable {settings : Settings} {interval : Float} {a : Account}

/-- What all responses have used together. -/
def Usage.ofAll (rs : List Response) : Usage :=
  ⟨(rs.map fun r => r.usage.input).sum, (rs.map fun r => r.usage.output).sum⟩

theorem Usage.ofAll_cons (r : Response) (rs : List Response) :
    Usage.ofAll (r :: rs) = (Usage.ofAll rs).add r.usage := by
  simp only [ofAll, add, List.map_cons, List.sum_cons, Int.add_comm]

/-- A request that has been answered counts if there was a response. -/
theorem Usage.ofAll_responses_cons (request : Request) (answer : Except Fault Response)
    (sent : Correspondence) :
    Usage.ofAll (Correspondence.responses ((request, answer) :: sent))
      = (Usage.ofAll sent.responses).after answer := by
  cases answer with
  | error f => rfl
  | ok r => exact ofAll_cons r sent.responses

/-! ## The invariant -/

/-- What holds of the account of a client with these settings, whatever has been done with it. -/
structure Regular (settings : Settings) (interval : Float) (a : Account) : Prop where
  settings : a.client.settings = settings
  interval : a.client.interval = interval
  once : a.client.ConnectedOnce
  usage : a.client.usage = .ofAll a.sent.responses

theorem eq_of_ofSettings_eq_ok {c : Client} (h : ofSettings settings = .ok c) :
    c = { settings, interval := c.interval } := by
  unfold ofSettings at h
  cases hinterval : intervalOf settings.perMinute with
  | error e =>
    rw [hinterval] at h
    cases h
  | ok interval =>
    rw [hinterval] at h
    cases h
    rfl

theorem regular_ofSettings {c : Client} (h : ofSettings settings = .ok c) :
    Regular settings c.interval ⟨c, []⟩ := by
  rw [eq_of_ofSettings_eq_ok h]
  exact ⟨rfl, rfl, Or.inl ⟨rfl, rfl⟩, rfl⟩

/-! ## Requests -/

section Requests

variable {now : Float} {prompt : Text} {system : Option Text} {maxTokens temperature : Value}

theorem take_generate_of_noKey (service : Service) (ha : Regular settings interval a)
    (h : ¬ settings.HasKey) :
    (Step.generate now prompt system maxTokens temperature).take service a
      = (.generated none (.error .noKey), a) := by
  have hconnect := ha.once.connect_of_noKey (ha.settings ▸ h)
  simp only [Step.take, exchange_of_error hconnect]

/-- A client that has a key takes the next slot and sends one request. -/
theorem take_generate_of_key (service : Service) (ha : Regular settings interval a) {key : Text}
    (hkey : settings.key = some key) (hne : key ≠ []) :
    let request := a.client.request prompt system maxTokens temperature
    let slot := Pacing.take interval now a.client.nextSlot
    (Step.generate now prompt system maxTokens temperature).take service a
      = (.generated slot.wait? ((service a.sent request).bind Response.read),
        { client := { a.client.connectedBy key with
            nextSlot := slot.next
            usage := a.client.usage.after (service a.sent request) }
          sent := (request, service a.sent request) :: a.sent }) := by
  obtain rfl := ha.interval
  simp only [Step.take, exchange_of_ok (ha.once.connect_of_key (ha.settings ▸ hkey) hne)]
  rfl

end Requests

/-! ## Connecting -/

theorem take_connect_of_noKey (service : Service) (ha : Regular settings interval a)
    (h : ¬ settings.HasKey) :
    Step.connect.take service a = (.connected (.error .noKey), a) := by
  have hconnect := ha.once.connect_of_noKey (ha.settings ▸ h)
  simp only [Step.take, hconnect]

theorem take_connect_of_key (service : Service) (ha : Regular settings interval a) {key : Text}
    (hkey : settings.key = some key) (hne : key ≠ []) :
    Step.connect.take service a
      = (.connected (.ok ()), { a with client := a.client.connectedBy key }) := by
  have hconnect := ha.once.connect_of_key (ha.settings ▸ hkey) hne
  simp only [Step.take, hconnect]

/-! ## Steps and runs -/

namespace Regular

/-- Whatever a step comes to, the account is as regular as before. -/
theorem take (service : Service) (ha : Regular settings interval a) (step : Step) :
    Regular settings interval (step.take service a).2 := by
  cases step with
  | generate now prompt system maxTokens temperature =>
    by_cases h : settings.HasKey
    · obtain ⟨key, hkey, hne⟩ := h.exists_key
      rw [take_generate_of_key service ha hkey hne]
      refine ⟨ha.settings, ha.interval, Or.inr ⟨key, ha.settings ▸ hkey, hne, rfl⟩, ?_⟩
      rw [Usage.ofAll_responses_cons, ← ha.usage]
    · rw [take_generate_of_noKey service ha h]
      exact ha
  | wait now => exact ⟨ha.settings, ha.interval, ha.once.waitForSlot now, ha.usage⟩
  | connect =>
    by_cases h : settings.HasKey
    · obtain ⟨key, hkey, hne⟩ := h.exists_key
      rw [take_connect_of_key service ha hkey hne]
      exact ⟨ha.settings, ha.interval, .connectedBy (ha.settings ▸ hkey) hne, ha.usage⟩
    · rw [take_connect_of_noKey service ha h]
      exact ha
  | count text => exact ha
  | estimate promptLength outputTokens model => exact ha

theorem run (service : Service) (ha : Regular settings interval a) (steps : List Step) :
    Regular settings interval (run service a steps).2 := by
  induction steps generalizing a with
  | nil => exact ha
  | cons step rest ih =>
    rw [run_cons]
    exact ih (ha.take service step)

end Regular

/--
Whatever steps have been taken with a client, it has counted what all responses have used that have
been received, and nothing else; and it has been connected once at most, by the key of its settings
and so that no request is sent again. Of the next step, whatever it is, this is known: a request is
sent once if there is a key, takes a slot even if it fails, and is counted if there is a response,
even one that cannot be read; without a key nothing happens, and nothing is asked; and to count
tokens or to price a prompt changes nothing.
-/
theorem run_accounts (service : Service) {settings : Settings} {fresh : Client}
    (h : ofSettings settings = .ok fresh) (steps : List Step) :
    let a := (run service ⟨fresh, []⟩ steps).2
    a.client.usage = .ofAll a.sent.responses
      ∧ a.client.built.length ≤ 1
      ∧ (∀ b ∈ a.client.built, settings.key = some b.key ∧ b.maxRetries = 0)
      ∧ ∀ step : Step,
        let answer := (step.take service a).1
        let after := (step.take service a).2
        match step with
        | .generate now prompt system maxTokens temperature =>
          (¬ settings.HasKey → answer = .generated none (.error .noKey) ∧ after = a)
            ∧ (settings.HasKey →
              let request := a.client.request prompt system maxTokens temperature
              let slot := Pacing.take fresh.interval now a.client.nextSlot
              after.sent = (request, service a.sent request) :: a.sent
                ∧ answer = .generated slot.wait? ((service a.sent request).bind Response.read)
                ∧ after.client.nextSlot = slot.next
                ∧ after.client.connection = settings.key
                ∧ (∀ f, service a.sent request = .error f → after.client.usage = a.client.usage)
                ∧ ∀ r, service a.sent request = .ok r →
                  after.client.usage = a.client.usage.add r.usage)
        | .wait now =>
          let slot := Pacing.take fresh.interval now a.client.nextSlot
          answer = .waited slot.wait?
            ∧ after = { a with client := { a.client with nextSlot := slot.next } }
        | .connect =>
          (¬ settings.HasKey → answer = .connected (.error .noKey) ∧ after = a)
            ∧ (settings.HasKey → answer = .connected (.ok ()) ∧ after.sent = a.sent
              ∧ after.client.connection = settings.key ∧ after.client.usage = a.client.usage
              ∧ after.client.nextSlot = a.client.nextSlot)
        | .count _ => after = a
        | .estimate _ _ _ => after = a := by
  intro a
  have ha : Regular settings fresh.interval a := (regular_ofSettings h).run service steps
  refine ⟨ha.usage, ha.once.length_built_le, ?_, ?_⟩
  · intro b hb
    exact ha.settings ▸ ha.once.of_mem_built hb
  · intro step answer after
    cases step with
    | generate now prompt system maxTokens temperature =>
      constructor
      · intro hno
        have htake : (answer, after) = _ := take_generate_of_noKey service ha hno
        exact Prod.mk.inj htake
      · intro hhas
        obtain ⟨key, hkey, hne⟩ := hhas.exists_key
        have htake : (answer, after) = _ := take_generate_of_key service ha hkey hne
        obtain ⟨hanswer, hafter⟩ := Prod.mk.inj htake
        rw [hanswer, hafter]
        refine ⟨rfl, rfl, rfl, hkey.symm, ?_, ?_⟩
        · intro f hf
          simp only [hf, Usage.after]
        · intro r hr
          simp only [hr, Usage.after]
    | wait now =>
      rw [← ha.interval]
      exact ⟨rfl, rfl⟩
    | connect =>
      constructor
      · intro hno
        have htake : (answer, after) = _ := take_connect_of_noKey service ha hno
        exact Prod.mk.inj htake
      · intro hhas
        obtain ⟨key, hkey, hne⟩ := hhas.exists_key
        have htake : (answer, after) = _ := take_connect_of_key service ha hkey hne
        obtain ⟨hanswer, hafter⟩ := Prod.mk.inj htake
        rw [hanswer, hafter]
        exact ⟨rfl, rfl, hkey.symm, rfl, rfl⟩
    | count text => rfl
    | estimate promptLength outputTokens model => rfl

/-- Gives a text, fails, and gives what is no text. -/
def moody : Service := fun sent request =>
  match sent.length with
  | 0 => .ok ⟨[request.prompt], ⟨10, 5⟩, [], none, none⟩
  | 1 => .error (.service "APIError" "busy".toList)
  | _ => .ok ⟨[], ⟨7, 0⟩, [], none, some "no text".toList⟩

/-- Of three requests two are counted, one of which cannot be read; without a key none is sent. -/
theorem run_accounts_moody :
    let ask (prompt : String) := Step.generate 0.0 prompt.toList none .null .null
    let steps := [ask "a", .connect, ask "b", .wait 0.0, .count "abcd".toList, ask "c"]
    (∃ fresh, ofSettings { key := some "k".toList, perMinute := .int 1 } = .ok fresh
      ∧ let a := (run moody ⟨fresh, []⟩ steps).2
        a.sent.length = 3 ∧ a.client.usage = ⟨17, 5⟩ ∧ a.client.built.length ≤ 1
          ∧ ∀ b ∈ a.client.built, b.maxRetries = 0)
      ∧ ∃ fresh, ofSettings { perMinute := .int 1 } = .ok fresh
        ∧ ∀ prompt, ((ask prompt).take moody (run moody ⟨fresh, []⟩ steps).2).1
          = .generated none (.error .noKey) := by
  intro ask steps
  refine ⟨⟨_, rfl, ?_⟩, ⟨_, rfl, ?_⟩⟩
  · intro a
    have hfresh : ofSettings { key := some "k".toList, perMinute := .int 1 } = .ok _ := rfl
    obtain ⟨husage, hbuilt, hkeys, -⟩ := run_accounts moody hfresh steps
    exact ⟨rfl, husage, hbuilt, fun b hb => (hkeys b hb).2⟩
  · intro prompt
    have hfresh : ofSettings { perMinute := .int 1 } = .ok _ := rfl
    obtain ⟨-, -, -, hstep⟩ := run_accounts moody hfresh steps
    exact ((hstep (ask prompt)).1 (by decide)).1

end DocWeave.Client
