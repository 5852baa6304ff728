import DocWeave.Proofs.Client.Accounting
import DocWeave.Proofs.Generation.FirstAnswers

/-!
# What a session has used

A client that is used in a session counts what every response has used that it has received, whether
the comment in it was accepted or not, and whether anything could be read from it at all.

* `received` — the responses, by the questions that have been asked
* `Tallied`, `tallied_of_follows` — the client's count is what they have used together
-/

namespace DocWeave.Generation

variable {service : List Question → Client.Request → Except Fault Client.Response} {client : Client}
  {s s' : Session}

/-- The responses to the questions that have been asked, the newest in front. A question got none if
its request failed. -/
def received (service : List Question → Client.Request → Except Fault Client.Response)
    (client : Client) : List Question → List Client.Response
  | [] => []
  | q :: asked =>
    (service (q :: asked) (client.request q.prompt (some q.system) .null .null)).toOption.toList
      ++ received service client asked

theorem usage_received_cons (q : Question) (asked : List Question) :
    Client.Usage.ofAll (received service client (q :: asked))
      = (Client.Usage.ofAll (received service client asked)).after
        (service (q :: asked) (client.request q.prompt (some q.system) .null .null)) := by
  rw [received]
  cases service (q :: asked) (client.request q.prompt (some q.system) .null .null) with
  | error f => rfl
  | ok r => exact Client.Usage.ofAll_cons r _

/-- There is a client with the settings of `client`, and it has counted what has been received. -/
def Tallied (service : List Question → Client.Request → Except Fault Client.Response)
    (client : Client) (s : Session) : Prop :=
  ∃ c, s.client = some c ∧ c.settings = client.settings ∧ c.ConnectedOnce
    ∧ c.usage = .ofAll (received service client s.asked)

theorem tallied_served (timer : Timer) (now : Float) (hkey : client.settings.HasKey) (q : Question)
    (hs : Tallied service client s) : Tallied service client (Asker.served timer now service q s).2 := by
  obtain ⟨c, hc, hsettings, honce, husage⟩ := hs
  obtain ⟨-, hasked, c', hc', hsettings', honce', husage'⟩ :=
    served_of_key timer now service q hc honce (hsettings ▸ hkey)
  refine ⟨c', hc', hsettings'.trans hsettings, honce', ?_⟩
  rw [husage', hasked, usage_received_cons, husage, request_congr hsettings]

theorem tallied_of_follows {timer : Timer} {now : Float} {P : Question → Prop}
    (hkey : client.settings.HasKey)
    (h : Session.Follows (Asker.served timer now service) P s s') (hs : Tallied service client s) :
    Tallied service client s' := by
  refine h.preserves (fun s₁ s₂ hmove hs₁ => ?_) hs
  cases hmove with
  | log entries => exact hs₁
  | pause seconds => exact hs₁
  | ask allowed => exact tallied_served timer now hkey _ hs₁

end DocWeave.Generation
