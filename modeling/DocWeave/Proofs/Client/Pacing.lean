import DocWeave.Proofs.Client.Accounting
import DocWeave.Proofs.Pacing

/-!
# How a client paces its requests

A client spends a slot with each request and with each wait, and never gives one back.

* `pauses_run` — the pauses of any steps are those of the slots, whatever the service answers
* `pacing_keepsLimit` — all that is known of the slots
-/

namespace DocWeave.Client

/-- When a step asks for a slot, if it does so. -/
def Step.reading? : Step → Option Float
  | generate now _ _ _ _ => some now
  | wait now => some now
  | _ => none

/-- The pause that comes with a slot, if one was asked for. -/
def Answer.pause? : Answer → Option (Option Float)
  | generated pause _ => some pause
  | waited pause => some pause
  | _ => none

variable {settings : Settings} {interval : Float} {a : Account}

/-- Whatever a service answers, the pauses are those of slots that are never given back. -/
theorem pauses_run (service : Service) (ha : Regular settings interval a) (h : settings.HasKey)
    (steps : List Step) :
    (run service a steps).1.filterMap Answer.pause?
      = (Pacing.slots interval a.client.nextSlot (steps.filterMap Step.reading?)).map
          Pacing.Slot.wait? := by
  obtain ⟨key, hkey, hne⟩ := h.exists_key
  induction steps generalizing a with
  | nil => rfl
  | cons step rest ih =>
    have hrest := ih (ha.take service step)
    rw [run_cons]
    -- only requests and waits ask for a slot, and a request keeps it if it fails
    cases step with
    | generate now prompt system maxTokens temperature =>
      rw [take_generate_of_key service ha hkey hne] at hrest ⊢
      exact congrArg _ hrest
    | wait now =>
      obtain rfl := ha.interval
      exact congrArg _ hrest
    | connect =>
      rw [take_connect_of_key service ha hkey hne] at hrest ⊢
      exact hrest
    | count text => exact hrest
    | estimate promptLength outputTokens model => exact hrest

theorem ofSettings_of_int {perMinute : ℤ} (h : settings.perMinute = .int perMinute) :
    ofSettings settings
      = if (Float.ofInt (max perMinute 1)).isInf then .error .tooLarge
        else .ok { settings, interval := 60 / Float.ofInt (max perMinute 1) } := by
  simp only [ofSettings, h, intervalOf]
  split <;> rfl

/--
A limit is kept to, however many callers come and whenever they come. The first slot starts when its
caller comes, and each other one when its caller has come and the interval since the slot before it
is over; until then the caller waits, and no longer. So any two slots are an interval apart, within a
minute no more start than are allowed, and who comes late enough does not wait.

A client that is made for the same limit has this interval, as far as numbers of the clock can tell
it; it cannot be made if the limit is too large for them. It gives no slot back: its pauses are those
of the slots, whatever becomes of its requests.
-/
theorem pacing_keepsLimit (perMinute : ℤ) (readings : List ℚ) :
    Pacing.KeepsTo (max perMinute 1) readings
        (Pacing.slots (Pacing.interval perMinute) 0 readings)
      ∧ (∀ settings : Settings, settings.perMinute = .int perMinute →
        ofSettings settings
          = if (Float.ofInt (max perMinute 1)).isInf then .error .tooLarge
            else .ok { settings, interval := 60 / Float.ofInt (max perMinute 1) })
      ∧ ∀ (service : Service) (settings : Settings) (fresh : Client) (steps : List Step),
        ofSettings settings = .ok fresh → settings.HasKey →
        (run service ⟨fresh, []⟩ steps).1.filterMap Answer.pause?
          = (Pacing.slots fresh.interval 0.0 (steps.filterMap Step.reading?)).map
              Pacing.Slot.wait? := by
  refine ⟨Pacing.keepsTo_slots perMinute readings, fun _ => ofSettings_of_int, ?_⟩
  intro service settings fresh steps hfresh hkey
  have hpauses := pauses_run service (regular_ofSettings hfresh) hkey steps
  have hnext : fresh.nextSlot = 0.0 := congrArg nextSlot (eq_of_ofSettings_eq_ok hfresh)
  rwa [hnext] at hpauses

/-- A service that fails every time costs a slot every time. -/
theorem pacing_keepsLimit_failing :
    let failing : Service := fun _ _ => .error (.service "APIError" "busy".toList)
    let ask (now : Float) := Step.generate now "a".toList none .null .null
    ∃ fresh, ofSettings { key := some "k".toList, perMinute := .int 2 } = .ok fresh
      ∧ fresh.interval = 30
      ∧ (run failing ⟨fresh, []⟩ [ask 0.0, .connect, .wait 1.0, ask 2.0]).1.filterMap Answer.pause?
        = (Pacing.slots fresh.interval 0.0 [0.0, 1.0, 2.0]).map Pacing.Slot.wait?
      ∧ Pacing.KeepsTo 2 [0, 1, 2] (Pacing.slots (Pacing.interval 2) 0 [0, 1, 2]) := by
  intro failing ask
  obtain ⟨hkeeps, hmade, hclient⟩ := pacing_keepsLimit 2 [0, 1, 2]
  have hfinite : (Float.ofInt (max 2 1)).isInf = false := by decide +kernel
  have hfresh := hmade { key := some "k".toList, perMinute := .int 2 } rfl
  rw [if_neg (by rw [hfinite]; exact Bool.false_ne_true)] at hfresh
  exact ⟨_, hfresh, by decide +kernel, hclient failing _ _ _ hfresh (by decide), hkeeps⟩

end DocWeave.Client
