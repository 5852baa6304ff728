import DocWeave.Value

/-!
# Prices

What a request costs is estimated without sending it: its tokens are counted by the length of its
text and priced by the model that would serve it. Prices are in dollars for a million tokens.
-/

namespace DocWeave

/-- The prices of a model. -/
structure Pricing where
  input : Float
  output : Float

namespace Pricing

/-- Price of some tokens at a rate for a million of them. -/
def cost (rate : Float) (tokens : Int) : Float := Binary64.ofIntRatio tokens 1000000 * rate

def standard : Pricing := ⟨3.0, 15.0⟩

/-- The models whose prices are known. -/
def known : List (Text × Pricing) :=
  [("claude-sonnet-4-20250514".toList, standard),
    ("claude-haiku-4-5-20251001".toList, ⟨0.80, 4.0⟩),
    ("claude-opus-4-20250514".toList, ⟨15.0, 75.0⟩)]

/-- The prices of a model by its name; others have the standard ones. `none`: no name at all. -/
def ofModel? : Value → Option Pricing
  | .text name => some ((known.lookup name).getD standard)
  | .list _ => none
  | .map _ => none
  | _ => some standard

/-- The number of tokens of a text of so many characters, one at least. -/
def tokensOfLength (length : Nat) : Nat := max 1 (length / 4)

def tokens (t : Text) : Nat := tokensOfLength t.length

/-- What a request is expected to cost. -/
structure Estimate where
  inputTokens : Nat
  outputTokens : Int
  inputCost : Float
  outputCost : Float
  model : Value

namespace Estimate

def total (e : Estimate) : Float := e.inputCost + e.outputCost

/-- The length of an answer if nothing else is said. -/
def usualOutput : Int := 300

end Estimate

/-- Prices a prompt of so many characters for a model. -/
def estimate? (model : Value) (promptLength : Nat) (outputTokens : Int) : Option Estimate :=
  (ofModel? model).map fun p =>
    let inputTokens := tokensOfLength promptLength
    { inputTokens
      outputTokens
      inputCost := cost p.input inputTokens
      outputCost := cost p.output outputTokens
      model }

end Pricing

end DocWeave
