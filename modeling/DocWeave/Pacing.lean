/-!
# Pacing

Requests are given slots that are an interval apart. A caller who comes later than the next free slot
starts at once; one who comes earlier waits for it. A slot is spent once it is given, whatever
becomes of its request.

Times are of any type with an order and arithmetic, so what is said of exact numbers is said of the
definitions that run on the clock's. There whole numbers are rounded to the nearest time.
-/

namespace DocWeave.Pacing

instance instIntCastFloat : IntCast Float := ⟨Float.ofInt⟩

variable {α : Type} [LT α] [DecidableLT α]

/-- The later of two times. -/
def later (a b : α) : α := if a < b then b else a

/-- The seconds between two slots when so many requests a minute are allowed, one at least. -/
def interval [IntCast α] [Div α] [OfNat α 60] (perMinute : Int) : α :=
  60 / (max perMinute 1 : Int)

/-- A slot that has been given: when the caller came, when it starts, and the next free slot. -/
structure Slot (α : Type) where
  now : α
  start : α
  next : α
deriving DecidableEq, Repr

/-- Gives the next slot to a caller who comes at `now`. -/
def take [Add α] (interval now next : α) : Slot α :=
  let start := later now next
  ⟨now, start, start + interval⟩

/-- How long the caller waits, if at all. -/
def Slot.wait? [Sub α] [OfNat α 0] (s : Slot α) : Option α :=
  let delay := s.start - s.now
  if 0 < delay then some delay else none

/-- The slots of callers who come at the given times, one after the other. -/
def slots [Add α] (interval : α) : α → List α → List (Slot α)
  | _, [] => []
  | next, now :: later =>
    let slot := take interval now next
    slot :: slots interval slot.next later

end DocWeave.Pacing
