import DocWeave.Sorting

/-!
# Likeness of texts

Two texts have characters in common: those of the longest block that stands in both, and in the same
way those in front of this block and those behind it. Texts are alike if at least three fifths of all
their characters are in common.
-/

namespace DocWeave.Likeness

/-- The number of characters with which both texts begin. -/
def commonHead : Text → Text → Nat
  | c :: s, d :: t => if c = d then commonHead s t + 1 else 0
  | _, _ => 0

/-- A row of characters that stands in two texts, behind so many characters of each. -/
structure Block where
  length : Nat := 0
  before : Nat := 0
  beforeOther : Nat := 0

/-- The longest block of two texts; of several the first in `s`, and of these the first in `t`. -/
def longestBlock (s t : Text) : Block :=
  let places := (List.range s.length).flatMap fun i => (List.range t.length).map fun j => (i, j)
  places.foldl (fun best (i, j) =>
    let length := commonHead (s.drop i) (t.drop j)
    if best.length < length then ⟨length, i, j⟩ else best) {}

/-- The number of characters in common, in so many rounds; every round takes a character of `s`. -/
def commonWithin : Nat → Text → Text → Nat
  | 0, _, _ => 0
  | rounds + 1, s, t =>
    let b := longestBlock s t
    if b.length = 0 then 0
    else
      commonWithin rounds (s.take b.before) (t.take b.beforeOther) + b.length
        + commonWithin rounds (s.drop (b.before + b.length)) (t.drop (b.beforeOther + b.length))

def common (s t : Text) : Nat := commonWithin s.length s t

def areAlike (s t : Text) : Bool := 3 * (s.length + t.length) ≤ 10 * common s t

/-- Whether `s` is at least as much like `t` as `u` is. -/
def atLeast (t s u : Text) : Bool :=
  common u t * (s.length + t.length) ≤ common s t * (u.length + t.length)

/-- The names that are most like a text, three at most, in alphabetical order. -/
def closest (t : Text) (names : List Text) : List Text :=
  let alike := Sorting.sort (atLeast t) (names.filter fun s => areAlike s t)
  Sorting.sort Order.le (alike.take 3)

end DocWeave.Likeness
