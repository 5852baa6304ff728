import DocWeave.Decimal.Fixed
import DocWeave.Decimal.Shortest

/-!
# Numbers in powers of ten

A number with one digit in front of the point and a power of ten behind it; and in the general form,
which has such a power only for numbers that are very large or very small, and no zeros at the end.
-/

namespace DocWeave.Decimal

/-- How the digits of a number are laid out. -/
inductive Form where
  | fixed
  | scientific
  | general
deriving DecidableEq, Repr

/-- A positive quotient rounded to so many digits behind the first one, and the power of ten of the
first one. -/
def toPlaces (places num den : Nat) : Nat × Int :=
  let k := Shortest.leadingPower num den
  let (n, d) := Shortest.decimal 1 ((places : Int) - k)
  let rounded := halfEven (num * n) (den * d)
  if rounded < tenTo (places + 1) then (rounded, k) else (rounded / 10, k + 1)

/-- A point, if digits follow it or if it is to be kept. -/
def pointed (keepsPoint : Bool) (fraction : List Char) : List Char :=
  if fraction.isEmpty && !keepsPoint then [] else '.' :: fraction

/-- The digits without zeros at the end of a fraction, and without a point at the end. -/
def trimmed (ds : List Char) : List Char :=
  if ds.contains '.' then
    let kept := ds.reverse.dropWhile (· == '0')
    (if kept.head? = some '.' then kept.drop 1 else kept).reverse
  else ds

section Forms

variable (keepsPoint : Bool) (places num den : Nat)

def fixedDigits : List Char :=
  setPoint places (halfEven (num * tenTo places) den)
    ++ if places = 0 && keepsPoint then ['.'] else []

/-- The digits with the power of ten that belongs to them. -/
def scientificDigits : List Char × Int :=
  let (n, k) := if num = 0 then (0, 0) else toPlaces places num den
  let ds := digits n
  let padded := ds ++ List.replicate (places + 1 - ds.length) '0'
  (padded.take 1 ++ pointed keepsPoint (padded.drop 1), k)

/-- The precision counts all digits here, not only those behind the point. -/
def generalDigits (precision : Nat) : List Char :=
  let places := max precision 1 - 1
  let (ds, k) := scientificDigits keepsPoint places num den
  let trim (ds : List Char) : List Char := if keepsPoint then ds else trimmed ds
  if -4 ≤ k ∧ k ≤ places then trim (fixedDigits keepsPoint (places - k).toNat num den)
  else trim ds ++ Shortest.powerMark k

end Forms

/-- The digits of `mantissa * 2 ^ exponent` in a form. -/
def Form.digits (form : Form) (keepsPoint : Bool) (precision mantissa : Nat) (exponent : Int) :
    List Char :=
  let (num, den) := Binary64.scale mantissa 1 (-exponent)
  match form with
  | fixed => fixedDigits keepsPoint precision num den
  | scientific =>
    let (ds, k) := scientificDigits keepsPoint precision num den
    ds ++ Shortest.powerMark k
  | general => generalDigits keepsPoint num den precision

end DocWeave.Decimal
