import DocWeave.Decimal.Binary64

/-!
# Numbers with fixed places

Numbers with a fixed number of places behind the point, rounded from their exact value; and whole
numbers with commas between groups of three digits.
-/

namespace DocWeave.Decimal

/-- A whole number of units of `10 ^ -places`, with the point set. -/
def setPoint (places n : Nat) : List Char :=
  let ds := digits n
  let padded := List.replicate (places + 1 - ds.length) '0' ++ ds
  let whole := padded.length - places
  padded.take whole ++ if places = 0 then [] else '.' :: padded.drop whole

/-- The text of a number with so many places; a half goes to the even neighbour. -/
def fixed (places : Nat) (x : Float) : List Char :=
  let sign (negative : Bool) : List Char := if negative then ['-'] else []
  match Binary64.parts x with
  | .notANumber => ['n', 'a', 'n']
  | .infinite negative => sign negative ++ ['i', 'n', 'f']
  | .finite negative mantissa exponent =>
    let n :=
      if 0 ≤ exponent then mantissa * twoTo exponent.toNat * tenTo places
      else halfEven (mantissa * tenTo places) (twoTo (-exponent).toNat)
    sign negative ++ setPoint places n

/-- Groups of three from the end of a row of digits, which is given from its end. -/
def groups : List Char → List Char
  | a :: b :: c :: d :: rest => a :: b :: c :: ',' :: groups (d :: rest)
  | ds => ds

/-- A whole number with commas between groups of three digits. -/
def grouped (n : Int) : List Char :=
  let body := (groups (digits n.natAbs).reverse).reverse
  if n < 0 then '-' :: body else body

end DocWeave.Decimal
