import DocWeave.Decimal.Binary64

/-!
# The shortest text of a number

A floating point number is written with the fewest digits that are read back as the same number; of
two such decimals the nearer one is taken, of two equally near ones the even one. For a count of
digits the two decimals on both sides of the number are tried: if any decimal with so many digits is
read back as the number, one of these two is.
-/

namespace DocWeave.Decimal.Shortest

/-- Finds the first power of ten by which `num / den` becomes one or more. -/
def lift (num den : Nat) : Nat → Nat → Nat
  | 0, k => k
  | fuel + 1, k => if den ≤ num * tenTo k then k else lift num den fuel (k + 1)

/-- The power of ten of a positive quotient's first digit. -/
def leadingPower (num den : Nat) : Int :=
  if den ≤ num then (digits (num / den)).length - 1 else -(lift num den 400 1 : Int)

/-- `n * 10 ^ k` as a quotient. -/
def decimal (n : Nat) (k : Int) : Nat × Nat :=
  if 0 ≤ k then (n * tenTo k.toNat, 1) else (n, tenTo (-k).toNat)

/-- Whether `n * 10 ^ k` is read as the number with these bits. -/
def isReadAs (bits n : Nat) (k : Int) : Bool :=
  let (num, den) := decimal n k
  Binary64.nearestBits num den == bits

/-- A decimal near `num / den` in units of `10 ^ k` that is read as the number with these bits. -/
def onGrid? (bits num den : Nat) (k : Int) : Option Nat :=
  let (n, d) := if 0 ≤ k then (num, den * tenTo k.toNat) else (num * tenTo (-k).toNat, den)
  let low := n / d
  let high := low + 1
  let nearer := if halfEven n d = low then [low, high] else [high, low]
  nearer.find? fun m => isReadAs bits m k

/-- Drops zeros at the end of `n`, which is worth `n * 10 ^ k`. -/
def strip : Nat → Nat → Int → Nat × Int
  | 0, n, k => (n, k)
  | fuel + 1, n, k => if n % 10 = 0 ∧ n ≠ 0 then strip fuel (n / 10) (k + 1) else (n, k)

/-- The digits and the power of ten of the last of them, for a positive finite number. -/
def find (mantissa : Nat) (exponent : Int) : Nat × Int :=
  let (num, den) :=
    if 0 ≤ exponent then (mantissa * twoTo exponent.toNat, 1) else (mantissa, twoTo (-exponent).toNat)
  let bits := Binary64.nearestBits num den
  let first := leadingPower num den
  let found := (List.range 17).findSome? fun (more : Nat) =>
    let k := first - (more : Int)
    (onGrid? bits num den k).map fun n => (n, k)
  let (n, k) := found.getD (0, 0)
  strip 20 n k

/-- A power of ten, with a sign and at least two digits. -/
def powerMark (k : Int) : List Char :=
  let shown := digits k.natAbs
  'e' :: (if k < 0 then '-' else '+') :: (if shown.length < 2 then '0' :: shown else shown)

/--
Digits with a point: positional from `0.0001` up to sixteen digits in front of the point, with an
exponent of at least two digits otherwise. There is always a point or an exponent.
-/
def layOut (n : Nat) (k : Int) : List Char :=
  let ds := digits n
  let point : Int := ds.length + k
  if -4 < point ∧ point ≤ 16 then
    if point ≤ 0 then ['0', '.'] ++ List.replicate (-point).toNat '0' ++ ds
    else if ds.length ≤ point then ds ++ List.replicate (point.toNat - ds.length) '0' ++ ['.', '0']
    else ds.take point.toNat ++ '.' :: ds.drop point.toNat
  else
    let tail := if ds.length = 1 then [] else '.' :: ds.drop 1
    ds.take 1 ++ tail ++ powerMark (point - 1)

/-- The text of a number. -/
def text (x : Float) : List Char :=
  let sign (negative : Bool) : List Char := if negative then ['-'] else []
  match Binary64.parts x with
  | .notANumber => ['n', 'a', 'n']
  | .infinite negative => sign negative ++ ['i', 'n', 'f']
  | .finite negative 0 _ => sign negative ++ ['0', '.', '0']
  | .finite negative mantissa exponent =>
    let (n, k) := find mantissa exponent
    sign negative ++ layOut n k

end DocWeave.Decimal.Shortest
