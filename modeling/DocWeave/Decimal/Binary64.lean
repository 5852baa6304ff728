import DocWeave.Decimal.Rounding

/-!
# Binary floating point of 64 bits

A finite number of this format is a mantissa below `2 ^ 53` times a power of two. Here quotients of
whole numbers are rounded to the nearest such number, and its parts are read off its bits. Numbers
below `2 ^ -1022` have fewer bits, numbers that are too large become infinite.
-/

namespace DocWeave.Binary64

/-- The exponent of the last bit for a quotient near `2 ^ log`. -/
def unitExponent (log : Int) : Int := max (log - 52) (-1074)

/-- `num / den` in units of `2 ^ e`, as a quotient of whole numbers. -/
def scale (num den : Nat) (e : Int) : Nat × Nat :=
  if 0 ≤ e then (num, den * Decimal.twoTo e.toNat) else (num * Decimal.twoTo (-e).toNat, den)

/-- The exponent of the leading bit of a positive quotient. -/
def leading (num den : Nat) : Int :=
  let guess : Int := (num.log2 : Int) - den.log2
  let (n, d) := scale num den guess
  if n < d then guess - 1 else guess

/-- The bits of the number nearest to `num / den`. -/
def nearestBits (num den : Nat) : Nat :=
  if num = 0 then 0
  else
    let e := unitExponent (leading num den)
    let (n, d) := scale num den e
    let mantissa := Decimal.halfEven n d
    let bits :=
      if mantissa < Decimal.twoTo 52 then mantissa
      else (e + 1075).toNat * Decimal.twoTo 52 + (mantissa - Decimal.twoTo 52)
    min bits (2047 * Decimal.twoTo 52)

/-- The number nearest to `num / den`. -/
def ofRatio (num den : Nat) : Float := Float.ofBits (UInt64.ofNat (nearestBits num den))

/-- The number nearest to `num / den`, below zero if the numerator is. -/
def ofIntRatio (num : Int) (den : Nat) : Float :=
  if num < 0 then -ofRatio num.natAbs den else ofRatio num.natAbs den

/-- The number nearest to `mantissa * 10 ^ exponent`. -/
def ofDecimal (mantissa : Nat) (exponent : Int) : Float :=
  let size : Int := (Decimal.digits mantissa).length + exponent
  if mantissa = 0 ∨ size < -400 then 0
  else if 400 < size then Float.ofBits 0x7ff0000000000000
  else if 0 ≤ exponent then ofRatio (mantissa * Decimal.tenTo exponent.toNat) 1
  else ofRatio mantissa (Decimal.tenTo (-exponent).toNat)

/-- What a number is made of. -/
inductive Parts where
  /-- `mantissa * 2 ^ exponent` -/
  | finite (negative : Bool) (mantissa : Nat) (exponent : Int)
  | infinite (negative : Bool)
  | notANumber
deriving DecidableEq, Repr

def Parts.isFinite : Parts → Bool
  | finite _ _ _ => true
  | _ => false

def parts (x : Float) : Parts :=
  let bits : Nat := x.toBits.toNat
  let negative : Bool := Decimal.twoTo 63 ≤ bits
  let exponent : Nat := bits / Decimal.twoTo 52 % 2048
  let fraction : Nat := bits % Decimal.twoTo 52
  if exponent = 2047 then if fraction = 0 then .infinite negative else .notANumber
  else if exponent = 0 then .finite negative fraction (-1074)
  else .finite negative (Decimal.twoTo 52 + fraction) ((exponent : Int) - 1075)

end DocWeave.Binary64
