import DocWeave.Decimal.Scientific
import DocWeave.Text.Printed

/-!
# How a field is laid out

A field of a format is laid out by its kind, which is told by a letter: as a text, as a character, or
as a number in digits of some kind. Then it is filled up to a width. Not every part of a record can be
laid out in every way.
-/

namespace DocWeave.Log

/-- How a field is laid out. -/
structure Layout where
  /-- Signs that change how it is laid out. -/
  flags : Text := []
  width : Nat := 0
  precision : Option Nat := none
  /-- The letter for the kind of the field. -/
  kind : Char := 's'
deriving DecidableEq, Inhabited

/-- A part of a record. -/
inductive Part where
  | text (t : Text)
  | number (n : Int)
  | real (x : Float)
  /-- Something else, by the text with which it is shown and printed. -/
  | object (printed : Text)
deriving DecidableEq

namespace Part

def shown : Part → Text
  | text t => t
  | number n => (toString n).toList
  | real x => Decimal.Shortest.text x
  | object printed => printed

def printed : Part → Text
  | text t => Printed.quoted t
  | p => p.shown

/-- The character that a part stands for: a text that is no longer, or its number. -/
def char? : Part → Option Char
  | text [c] => some c
  | number (.ofNat n) => if n.isValidChar then some (Char.ofNat n) else none
  | _ => none

def number? : Part → Option Int
  | number n => some n
  | _ => none

/-- The part as a whole number; what stands behind a point is dropped. -/
def whole? : Part → Option Int
  | number n => some n
  | real x =>
    match Binary64.parts x with
    | .finite negative mantissa exponent =>
      let (num, den) := Binary64.scale mantissa 1 (-exponent)
      some (if negative then -(num / den : Nat) else (num / den : Nat))
    | _ => none
  | _ => none

/-- The part as a floating point number. Whole numbers may be too large for one. -/
def real? : Part → Option Float
  | number n => if (Float.ofInt n).isInf then none else some (Float.ofInt n)
  | real x => some x
  | _ => none

end Part

namespace Layout

variable (l : Layout)

/-- A text filled up to the width. -/
def fillUp (fill : Char) (t : Text) : Text :=
  let more (c : Char) : Text := List.replicate (l.width - t.length) c
  if l.flags.contains '-' then t ++ more ' ' else more fill ++ t

/-- What stands in front of a number. -/
def sign (negative : Bool) : Text :=
  if negative then ['-']
  else if l.flags.contains '+' then ['+']
  else if l.flags.contains ' ' then [' ']
  else []

/-- A number filled up to the width. Zeros stand behind what is in front of the digits. -/
def fillNumber (front digits : Text) : Text :=
  if l.flags.contains '0' && !l.flags.contains '-' then
    front ++ List.replicate (l.width - front.length - digits.length) '0' ++ digits
  else l.fillUp ' ' (front ++ digits)

def digitsTo (base : Nat) : Nat → Nat → Text → Text
  | 0, _, done => done
  | fuel + 1, n, done =>
    let done := Digit.hex (n % base) :: done
    if n < base then done else digitsTo base fuel (n / base) done

/-- A whole number in digits, with what its layout puts in front. -/
def number (base : Nat) (mark : Text) (n : Int) : Text :=
  let ds := digitsTo base (n.natAbs + 1) n.natAbs []
  let ds := List.replicate (l.precision.getD 0 - ds.length) '0' ++ ds
  l.fillNumber (l.sign (n < 0) ++ if l.flags.contains '#' then mark else []) ds

/-- A floating point number in a form; six places are usual. -/
def real (form : Decimal.Form) (x : Float) : Text :=
  match Binary64.parts x with
  | .notANumber => l.fillNumber (l.sign false) ['n', 'a', 'n']
  | .infinite negative => l.fillNumber (l.sign negative) ['i', 'n', 'f']
  | .finite negative mantissa exponent =>
    l.fillNumber (l.sign negative)
      (form.digits (l.flags.contains '#') (l.precision.getD 6) mantissa exponent)

def text (t : Text) : Text := l.fillUp ' ' ((l.precision.map t.take).getD t)

/-- Whether the width and the precision can be counted with. -/
def fits : Bool := l.width < Decimal.twoTo 63 && l.precision.all (· < Decimal.twoTo 31)

/-- A part as it is laid out; not every part can be laid out in every way. -/
def lay? (p : Part) : Option Text :=
  if !l.fits then none
  else
    match l.kind with
    | 's' => some (l.text p.shown)
    | 'r' => some (l.text p.printed)
    | 'a' => some (l.text (Printed.toAscii p.printed))
    | 'c' => p.char?.map fun c => l.fillUp ' ' [c]
    | 'd' => p.whole?.map (l.number 10 [])
    | 'i' => p.whole?.map (l.number 10 [])
    | 'u' => p.whole?.map (l.number 10 [])
    | 'o' => p.number?.map (l.number 8 ['0', 'o'])
    | 'x' => p.number?.map (l.number 16 ['0', 'x'])
    | 'X' => p.number?.map fun n => (l.number 16 ['0', 'x'] n).map Char.toUpper
    | 'e' => p.real?.map (l.real .scientific)
    | 'f' => p.real?.map (l.real .fixed)
    | 'g' => p.real?.map (l.real .general)
    | 'E' => p.real?.map fun x => (l.real .scientific x).map Char.toUpper
    | 'F' => p.real?.map fun x => (l.real .fixed x).map Char.toUpper
    | 'G' => p.real?.map fun x => (l.real .general x).map Char.toUpper
    | _ => none

end Layout

end DocWeave.Log
