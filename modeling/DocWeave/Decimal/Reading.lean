import DocWeave.Decimal.Binary64
import DocWeave.Text.Blank
import DocWeave.Text.CharClass

/-!
# Reading numbers

Numbers as people write them into settings: blanks around them, a sign, the decimal digits of any
script, single underscores between digits.
-/

namespace DocWeave.Decimal

/-! ## Digits -/

/--
The values of a row of digits with single underscores between them, and what follows it. `behind`
tells that a digit has just been read.
-/
def digitsFrom (behind : Bool) : Text → List Nat × Text
  | [] => ([], [])
  | c :: rest =>
    match Digit.value? c with
    | some d =>
      let (ds, after) := digitsFrom true rest
      (d :: ds, after)
    | none =>
      if c = '_' ∧ behind ∧ (rest.head?.bind Digit.value?).isSome then digitsFrom false rest
      else ([], c :: rest)

def takeDigits (t : Text) : List Nat × Text := digitsFrom false t

def ofDigits (ds : List Nat) : Nat := ds.foldl (fun n d => 10 * n + d) 0

/-- Whether a text begins with a minus sign, and the text behind a sign. -/
def takeSign : Text → Bool × Text
  | '-' :: rest => (true, rest)
  | '+' :: rest => (false, rest)
  | t => (false, t)

/-! ## Margins -/

/-- The blanks that may stand around a number: the separators of records and fields may not. -/
def isMargin (c : Char) : Bool := Blank.isBlank c && !('\x1c' ≤ c && c ≤ '\x1f')

/-- A text without the blanks around a number. -/
def trimMargins (t : Text) : Text := ((t.dropWhile isMargin).reverse.dropWhile isMargin).reverse

/-! ## Whole numbers -/

/-- Numbers with more digits are not read. -/
def digitLimit : Nat := 4300

/-- The whole number that a text without blanks around it is. -/
def bareWhole? (t : Text) : Option Int :=
  let (negative, body) := takeSign t
  match takeDigits body with
  | (d :: ds, []) =>
    if digitLimit < (d :: ds).length then none
    else
      let n : Int := ofDigits (d :: ds)
      some (if negative then -n else n)
  | _ => none

/-- The whole number that a text is, whatever blanks stand around it. -/
def whole? (t : Text) : Option Int := bareWhole? (Blank.trim t)

/-! ## Floating point numbers -/

/-- The exponent at the head of a text and what follows it; there may be none. -/
def takeExponent (t : Text) : Option (Int × Text) :=
  match t with
  | e :: rest =>
    if e = 'e' ∨ e = 'E' then
      let (negative, body) := takeSign rest
      match takeDigits body with
      | ([], _) => none
      | (ds, after) =>
        let n : Int := ofDigits ds
        some (if negative then -n else n, after)
    else some (0, t)
  | [] => some (0, [])

/-- Names of numbers that digits cannot write. -/
def named? (t : Text) : Option Float :=
  let word := String.ofList (t.map Char.toLower)
  if word = "inf" ∨ word = "infinity" then some (Float.ofBits 0x7ff0000000000000)
  else if word = "nan" then some (Float.ofBits 0x7ff8000000000000)
  else none

/-- A decimal without its sign: digits, of which there is one at least, around a point. -/
def magnitude? (t : Text) : Option Float :=
  let (front, rest) := takeDigits t
  let (back, rest) := match rest with
    | '.' :: more => takeDigits more
    | _ => ([], rest)
  if front.isEmpty && back.isEmpty then none
  else match takeExponent rest with
    | some (e, []) => some (Binary64.ofDecimal (ofDigits (front ++ back)) (e - back.length))
    | _ => none

/-- The floating point number that a text is. -/
def real? (t : Text) : Option Float :=
  let (negative, body) := takeSign (trimMargins t)
  ((named? body).or (magnitude? body)).map fun x => if negative then -x else x

end DocWeave.Decimal
