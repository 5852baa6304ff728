import DocWeave.Text.CharClass

/-!
# Quoted texts

In messages a text stands in single quotes, or in double quotes if it holds single quotes and no
double ones. A backslash stands in front of the quote in use, of itself and of the letters of line
feed, carriage return and tab. What cannot be printed is written by its number.
-/

namespace DocWeave.Printed

/-- The last `width` digits of a number to base sixteen. -/
def hexDigits : Nat → Nat → Text
  | 0, _ => []
  | width + 1, n => hexDigits width (n / 16) ++ [Digit.hex (n % 16)]

/-- A character by its number, as wide as it needs to be. -/
def byNumber (c : Char) : Text :=
  let n := c.toNat
  if n < 0x100 then '\\' :: 'x' :: hexDigits 2 n
  else if n < 0x10000 then '\\' :: 'u' :: hexDigits 4 n
  else '\\' :: 'U' :: hexDigits 8 n

/-- The quote in which a text is put. -/
def quoteFor (t : Text) : Char := if t.contains '\'' && !t.contains '"' then '"' else '\''

def escaped (quote c : Char) : Text :=
  if c = quote ∨ c = '\\' then ['\\', c]
  else if c = '\n' then ['\\', 'n']
  else if c = '\r' then ['\\', 'r']
  else if c = '\t' then ['\\', 't']
  else if Printable.isPrintable c then [c]
  else byNumber c

def quoted (t : Text) : Text :=
  let quote := quoteFor t
  quote :: t.flatMap (escaped quote) ++ [quote]

/-- A text in which all characters that are not ASCII are written by their numbers. -/
def toAscii (t : Text) : Text := t.flatMap fun c => if c.toNat < 0x80 then [c] else byNumber c

end DocWeave.Printed
