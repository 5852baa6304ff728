import DocWeave.Yaml.Marker

/-!
# The kinds of nodes

A node is a scalar, a sequence or a mapping, and its tag tells what it stands for. A plain scalar
without a tag is told by how it looks.
-/

namespace DocWeave.Yaml

/-- What a node stands for. -/
inductive Kind where
  | null
  | bool
  | int
  | float
  | text
  | stamp
  | sequence
  | mapping
  /-- A key whose value is put into the mapping around it. -/
  | merge
  /-- A key for the value of a mapping as a whole. -/
  | whole
  | unknown
deriving DecidableEq, Inhabited

inductive Node where
  | scalar (kind : Kind) (text : Text)
  | sequence (kind : Kind) (items : List Node)
  | mapping (kind : Kind) (entries : List (Node × Node))
deriving Inhabited

namespace Kind

/-- What the tags that every document knows begin with. -/
def home : Text := "tag:yaml.org,2002:".toList

def byName : List (String × Kind) :=
  [("null", null), ("bool", bool), ("int", int), ("float", float), ("str", text),
    ("timestamp", stamp), ("seq", sequence), ("map", mapping), ("merge", merge), ("value", whole)]

/-- The kind that a full tag stands for. -/
def ofTag (tag : Text) : Kind :=
  (((byName.find? fun k => home ++ k.1.toList == tag)).map (·.2)).getD unknown

end Kind

/-! ## Plain scalars -/

namespace Plain

def isAny (words : List String) (t : Text) : Bool := words.any fun w => w.toList == t

def isNull (t : Text) : Bool := isAny ["", "~", "null", "Null", "NULL"] t

def isBool (t : Text) : Bool :=
  isAny ["yes", "Yes", "YES", "no", "No", "NO", "true", "True", "TRUE", "false", "False", "FALSE",
    "on", "On", "ON", "off", "Off", "OFF"] t

/-- A text without a sign in front. -/
def unsigned : Text → Text
  | '-' :: rest => rest
  | '+' :: rest => rest
  | t => t

/-- A digit, or the mark between digits. -/
def isDigitOrMark (c : Char) : Bool := c.isDigit || c == '_'

/-- Digits of base sixty, each with a colon in front, up to the end or to a point. -/
def sixties (pointed : Bool) : Text → Bool
  | [] => !pointed
  | '.' :: rest => pointed && rest.all isDigitOrMark
  | [':', a] => a.isDigit && !pointed
  | ':' :: a :: ':' :: rest => a.isDigit && sixties pointed (':' :: rest)
  | ':' :: a :: '.' :: rest => a.isDigit && sixties pointed ('.' :: rest)
  | ':' :: a :: b :: rest => '0' ≤ a && a ≤ '5' && b.isDigit && sixties pointed rest
  | _ => false

def isInt (t : Text) : Bool :=
  match unsigned t with
  | ['0'] => true
  | '0' :: 'b' :: rest => !rest.isEmpty && rest.all fun c => c == '0' || c == '1' || c == '_'
  | '0' :: 'x' :: rest => !rest.isEmpty && rest.all fun c => (Digit.hexValue? c).isSome || c == '_'
  | '0' :: rest => rest.all fun c => ('0' ≤ c && c ≤ '7') || c == '_'
  | c :: rest => c.isDigit && sixties false (rest.dropWhile isDigitOrMark)
  | [] => false

/-- The end of a decimal: nothing, or a power of ten with a sign. -/
def isExponent : Text → Bool
  | [] => true
  | e :: sign :: d :: rest =>
    (e == 'e' || e == 'E') && (sign == '+' || sign == '-') && (d :: rest).all Char.isDigit
  | _ => false

/-- A decimal with its point. -/
def isDecimal (t : Text) : Bool :=
  match t.dropWhile isDigitOrMark with
  | '.' :: rest =>
    t.head?.any Char.isDigit && isExponent (rest.dropWhile isDigitOrMark)
  | _ => false

def isFloat (t : Text) : Bool :=
  let body := unsigned t
  isDecimal body
    || (match t with
      | '.' :: d :: rest => d.isDigit && isExponent (rest.dropWhile isDigitOrMark)
      | _ => false)
    || (body.head?.any Char.isDigit && (body.dropWhile isDigitOrMark).head? == some ':'
      && sixties true (body.dropWhile isDigitOrMark))
    || isAny [".inf", ".Inf", ".INF"] body
    || isAny [".nan", ".NaN", ".NAN"] t

end Plain

end DocWeave.Yaml
