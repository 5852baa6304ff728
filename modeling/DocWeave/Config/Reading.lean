import DocWeave.Decimal.Reading
import DocWeave.Text.Pieces
import DocWeave.Value

/-!
# Reading settings

A setting comes from a file, from the environment or from the command line, as a value of any kind.
What can be told from its plain text is read from there, so that a number and its digits in quotes
mean the same.
-/

namespace DocWeave.Config

/-! ## Problems -/

/-- Why a value is no setting. -/
inductive Problem where
  | noFlag (name : Text) (given : Value)
  | noWhole (name : Text) (given : Value)
  | notPositive (name : Text) (n : Int)
  | unknownStyle (given : Text)
  /-- Something else stands where a section should be. -/
  | noSection
  /-- Something else stands where a text should be. -/
  | noText
  /-- Something else stands where a list should be. -/
  | noList
  /-- Something else stands where a number should be. -/
  | noNumber
  | unreadable (given : Text)
  | tooLarge
  /-- A whole number has too many digits to be written out. -/
  | tooLong
deriving Inhabited

namespace Problem

/-- Whether the problem is one of those that the user is told about in the program's own words. -/
def isTold : Problem → Bool
  | noFlag _ _ => true
  | noWhole _ _ => true
  | notPositive _ _ => true
  | unknownStyle _ => true
  | _ => false

/-- What is wrong. Some problems have no words. -/
def message : Problem → Text
  | noFlag name given => name ++ " must be a boolean, got ".toList ++ given.shown
  | noWhole name given => name ++ " must be an integer, got ".toList ++ given.shown
  | notPositive name n =>
    name ++ " must be a positive integer, got ".toList ++ (toString n).toList
  | unknownStyle given =>
    "Output format must be one of jsdoc, tsdoc, got ".toList ++ Printed.quoted given
  | unreadable given => "could not convert string to float: ".toList ++ Printed.quoted given
  | tooLarge => "int too large to convert to float".toList
  | tooLong =>
    ("Exceeds the limit (" ++ toString Decimal.digitLimit ++ " digits) for integer string "
      ++ "conversion; use sys.set_int_max_str_digits() to increase the limit").toList
  | noSection => []
  | noText => []
  | noList => []
  | noNumber => []

end Problem

/-! ## Extensions -/

/-- The extension that a piece of text names: it has a point in front. Blanks name none. -/
def extension? (piece : Text) : Option Text :=
  match Blank.trim piece with
  | [] => none
  | '.' :: rest => some ('.' :: rest)
  | t => some ('.' :: t)

/-- The extensions that a text names, with commas between them. -/
def extensionsOfText (t : Text) : List Text := (Pieces.split ',' t).filterMap extension?

/-- The extensions that values name, each by its plain text. -/
def extensionsOfValues (vs : List Value) : Except Problem (List Text) :=
  if vs.all Value.isWritable then .ok (vs.filterMap fun v => extension? v.plain)
  else .error .tooLong

/-- Extensions in a text with commas between them, or in a list. -/
def extensions : Value → Except Problem (List Text)
  | .text t => .ok (extensionsOfText t)
  | .list items => extensionsOfValues items
  | .map entries => extensionsOfValues (entries.map (·.1))
  | _ => .error .noList

/-! ## Flags, counts and numbers -/

def trueWords : List Text := ["1".toList, "true".toList, "yes".toList, "on".toList]

def falseWords : List Text := ["0".toList, "false".toList, "no".toList, "off".toList, []]

/-- A word as it is compared: without blanks around it, in small letters. -/
def word (t : Text) : Text := (Blank.trim t).map Char.toLower

/-- A flag, of which `name` is told if it is none. -/
def flag (name : Text) : Value → Except Problem Bool
  | .bool b => .ok b
  | v =>
    if !v.isWritable then .error .tooLong
    else if trueWords.contains (word v.plain) then .ok true
    else if falseWords.contains (word v.plain) then .ok false
    else .error (.noFlag name v)

/-- A whole number above zero, of which `name` is told if it is none. -/
def count (name : Text) (v : Value) : Except Problem Int :=
  if !v.isWritable then .error .tooLong
  else
    match Decimal.whole? v.plain with
    | none => .error (.noWhole name v)
    | some n => if n < 1 then .error (.notPositive name n) else .ok n

/-- A number, which may stand in a text. -/
def number : Value → Except Problem Float
  | .bool b => .ok (if b then 1.0 else 0.0)
  | .int n =>
    let x := Float.ofInt n
    if x.isInf then .error .tooLarge else .ok x
  | .float x => .ok x
  | .text t =>
    match Decimal.real? t with
    | some x => .ok x
    | none => .error (.unreadable t)
  | _ => .error .noNumber

/-! ## Comment styles -/

/-- The words for the comment styles that can be asked for. -/
def styleWords : List Text := ["jsdoc".toList, "tsdoc".toList]

def style : Value → Except Problem Text
  | .text t => if styleWords.contains (word t) then .ok (word t) else .error (.unknownStyle t)
  | _ => .error .noText

end DocWeave.Config
