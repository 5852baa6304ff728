/-!
# Lexemes of script text

Each function here says how many characters at the head of a text make up one lexeme. All of them
run down the text once: where a lexeme's next step depends on more than one character, a counter of
characters still to be passed over takes the place of looking ahead, so the recursion stays on the
text itself.
-/

namespace DocWeave.Script.Lexeme

/-! ## Characters -/

/-- A space of some width that Unicode calls a space separator. -/
def isSpaceSeparator (c : Char) : Bool :=
  c == ' ' || c == '\u00a0' || c == '\u1680' || ('\u2000' ≤ c && c ≤ '\u200a') || c == '\u202f'
    || c == '\u205f' || c == '\u3000'

/-- The characters that may stand between lexemes. -/
def isBlank (c : Char) : Bool :=
  ('\t' ≤ c && c ≤ '\r') || isSpaceSeparator c || c == '\u2028' || c == '\u2029' || c == '\u2060'
    || c == '\u200b' || c == '\ufeff'

/-- Blanks between which a line end is looked for: no-break spaces and joiners do not count. -/
def isBreakingBlank (c : Char) : Bool :=
  ('\t' ≤ c && c ≤ '\r') || c == '\u2028' || c == '\u2029'
    || (isSpaceSeparator c && c != '\u00a0' && c != '\u2007' && c != '\u202f')

/-- The characters that end a line comment. -/
def isLineEnd (c : Char) : Bool :=
  c == '\n' || c == '\r' || c == '\u2028' || c == '\u2029'

/-- Punctuation that no word holds. -/
def punctuation : List Char :=
  [':', ';', '\x60', '"', '\'', '@', '#', '.', ',', '|', '^', '&', '<', '=', '>', '+', '-', '*',
    '/', '\\', '%', '?', '!', '~', '(', ')', '[', ']', '\x7b', '\x7d']

/-- Any character that is no control character, blank or punctuation may stand in a word. -/
def isWordPart (c : Char) : Bool :=
  '\x1f' < c && !isBlank c && !punctuation.contains c

def isHexDigit (c : Char) : Bool :=
  c.isDigit || ('a' ≤ c && c ≤ 'f') || ('A' ≤ c && c ≤ 'F')

def isLetter (c : Char) : Bool := c.isAlpha

/-! ## Words -/

/-- A code point written out as four hexadecimal digits or in braces, after its backslash. -/
def codePoint (text : List Char) : Option Nat :=
  match text with
  | 'u' :: '\x7b' :: rest =>
    let digits := rest.takeWhile isHexDigit
    match digits, rest.drop digits.length with
    | _ :: _, '\x7d' :: _ => some (digits.length + 3)
    | _, _ => none
  | 'u' :: a :: b :: c :: d :: _ => if [a, b, c, d].all isHexDigit then some 5 else none
  | _ => none

/-- The rest of a word, `skip` characters of which are known to belong to it. -/
def wordRest (skip count : Nat) : List Char → Nat
  | [] => count
  | c :: rest =>
    match skip with
    | k + 1 => wordRest k (count + 1) rest
    | 0 =>
      if isWordPart c then wordRest 0 (count + 1) rest
      else if c = '\\' then
        match codePoint rest with
        | some n => wordRest n (count + 1) rest
        | none => count
      else count

/-- A word: a name or a keyword. It does not begin with a digit. -/
def word (text : List Char) : Nat :=
  match text with
  | [] => 0
  | c :: _ => if c.isDigit then 0 else wordRest 0 0 text

/-! ## Numbers -/

/-- Digits, of which single ones may be followed by an underscore and another digit. -/
def digits (isDigit : Char → Bool) (count : Nat) : List Char → Nat
  | [] => count
  | c :: rest =>
    if isDigit c then digits isDigit (count + 1) rest
    else if c = '_' ∧ 0 < count then
      match rest with
      | d :: _ => if isDigit d then digits isDigit (count + 1) rest else count
      | [] => count
    else count

/-- The exponent of a decimal number, or nothing. -/
def exponent (text : List Char) : Nat :=
  match text with
  | e :: rest =>
    if e = 'e' ∨ e = 'E' then
      let sign := match rest with
        | s :: _ => if s = '+' ∨ s = '-' then 1 else 0
        | [] => 0
      let n := digits Char.isDigit 0 (rest.drop sign)
      if n = 0 then 0 else n + sign + 1
    else 0
  | [] => 0

/-- Digits in the base that the letter after a zero names. -/
def based (letter : Char) : Option (Char → Bool) :=
  if letter = 'x' ∨ letter = 'X' then some isHexDigit
  else if letter = 'o' ∨ letter = 'O' then some fun c => '0' ≤ c && c ≤ '7'
  else if letter = 'b' ∨ letter = 'B' then some fun c => c == '0' || c == '1'
  else none

/-- The mark of an integer without bound, or nothing. -/
def bigMark (text : List Char) : Nat :=
  match text with
  | 'n' :: _ => 1
  | _ => 0

/-- A whole part that a point or an exponent may follow: a second leading zero may not. -/
def isWholePart (text : List Char) (count : Nat) : Bool :=
  match text with
  | '0' :: d :: _ => count ≤ 1 || (d != '0' && d != '_')
  | _ => true

def decimal (text : List Char) : Nat :=
  let whole := digits Char.isDigit 0 text
  match text.drop whole with
  | '.' :: rest =>
    let fraction := digits Char.isDigit 0 rest
    if whole = 0 then
      if fraction = 0 then 0 else 1 + fraction + exponent (rest.drop fraction)
    else if isWholePart text whole then
      whole + 1 + fraction + exponent (rest.drop fraction)
    else whole
  | rest =>
    if whole = 0 then 0
    else if bigMark rest = 1 then whole + 1
    else if isWholePart text whole then whole + exponent rest
    else whole

def number (text : List Char) : Nat :=
  match text with
  | '0' :: letter :: rest =>
    match based letter with
    | some isDigit =>
      let n := digits isDigit 0 rest
      if n = 0 then 1 else 2 + n + bigMark (rest.drop n)
    | none => decimal text
  | _ => decimal text

/-! ## Strings and templates -/

/-- How many characters an escape takes after its backslash. -/
def escape (text : List Char) : Option Nat :=
  match text with
  | [] => none
  | 'x' :: a :: b :: _ => if isHexDigit a && isHexDigit b then some 3 else none
  | 'x' :: _ => none
  | 'u' :: _ => codePoint text
  | c :: rest =>
    if '0' ≤ c && c ≤ '7' then
      some ((text.take 3).takeWhile fun d => '0' ≤ d && d ≤ '7').length
    else if c = '\r' ∨ c = '?' then
      match rest with
      | d :: _ => if d = '\n' ∨ d = '\u2028' ∨ d = '\u2029' then some 2 else some 1
      | [] => some 1
    else some 1

/-- The rest of a string up to and with its closing quote. -/
def stringRest (quote : Char) (skip count : Nat) : List Char → Option Nat
  | [] => none
  | c :: rest =>
    match skip with
    | k + 1 => stringRest quote k (count + 1) rest
    | 0 =>
      if c = quote then some (count + 1)
      else if c = '\\' then
        match escape rest with
        | some n => stringRest quote n (count + 1) rest
        | none => none
      else if c = '\n' ∨ c = '\r' then none
      else stringRest quote 0 (count + 1) rest

/-- A string in single or double quotes. -/
def string (text : List Char) : Option Nat :=
  match text with
  | c :: rest => if c = '"' ∨ c = '\'' then stringRest c 0 1 rest else none
  | [] => none

/-- Template text up to its end or to the next substitution. -/
def templateText (skip count : Nat) : List Char → Option Nat
  | [] => none
  | c :: rest =>
    match skip with
    | k + 1 => templateText k (count + 1) rest
    | 0 =>
      if c = '\x60' then some count
      else if c = '$' then
        match rest with
        | '\x7b' :: _ => some count
        | _ => templateText 0 (count + 1) rest
      else if c = '\\' then
        match escape rest with
        | some n => templateText n (count + 1) rest
        | none => none
      else templateText 0 (count + 1) rest

/-! ## Regular expressions -/

/-- The body of a regular expression: a slash in a class does not end it. -/
def regexRest (inClass escaped : Bool) (count : Nat) : List Char → Option Nat
  | [] => none
  | c :: rest =>
    if c = '\n' then none
    else if escaped then regexRest inClass false (count + 1) rest
    else if c = '\\' then regexRest inClass true (count + 1) rest
    else if inClass then regexRest (c != ']') false (count + 1) rest
    else if c = '[' then regexRest true false (count + 1) rest
    else if c = '/' then
      if count = 1 then none
      else some (count + 1 + (rest.takeWhile fun d => 'a' ≤ d && d ≤ 'z').length)
    else regexRest false false (count + 1) rest

/-- A regular expression between slashes, with its flags. -/
def regex (text : List Char) : Option Nat :=
  match text with
  | '/' :: rest => regexRest false false 1 rest
  | _ => none

/-! ## Comments -/

/-- The rest of a block comment up to and with its closing mark. -/
def blockRest (star : Bool) (count : Nat) : List Char → Option Nat
  | [] => none
  | c :: rest =>
    if star && c == '/' then some (count + 1) else blockRest (c == '*') (count + 1) rest

/-- A line comment or a closed block comment. -/
def comment (text : List Char) : Option Nat :=
  match text with
  | '/' :: '/' :: rest => some ((rest.takeWhile fun c => !isLineEnd c).length + 2)
  | '/' :: '*' :: rest => blockRest false 2 rest
  | _ => none

/-- The comment of a page: from its mark to the end of the line. -/
def pageComment (text : List Char) : Option Nat :=
  let line := (text.takeWhile fun c => c != '\n' && c != '\u2028' && c != '\u2029').length
  match text with
  | '<' :: '!' :: '-' :: '-' :: _ => some line
  | '-' :: '-' :: '>' :: _ => some line
  | _ => none

/-- The first line of a script that names its interpreter. -/
def interpreterLine (text : List Char) : Option Nat :=
  match text with
  | '#' :: '!' :: _ => some (text.takeWhile fun c => c != '\n').length
  | _ => none

/-! ## Markup -/

/-- A character reference: a name or a number between ampersand and semicolon. -/
def reference (text : List Char) : Option Nat :=
  let closed (before : Nat) (least most : Nat) (body rest : List Char) : Option Nat :=
    if least ≤ body.length ∧ body.length ≤ most ∧ rest.head? = some ';' then
      some (before + body.length + 1)
    else none
  match text with
  | '&' :: '#' :: x :: rest =>
    if x = 'x' ∨ x = 'X' then
      let body := rest.takeWhile isHexDigit
      closed 3 1 6 body (rest.drop body.length)
    else
      let body := (x :: rest).takeWhile Char.isDigit
      closed 2 1 5 body ((x :: rest).drop body.length)
  | '&' :: rest =>
    let body := rest.takeWhile isLetter
    closed 1 1 30 body (rest.drop body.length)
  | _ => none

/--
Text between tags. Line breaks and the blanks that follow them do not make a text: there is none
unless some other character is seen.
-/
def markupText (seen atBreak : Bool) (count : Nat) : List Char → Option Nat
  | [] => if seen then some count else none
  | c :: rest =>
    if ['<', '>', '\x7b', '\x7d', '&'].contains c then if seen then some count else none
    else if c = '\n' then markupText seen true (count + 1) rest
    else
      let still := atBreak && isBreakingBlank c
      markupText (seen || !still) still (count + 1) rest

/-- The rest of an attribute's string, in which an ampersand before a letter begins a reference. -/
def attributeRest (quote : Char) (skip count : Nat) : List Char → Option Nat
  | [] => none
  | c :: rest =>
    match skip with
    | k + 1 => attributeRest quote k (count + 1) rest
    | 0 =>
      if c = quote then some (count + 1)
      else if c = '&' then
        match reference (c :: rest) with
        | some n => attributeRest quote (n - 1) (count + 1) rest
        | none =>
          match rest with
          | d :: _ =>
            if d = '#' || isLetter d then none else attributeRest quote 1 (count + 1) rest
          | [] => none
      else attributeRest quote 0 (count + 1) rest

/-- The string value of an attribute. -/
def attributeString (text : List Char) : Option Nat :=
  match text with
  | c :: rest => if c = '"' ∨ c = '\'' then attributeRest c 0 1 rest else none
  | [] => none

/-- A name of markup that holds a hyphen. -/
def hyphenName (text : List Char) : Option Nat :=
  let isPlain (c : Char) := c.isAlpha || c.isDigit || c == '_' || c == '$'
  match text with
  | c :: _ =>
    if isPlain c && !c.isDigit then
      let head := (text.takeWhile isPlain).length
      match text.drop head with
      | '-' :: rest => some (head + 1 + (rest.takeWhile fun d => isPlain d || d == '-').length)
      | _ => none
    else none
  | [] => none

/-! ## Operators -/

/-- Operators and brackets of more than one character, longer ones first. -/
def longMarks : List (List Char) :=
  [">>>=", "...", "===", "!==", "**=", "<<=", ">>=", ">>>", "&&=", "||=", "??=",
    "==", "!=", "<=", ">=", "=>", "&&", "||", "??", "?.", "++", "--", "+=", "-=", "*=", "/=", "%=",
    "&=", "|=", "^=", "<<", ">>", "**"].map String.toList

/-- The longest operator at the head of a text. A point and a digit after `?` begin a number. -/
def mark (text : List Char) : Nat :=
  match text with
  | [] => 0
  | '?' :: '.' :: d :: _ => if d.isDigit then 1 else 2
  | _ =>
    match longMarks.find? fun m => m.isPrefixOf text with
    | some m => m.length
    | none => 1

end DocWeave.Script.Lexeme
