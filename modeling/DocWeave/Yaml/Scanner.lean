import DocWeave.Yaml.Block
import DocWeave.Yaml.Marker
import DocWeave.Yaml.Plain

/-!
# Tokens of a YAML text

Indentation becomes tokens that open and close collections. Whether a scalar is a key is known only
when its colon comes: until then it is remembered as a possible key, by the number of tokens in front
of it, and the tokens that make it a key are put there afterwards. A possible key is forgotten at the
end of its line.
-/

namespace DocWeave.Yaml

inductive Token where
  | directive (d : Directive)
  | documentStart
  | documentEnd
  | streamEnd
  | sequenceStart
  | mappingStart
  | blockEnd
  | flowSequenceStart
  | flowSequenceEnd
  | flowMappingStart
  | flowMappingEnd
  | blockEntry
  | flowEntry
  | key
  | value
  | reference (name : Text)
  | anchor (name : Text)
  | tag (t : Tag)
  | scalar (text : Text) (isPlain : Bool)
deriving DecidableEq

/-- A place where a key may begin. -/
structure PossibleKey where
  /-- The number of tokens in front. -/
  number : Nat
  /-- Nothing but a key may stand there. -/
  required : Bool
  index : Nat
  line : Nat
  column : Nat

structure Scanner where
  cursor : Cursor
  /-- The tokens so far, the last one in front. -/
  tokens : List Token := []
  /-- The column of the block that is open; none is at `-1`. -/
  indent : Int := -1
  /-- The columns of the blocks around it. -/
  outer : List Int := []
  /-- How many brackets are open. -/
  depth : Nat := 0
  /-- Whether a key may begin here. -/
  keyAllowed : Bool := true
  /-- Possible keys by the number of brackets around them. -/
  keys : List (Nat × PossibleKey) := []

namespace Scanner

def inFlow (s : Scanner) : Bool := s.depth != 0

def push (s : Scanner) (t : Token) : Scanner := { s with tokens := t :: s.tokens }

/-- Puts a token behind the first `number` ones. -/
def insertAt (s : Scanner) (number : Nat) (t : Token) : Scanner :=
  let later := s.tokens.length - number
  { s with tokens := s.tokens.take later ++ t :: s.tokens.drop later }

def moveTo (s : Scanner) (rest : Text) : Scanner := { s with cursor := s.cursor.moveTo rest }

def advance (s : Scanner) (n : Nat) : Scanner := { s with cursor := s.cursor.advance n }

/-! ## Possible keys -/

/-- A possible key is on the line of its colon and not far from it. -/
def isStale (s : Scanner) (k : PossibleKey) : Bool :=
  k.line != s.cursor.line || k.index + 1024 < s.cursor.index

/-- Forgets the keys that are not possible any more. -/
def dropStale (s : Scanner) : Option Scanner :=
  if s.keys.any fun k => s.isStale k.2 && k.2.required then none
  else some { s with keys := s.keys.filter fun k => !s.isStale k.2 }

/-- Forgets the possible key within the brackets that are open. -/
def dropKey (s : Scanner) : Option Scanner :=
  if s.keys.any fun k => k.1 == s.depth && k.2.required then none
  else some { s with keys := s.keys.filter fun k => k.1 != s.depth }

/-- Remembers that a key may begin here. -/
def saveKey (s : Scanner) : Option Scanner :=
  if s.keyAllowed then
    s.dropKey.map fun t =>
      let k : PossibleKey := {
        number := t.tokens.length
        required := !s.inFlow && s.indent == (s.cursor.column : Int)
        index := s.cursor.index
        line := s.cursor.line
        column := s.cursor.column }
      { t with keys := (s.depth, k) :: t.keys }
  else some s

/-! ## Indentation -/

/-- Closes the blocks that are indented by more than `column`. -/
def closeBlocks (column : Int) : List Int → Scanner → Scanner
  | outer, s =>
    if s.inFlow || s.indent ≤ column then s
    else match outer with
      | [] => { s.push .blockEnd with indent := -1, outer := [] }
      | i :: outer => closeBlocks column outer { s.push .blockEnd with indent := i, outer }

def unwind (s : Scanner) (column : Int) : Scanner := closeBlocks column s.outer s

/-- Opens a block at `column` unless one is open there; tells whether it did. -/
def openBlock (s : Scanner) (column : Nat) : Bool × Scanner :=
  if s.indent < column then
    (true, { s with outer := s.indent :: s.outer, indent := column })
  else (false, s)

/-- Opens a block at the current column, with a token for it. -/
def openBlockWith (s : Scanner) (t : Token) : Scanner :=
  let (opened, s) := s.openBlock s.cursor.column
  if opened then s.push t else s

/-! ## Tokens -/

/-- Passes blanks, comments and breaks. -/
def skip : Nat → Scanner → Scanner
  | 0, s => s
  | fuel + 1, s =>
    let t := s.cursor.rest.dropWhile (· == ' ')
    let t := if t.head? = some '#' then t.dropWhile fun c => !isBreak c else t
    if t.head?.any isBreak then
      let s := s.moveTo (takeBreak t).2
      skip fuel (if s.inFlow then s else { s with keyAllowed := true })
    else s.moveTo t

def documentMark (s : Scanner) (t : Token) : Option Scanner :=
  (s.unwind (-1)).dropKey.map fun s => ({ s with keyAllowed := false }.advance 3).push t

def directive (s : Scanner) : Option Scanner := do
  let s ← (s.unwind (-1)).dropKey
  let (d, rest) ← directive? (s.cursor.rest.drop 1)
  return ({ s with keyAllowed := false }.moveTo rest).push (.directive d)

def openFlow (s : Scanner) (t : Token) : Option Scanner :=
  s.saveKey.map fun s =>
    ({ s with depth := s.depth + 1, keyAllowed := true }.advance 1).push t

def closeFlow (s : Scanner) (t : Token) : Option Scanner :=
  s.dropKey.map fun s =>
    ({ s with depth := s.depth - 1, keyAllowed := false }.advance 1).push t

def flowEntry (s : Scanner) : Option Scanner :=
  s.dropKey.map fun s => ({ s with keyAllowed := true }.advance 1).push .flowEntry

def blockEntry (s : Scanner) : Option Scanner :=
  if !s.inFlow && !s.keyAllowed then none
  else
    let s := if s.inFlow then s else s.openBlockWith .sequenceStart
    s.dropKey.map fun s => ({ s with keyAllowed := true }.advance 1).push .blockEntry

def key (s : Scanner) : Option Scanner :=
  if !s.inFlow && !s.keyAllowed then none
  else
    let s := if s.inFlow then s else s.openBlockWith .mappingStart
    s.dropKey.map fun s => ({ s with keyAllowed := !s.inFlow }.advance 1).push .key

/-- Makes a possible key a key. -/
def confirmKey (s : Scanner) (k : PossibleKey) : Scanner :=
  let s := { s with keys := s.keys.filter fun k => k.1 != s.depth, keyAllowed := false }
  let s := s.insertAt k.number .key
  if s.inFlow then s
  else
    let (opened, s) := s.openBlock k.column
    if opened then s.insertAt k.number .mappingStart else s

def value (s : Scanner) : Option Scanner :=
  match s.keys.lookup s.depth with
  | some k => some (((s.confirmKey k).advance 1).push .value)
  | none =>
    if !s.inFlow && !s.keyAllowed then none
    else
      let s := if s.inFlow then s else s.openBlockWith .mappingStart
      s.dropKey.map fun s => ({ s with keyAllowed := !s.inFlow }.advance 1).push .value

/-- Reads what may be a key: `read` reads it behind its mark. -/
def keyLike (s : Scanner) (read : Text → Option (Token × Text)) : Option Scanner := do
  let s ← s.saveKey
  let (t, rest) ← read (s.cursor.rest.drop 1)
  return ({ s with keyAllowed := false }.moveTo rest).push t

def blockScalar (s : Scanner) (folded : Bool) : Option Scanner := do
  let s ← s.dropKey
  let (text, rest) ← Block.scalar? folded s.indent (s.cursor.rest.drop 1)
  return ({ s with keyAllowed := true }.moveTo rest).push (.scalar text false)

def plainScalar (s : Scanner) : Option Scanner := do
  let s ← s.saveKey
  let p := plain s.inFlow (s.indent + 1) s.cursor.rest
  return ({ s with keyAllowed := p.broken }.moveTo p.rest).push (.scalar p.text true)

/-- Whether a plain scalar may begin with `c`. -/
def beginsPlain (s : Scanner) (c : Char) : Bool :=
  let mark := "-?:,[]\x7b\x7d#&*!|>'\"%@\x60".toList.contains c
  (!mark && !isSpace c && !isBreak c)
    || (!endsWord (s.cursor.ahead 1)
      && (c == '-' || (!s.inFlow && (c == '?' || c == ':'))))

/-- Reads one token, or the tokens that go with it. -/
def token (s : Scanner) (c : Char) : Option Scanner :=
  let text := s.cursor.rest
  let word := endsWord (s.cursor.ahead 1)
  if c == '%' && s.cursor.column == 0 then s.directive
  else if c == '-' && s.cursor.column == 0 && startsSeparator text then
    s.documentMark .documentStart
  else if c == '.' && s.cursor.column == 0 && startsSeparator text then s.documentMark .documentEnd
  else if c == '[' then s.openFlow .flowSequenceStart
  else if c == '\x7b' then s.openFlow .flowMappingStart
  else if c == ']' then s.closeFlow .flowSequenceEnd
  else if c == '\x7d' then s.closeFlow .flowMappingEnd
  else if c == ',' then s.flowEntry
  else if c == '-' && word then s.blockEntry
  else if c == '?' && (s.inFlow || word) then s.key
  else if c == ':' && (s.inFlow || word) then s.value
  else if c == '*' then
    s.keyLike fun t => (anchorName? t).map fun (name, rest) => (.reference name, rest)
  else if c == '&' then
    s.keyLike fun t => (anchorName? t).map fun (name, rest) => (.anchor name, rest)
  else if c == '!' then s.keyLike fun t => (tag? t).map fun (tag, rest) => (.tag tag, rest)
  else if c == '|' && !s.inFlow then s.blockScalar false
  else if c == '>' && !s.inFlow then s.blockScalar true
  else if c == '\'' then
    s.keyLike fun t => (quoted? false t).map fun (text, rest) => (.scalar text false, rest)
  else if c == '"' then
    s.keyLike fun t => (quoted? true t).map fun (text, rest) => (.scalar text false, rest)
  else if s.beginsPlain c then s.plainScalar
  else none

/-- Reads tokens to the end of the text. Every token takes a character at least. -/
def run : Nat → Scanner → Option (List Token)
  | 0, _ => none
  | fuel + 1, s => do
    let s ← (skip (s.cursor.rest.length + 1) s).dropStale
    let s := s.unwind s.cursor.column
    match s.cursor.rest with
    | [] =>
      let s ← (s.unwind (-1)).dropKey
      return (s.push .streamEnd).tokens.reverse
    | c :: _ => run fuel (← s.token c)

end Scanner

/-- The tokens of a text; there are none if it cannot be read. -/
def tokens? (t : Text) : Option (List Token) :=
  if t.all isAllowed then
    let cursor : Cursor := { rest := t }
    let cursor := if t.head? = some '\ufeff' then cursor.forward else cursor
    Scanner.run (t.length + 1) { cursor }
  else none

end DocWeave.Yaml
