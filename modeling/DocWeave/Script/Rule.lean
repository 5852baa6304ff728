import DocWeave.Script.Tree
import DocWeave.Script.Lexeme

/-!
# Grammar rules and how they are read

A grammar gives every goal a rule, and a rule is data: lexemes, sequences, choices, repetitions and
the nodes that they build. `Rule.read` reads a rule at a place of a text and gives all ways to do
so. Three constructors decide how many ways there are:

* `first` commits to the first alternative that can be read at all
* `either` keeps every alternative, for the places where only what follows decides
* `many` reads as often as it can and commits to the first way each time

Reading descends by its fuel, which bounds how deep goals nest and not how long the text is.
`fuelFor` gives more than any text of that length can use up, because a goal that calls itself
consumes a character first.
-/

namespace DocWeave.Script

/-! ## Places in the text -/

/-- What is left to read, and where it stands. -/
structure Cursor where
  rest : List Char
  place : Place := {}
deriving Inhabited

namespace Cursor

def next (c : Cursor) : Cursor :=
  match c.rest with
  | [] => c
  | '\n' :: rest =>
    ⟨rest, { offset := c.place.offset + 1, row := c.place.row + 1, column := 0 }⟩
  | d :: rest =>
    ⟨rest, { c.place with
      offset := c.place.offset + d.utf8Size, column := c.place.column + d.utf8Size }⟩

def forward : Nat → Cursor → Cursor
  | 0, c => c
  | n + 1, c => forward n c.next

def skipBlanks (c : Cursor) : Cursor :=
  forward (c.rest.takeWhile Lexeme.isBlank).length c

/-- A node without children from one place to another. -/
def leaf (kind : String) (here there : Cursor) : Tree :=
  .node { kind, start := here.place, stop := there.place.offset } []

/-- Passes over blanks and comments; `found` collects the comments, newest first. -/
def skip : Nat → Cursor → List Tree → Cursor × List Tree
  | 0, c, found => (c, found)
  | n + 1, c, found =>
    let c := c.skipBlanks
    match Lexeme.comment c.rest with
    | some k =>
      let d := c.forward k
      skip n d (leaf "comment" c d :: found)
    | none => (c, found)

end Cursor

/-! ## Line ends -/

/--
Whether a statement may end where it stands, without a semicolon. The rules of the plain and of the
typed language differ in how they pass over comments and in which characters of the next line carry
a statement on.
-/
structure LineEnd where
  typed : Bool
  /-- An operand has just been read, so that an operator could follow. -/
  operand : Bool

namespace LineEnd

/-- The rest behind a block comment's closing mark, and whether a line broke before it. -/
def behindBlock (star broken : Bool) : List Char → List Char × Bool
  | [] => ([], broken)
  | c :: rest =>
    if star && c == '/' then (rest, broken)
    else behindBlock (c == '*') (broken || c == '\n' || c == '\u2028' || c == '\u2029') rest

/-- What blanks and comments leave, and whether a statement may end in front of them. -/
inductive Gap where
  /-- A slash that begins no comment. -/
  | slash
  /-- No line has ended so far. -/
  | open (rest : List Char)
  | broken (rest : List Char)

/-- Passes over blanks and comments. With `halting` a block comment stops it. -/
def gap (typed halting broken : Bool) : Nat → List Char → Gap
  | 0, text => .broken text
  | n + 1, text =>
    let text := text.dropWhile Lexeme.isBreakingBlank
    match text with
    | '/' :: '/' :: rest =>
      gap typed halting broken n
        (rest.dropWhile fun c => c != '\n' && (typed || (c != '\u2028' && c != '\u2029')))
    | '/' :: '*' :: rest =>
      let (rest, broken) := behindBlock false broken rest
      if halting && rest.head? != some '/' then if broken then .broken rest else .open rest
      else gap typed halting broken n rest
    | '/' :: _ => .slash
    | _ => .broken text

/-- Words that carry a statement on: `in` and `instanceof`. -/
def isInfixWord (text : List Char) : Bool :=
  let is (w : String) :=
    w.toList.isPrefixOf text && !((text.drop w.length).head?.any Lexeme.isLetter)
  is "in" || is "instanceof"

/-- Whether a statement may end before a line that begins with `text`. -/
def beforeLine (e : LineEnd) (text : List Char) : Bool :=
  match text with
  | [] => true
  | c :: rest =>
    if ['\x60', ',', ':', ';', '*', '%', '>', '<', '=', '?', '^', '|', '&', '/'].contains c then false
    else if c = '(' ∨ c = '[' then e.typed && !e.operand
    else if c = '.' then !e.typed && rest.head?.any Char.isDigit
    else if c = '+' ∨ c = '-' then rest.head? = some c
    else if c = '!' then rest.head? ≠ some '='
    else !isInfixWord text

/-- Whether a statement may end before the line break with which `text` begins. -/
def beforeBreak (e : LineEnd) (text : List Char) : Bool :=
  match gap e.typed false false (text.length + 1) text with
  | .open line | .broken line => e.beforeLine line
  | .slash => false

/--
Whether a statement may end before `text`. A brace ends it, but in the typed language one with a
colon behind it is that of a pattern unless an operator could follow.
-/
def holds (e : LineEnd) : Nat → List Char → Bool
  | 0, _ => false
  | n + 1, text =>
    let decide (text : List Char) : Bool :=
      match text with
      | [] => false
      | c :: rest =>
        if c = '}' then
          if e.typed && (rest.dropWhile Lexeme.isBreakingBlank).head? == some ':' then e.operand
          else true
        else if c = '\n' ∨ (!e.typed ∧ (c = '\u2028' ∨ c = '\u2029')) then e.beforeBreak text
        else Lexeme.isBreakingBlank c && holds e n rest
    match text with
    | [] => true
    | '/' :: _ =>
      if e.typed then false
      else match gap false true false (text.length + 1) text with
        | .slash => false
        | .open rest => decide rest
        | .broken rest =>
          if !e.operand && rest.head? != some ',' && rest.head? != some '=' then true
          else decide rest
    | _ => decide text

/-- Where a statement may end: here, or behind one of the comments that follow. -/
def place? (e : LineEnd) : Nat → Cursor → List Tree → Option (Cursor × List Tree)
  | 0, _, _ => none
  | n + 1, c, found =>
    if e.holds (c.rest.length + 1) c.rest then some (c, found)
    else
      let c := c.skipBlanks
      match Lexeme.comment c.rest with
      | some k =>
        let d := c.forward k
        place? e n d (Cursor.leaf "comment" c d :: found)
      | none => none

end LineEnd

/-! ## Rules -/

/-- What a single lexeme can be asked to be. -/
inductive Terminal where
  /-- This word and no longer one. -/
  | word (w : List Char)
  /-- Any word but these. -/
  | name (except : List (List Char))
  /-- One of these words and no longer one. -/
  | wordOf (ws : List (List Char))
  /-- This operator, and no longer one stands here. -/
  | mark (m : List Char)
  /-- One of these operators, and no longer one stands here. -/
  | markOf (ms : List (List Char))
  /-- These characters, whatever follows. -/
  | piece (m : List Char)
  /-- A name behind a number sign. -/
  | privateName
  | number
  | string
  | regex
  | hyphenName
  | attributeString
  | interpreterLine
  | pageComment
  /-- `static get` at the end of a line. -/
  | staticAccessor
  /-- The end of the text. -/
  | endOfText
  /-- The remaining ones stand directly behind the last lexeme. -/
  | templateText
  | reference
  | markupText
  | close (m : List Char)

namespace Terminal

/-- Whether blanks and comments may not stand in front. -/
def isTight : Terminal → Bool
  | templateText | reference | markupText | close _ => true
  | _ => false

def nonzero (n : Nat) : Option Nat := if n = 0 then none else some n

/-- The length of the lexeme at the head of a text, if it is the one asked for. -/
def length? (t : Terminal) (text : List Char) : Option Nat :=
  match t with
  | word w =>
    if w.isPrefixOf text && Lexeme.wordRest 0 0 (text.drop w.length) == 0 then some w.length
    else none
  | name except =>
    let n := Lexeme.word text
    if n = 0 || except.contains (text.take n) then none else some n
  | wordOf ws =>
    let n := Lexeme.word text
    if n ≠ 0 && ws.contains (text.take n) then some n else none
  | mark m => if m.isPrefixOf text && Lexeme.mark text == m.length then some m.length else none
  | markOf ms =>
    let n := Lexeme.mark text
    if ms.contains (text.take n) then some n else none
  | piece m | close m => if m.isPrefixOf text then some m.length else none
  | privateName =>
    match text with
    | '#' :: rest => (nonzero (Lexeme.word rest)).map (· + 1)
    | _ => none
  | number => nonzero (Lexeme.number text)
  | string => Lexeme.string text
  | regex => Lexeme.regex text
  | hyphenName => Lexeme.hyphenName text
  | attributeString => Lexeme.attributeString text
  | interpreterLine => Lexeme.interpreterLine text
  | pageComment => Lexeme.pageComment text
  | staticAccessor =>
    match text with
    | 's' :: 't' :: 'a' :: 't' :: 'i' :: 'c' :: rest =>
      let gap := (rest.takeWhile Lexeme.isBreakingBlank).length
      match rest.drop gap with
      | 'g' :: 'e' :: 't' :: tail =>
        let blanks := tail.takeWhile fun c => '\t' ≤ c && c ≤ '\r' || c == ' '
        let kept := (blanks.reverse.dropWhile (· != '\n')).length
        if gap = 0 || kept = 0 then none else some (6 + gap + 3 + kept)
      | _ => none
    | _ => none
  | endOfText => if text.isEmpty then some 0 else none
  | templateText => (Lexeme.templateText 0 0 text).bind nonzero
  | reference => Lexeme.reference text
  | markupText => (Lexeme.markupText false false 0 text).bind nonzero

end Terminal

/-- A grammar rule over the goals `γ`. -/
inductive Rule (γ : Type) where
  | goal (g : γ)
  | token (t : Terminal)
  | seq (rules : List (Rule γ))
  | first (rules : List (Rule γ))
  | either (rules : List (Rule γ))
  | many (rule : Rule γ)
  /-- What the rule reads becomes one node. -/
  | node (kind : String) (rule : Rule γ)
  /-- The newest node plays this part. -/
  | field (name : String) (rule : Rule γ)
  /-- The newest node, if it is of one of these kinds, and what the rule reads become one node. -/
  | link (below : List String) (kind : String) (rule : Rule γ)
  /-- The newest node is of one of these kinds. -/
  | ofKind (kinds : List String) (rule : Rule γ)
  /-- The rule can be read here; nothing is consumed. -/
  | ahead (rule : Rule γ)
  /-- The rule cannot be read here; nothing is consumed. -/
  | absent (rule : Rule γ)
  /-- The rule ends in an operand. -/
  | operand (rule : Rule γ)
  /-- The statement ends without a semicolon, here or behind a comment. -/
  | lineEnd
  /-- If lines can end statements here, this is not such an end. -/
  | unbroken (operand : Bool)
  /-- In brackets, where no line end counts. -/
  | enclosed (rule : Rule γ)
  /-- In a body of statements or members, where line ends count. -/
  | exposed (rule : Rule γ)

/-- How far a reading has come. -/
structure State where
  /-- Just behind the last lexeme. -/
  here : Cursor
  /-- Behind the blanks and comments that follow it. -/
  ahead : Cursor
  /-- These comments, newest first. -/
  pending : List Tree
  /-- Where the first lexeme of the node being read stands. -/
  start : Option Place
  /-- The nodes read so far, newest first. -/
  items : List Tree
  operandEnd : Bool
  breakable : Bool

namespace State

def behind (here : Cursor) (start : Option Place) (items : List Tree) (breakable : Bool) : State :=
  let (ahead, pending) := here.skip here.rest.length []
  { here, ahead, pending, start, items, operandEnd := false, breakable }

def initial (text : List Char) : State := behind ⟨text, {}⟩ none [] true

/-- Consumes the lexeme `t`, if it is the next one. -/
def take? (s : State) (t : Terminal) : Option State :=
  if t.isTight then
    (t.length? s.here.rest).map fun n =>
      behind (s.here.forward n) (s.start.or s.here.place) s.items s.breakable
  else
    (t.length? s.ahead.rest).map fun n =>
      behind (s.ahead.forward n) (s.start.or s.ahead.place) (s.pending ++ s.items) s.breakable

/-- Puts what has been read since `outer` into one node. Comments in front of it stay outside. -/
def close (s outer : State) (kind : String) : State :=
  match s.start with
  | none => { s with start := outer.start, items := s.items ++ outer.items }
  | some start =>
    let inside (t : Tree) := start.offset ≤ t.label.start.offset
    let own := s.items.takeWhile inside
    let lead := s.items.dropWhile inside
    let node := Tree.node { kind, start, stop := s.here.place.offset } own.reverse
    { s with start := outer.start.or start, items := node :: lead ++ outer.items }

def setField (s : State) (name : String) : State :=
  match s.items with
  | .node l cs :: rest => { s with items := .node { l with field := some name } cs :: rest }
  | [] => s

def newestKind? (s : State) : Option String := s.items.head?.map Tree.kind

def endsLine (s : State) (typed operand : Bool) : Bool :=
  ({ typed, operand : LineEnd }).holds (s.here.rest.length + 1) s.here.rest

/-- Goes to the place where the statement ends without a semicolon. -/
def endLine? (s : State) (typed : Bool) : Option State :=
  let e : LineEnd := { typed, operand := s.operandEnd }
  (e.place? (s.here.rest.length + 1) s.here []).map fun (c, found) =>
    behind c s.start (found ++ s.items) s.breakable

end State

/-- A rule for every goal, in a plain or typed language. -/
structure Grammar (γ : Type) where
  typed : Bool
  rule : γ → Rule γ

namespace Rule

/-- Repeats a step as long as it can be taken and consumes something. -/
def iterate (step : State → List State) : Nat → State → State
  | 0, s => s
  | n + 1, s =>
    match step s with
    | [] => s
    | t :: _ => if t.here.place.offset = s.here.place.offset then s else iterate step n t

/-- All ways to read a rule, the preferred one first. -/
def read {γ : Type} (g : Grammar γ) : Nat → Rule γ → State → List State
  | 0, _, _ => []
  | n + 1, rule, s =>
    match rule with
    | goal x => read g n (g.rule x) s
    | token t => (s.take? t).toList
    | seq rules => rules.foldl (fun states r => states.flatMap (read g n r)) [s]
    | first rules => (rules.findSome? fun r =>
        match read g n r s with
        | [] => none
        | states => some states).getD []
    | either rules => rules.flatMap fun r => read g n r s
    | many r => [iterate (read g n r) n s]
    | node kind r =>
      (read g n r { s with start := none, items := [] }).map fun t => t.close s kind
    | field name r => (read g n r s).map fun t => t.setField name
    | link below kind r =>
      match s.items with
      | newest :: older =>
        if below.isEmpty || below.contains newest.kind then
          let inner := { s with start := some newest.label.start, items := [newest] }
          (read g n r inner).map fun t => t.close { s with items := older } kind
        else []
      | [] => []
    | ofKind kinds r =>
      (read g n r s).filter fun t => t.newestKind?.any fun k => kinds.contains k
    | ahead r => if (read g n r s).isEmpty then [] else [s]
    | absent r => if (read g n r s).isEmpty then [s] else []
    | operand r => (read g n r s).map fun t => { t with operandEnd := true }
    | lineEnd => (s.endLine? g.typed).toList
    | unbroken joins => if s.breakable && s.endsLine g.typed joins then [] else [s]
    | enclosed r =>
      (read g n r { s with breakable := false }).map fun t => { t with breakable := s.breakable }
    | exposed r =>
      (read g n r { s with breakable := true }).map fun t => { t with breakable := s.breakable }

/-- More fuel than reading a text of this length can use. -/
def fuelFor (text : List Char) : Nat := 1000 * (text.length + 2)

end Rule

/-- The tree of a text, if the whole text can be read as `goal`. -/
def Grammar.tree? {γ : Type} (g : Grammar γ) (goal : γ) (text : List Char) : Option Tree :=
  match (Rule.goal goal).read g (Rule.fuelFor text) (State.initial text) with
  | [] => none
  | s :: _ => s.items.head?

end DocWeave.Script
