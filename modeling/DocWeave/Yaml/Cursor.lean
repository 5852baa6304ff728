import DocWeave.Text.Utf8

/-!
# A place in a YAML text

The structure of a YAML text lies in its lines and columns, so the reader keeps count of both. Tabs
are no indentation.
-/

namespace DocWeave.Yaml

/-! ## Characters -/

def isBreak (c : Char) : Bool :=
  c == '\n' || c == '\r' || c == '\x85' || c == '\u2028' || c == '\u2029'

/-- Blanks within a line. -/
def isSpace (c : Char) : Bool := c == ' ' || c == '\t'

/-- Whether a line ends here, where there may be no character. -/
def endsLine (c : Option Char) : Bool := c.all isBreak

/-- Whether a word ends here. -/
def endsWord (c : Option Char) : Bool := c.all fun c => isBreak c || isSpace c

/-- Whether a mark in front of which tabs count ends here. -/
def endsMark (c : Option Char) : Bool := c.all fun c => isBreak c || c == ' '

/-- The characters of names. -/
def isNameChar (c : Char) : Bool := c.isAlphanum || c == '-' || c == '_'

/-- The characters that a text may be made of. -/
def isAllowed (c : Char) : Bool :=
  c == '\t' || c == '\n' || c == '\r' || (' ' ≤ c && c ≤ '~') || c == '\x85'
    || ('\u00a0' ≤ c && c ≤ '\ufffd') || '\uffff' < c

/-! ## Breaks -/

/-- The break at the head of a text, as it is kept, and what follows it. -/
def takeBreak : Text → Text × Text
  | '\r' :: '\n' :: rest => (['\n'], rest)
  | c :: rest =>
    if c == '\u2028' || c == '\u2029' then ([c], rest)
    else if isBreak c then (['\n'], rest)
    else ([], c :: rest)
  | [] => ([], [])

theorem length_takeBreak_lt {c : Char} {t : Text} (h : isBreak c = true) :
    (takeBreak (c :: t)).2.length < (c :: t).length := by
  rw [takeBreak.eq_def]
  split
  · rename_i heq
    simp only [List.cons.injEq] at heq
    simp only [heq.2, List.length_cons]
    omega
  · rename_i heq
    simp only [List.cons.injEq] at heq
    obtain ⟨rfl, rfl⟩ := heq
    simp [h]
    split <;> simp
  · simp

/-- Three characters that stand between documents, at the head of a line. -/
def startsSeparator : Text → Bool
  | '-' :: '-' :: '-' :: rest => endsWord rest.head?
  | '.' :: '.' :: '.' :: rest => endsWord rest.head?
  | _ => false

/-! ## Places -/

structure Cursor where
  rest : Text
  /-- How many characters lie behind. -/
  index : Nat := 0
  line : Nat := 0
  column : Nat := 0

namespace Cursor

/-- The character so many places ahead. -/
def ahead (c : Cursor) (n : Nat) : Option Char := c.rest[n]?

def forward (c : Cursor) : Cursor :=
  match c.rest with
  | [] => c
  | x :: rest =>
    if isBreak x && !(x == '\r' && rest.head? == some '\n') then
      ⟨rest, c.index + 1, c.line + 1, 0⟩
    else if x == '\ufeff' then ⟨rest, c.index + 1, c.line, c.column⟩
    else ⟨rest, c.index + 1, c.line, c.column + 1⟩

def advance : Nat → Cursor → Cursor
  | 0, c => c
  | n + 1, c => advance n c.forward

/-- The place where only `rest` is left. -/
def moveTo (c : Cursor) (rest : Text) : Cursor := c.advance (c.rest.length - rest.length)

end Cursor

end DocWeave.Yaml
