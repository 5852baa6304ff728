import DocWeave.Yaml.Cursor

/-!
# Block scalars

A block scalar is made of indented lines, which are kept as they are or folded: a break between two
lines that do not begin with a blank becomes a blank. What becomes of the breaks at its end is told
by a sign in its header.
-/

namespace DocWeave.Yaml.Block

/-! ## The header -/

/-- What becomes of the breaks at the end: all go, one stays, or all stay. -/
inductive Chomping where
  | strip
  | clip
  | keep
deriving DecidableEq

structure Header where
  chomping : Chomping := .clip
  /-- By how much the lines are indented, if it is told. -/
  increment : Option Nat := none

def sign? : Char → Option Chomping
  | '+' => some .keep
  | '-' => some .strip
  | _ => none

def increment? (c : Char) : Option Nat :=
  if c.isDigit then some (c.toNat - 0x30) else none

/-- The signs behind the mark of a block scalar, in either order. -/
def takeSigns : Text → Header × Text
  | [] => ({}, [])
  | a :: rest =>
    match sign? a, increment? a, rest with
    | some s, _, b :: after =>
      match increment? b with
      | some n => (⟨s, some n⟩, after)
      | none => (⟨s, none⟩, rest)
    | some s, _, [] => (⟨s, none⟩, [])
    | none, some n, b :: after =>
      match sign? b with
      | some s => (⟨s, some n⟩, after)
      | none => (⟨.clip, some n⟩, rest)
    | none, some n, [] => (⟨.clip, some n⟩, [])
    | none, none, _ => ({}, a :: rest)

/-- What is left behind blanks, a comment and the end of the line; nothing else may stand there. -/
def endLine? (t : Text) : Option Text :=
  match t.dropWhile (· == ' ') with
  | [] => some []
  | c :: rest =>
    if c == '#' then some (takeBreak (rest.dropWhile fun c => !isBreak c)).2
    else if isBreak c then some (takeBreak (c :: rest)).2
    else none

def header? (t : Text) : Option (Header × Text) :=
  let (h, rest) := takeSigns t
  if h.increment = some 0 ∨ !endsMark rest.head? then none
  else (endLine? rest).map fun rest => (h, rest)

/-! ## Lines -/

/-- Breaks, what is left behind them, and the column that is reached. -/
structure Breaks where
  text : Text
  rest : Text
  column : Nat
  /-- The greatest column reached. -/
  deepest : Nat := 0

/-- Passes blanks and breaks, as many as there are. -/
def takeAll (column deepest : Nat) : Nat → Text → Breaks
  | 0, t => ⟨[], t, column, deepest⟩
  | fuel + 1, t =>
    match t with
    | [] => ⟨[], [], column, deepest⟩
    | c :: rest =>
      if c == ' ' then takeAll (column + 1) (max deepest (column + 1)) fuel rest
      else if isBreak c then
        let (line, after) := takeBreak (c :: rest)
        let more := takeAll 0 deepest fuel after
        { more with text := line ++ more.text }
      else ⟨[], c :: rest, column, deepest⟩

/-- Passes breaks, and blanks up to a column. -/
def takeTo (indent column : Nat) : Nat → Text → Breaks
  | 0, t => ⟨[], t, column, 0⟩
  | fuel + 1, t =>
    match t with
    | [] => ⟨[], [], column, 0⟩
    | c :: rest =>
      if c == ' ' && column < indent then takeTo indent (column + 1) fuel rest
      else if isBreak c then
        let (line, after) := takeBreak (c :: rest)
        let more := takeTo indent 0 fuel after
        { more with text := line ++ more.text }
      else ⟨[], c :: rest, column, 0⟩

/-- The break at the end of a line, and the breaks behind it. -/
structure Tail where
  line : Text
  breaks : Text

/-- Reads lines that begin at column `indent`, and what follows them. -/
def linesFrom (folded : Bool) (indent : Nat) : Nat → Text → Text × Tail × Text
  | 0, t => ([], ⟨[], []⟩, t)
  | fuel + 1, t =>
    let body := t.takeWhile fun c => !isBreak c
    let (line, after) := takeBreak (t.dropWhile fun c => !isBreak c)
    let breaks := takeTo indent 0 (after.length + 1) after
    let goesOn := breaks.column == indent && !breaks.rest.isEmpty
    if goesOn then
      let flush := !(t.head?.any isSpace) && !(breaks.rest.head?.any isSpace)
      let join := if folded && line == ['\n'] && flush then
          if breaks.text.isEmpty then [' '] else []
        else line
      let (more, tail, rest) := linesFrom folded indent fuel breaks.rest
      (body ++ join ++ breaks.text ++ more, tail, rest)
    else (body, ⟨line, breaks.text⟩, breaks.rest)

/-- The block scalar behind its mark, within lines that are indented by `outer`. -/
def scalar? (folded : Bool) (outer : Int) (t : Text) : Option (Text × Text) :=
  (header? t).map fun (h, t) =>
    let least := (max (outer + 1) 1).toNat
    let fuel := t.length + 1
    let (indent, start) := match h.increment with
      | some n => (least + n - 1, takeTo (least + n - 1) 0 fuel t)
      | none =>
        let start := takeAll 0 0 fuel t
        (max least start.deepest, start)
    let (body, tail, rest) :=
      if start.column == indent && !start.rest.isEmpty then
        let (body, tail, rest) := linesFrom folded indent fuel start.rest
        (start.text ++ body, tail, rest)
      else ([], ⟨[], start.text⟩, start.rest)
    let ending := match h.chomping with
      | .strip => []
      | .clip => tail.line
      | .keep => tail.line ++ tail.breaks
    (body ++ ending, rest)

end DocWeave.Yaml.Block
