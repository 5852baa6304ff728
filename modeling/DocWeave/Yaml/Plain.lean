import DocWeave.Yaml.Quoted

/-!
# Plain scalars

A scalar without quotes goes on until something stands there that cannot belong to it: a comment, a
colon with a blank behind it, a line that is not indented enough, or, within brackets, a comma, a
question mark or a bracket.
-/

namespace DocWeave.Yaml

/-- Whether a plain scalar ends in front of `c`. -/
def endsPlain (inFlow : Bool) (c : Char) (next : Option Char) : Bool :=
  isSpace c || isBreak c
    || (c == ':' && (endsWord next || (inFlow && next.any [',', '[', ']', '\x7b', '\x7d'].contains)))
    || (inFlow && [',', '?', '[', ']', '\x7b', '\x7d'].contains c)

/-- A run of characters of a plain scalar. -/
def takeRun (inFlow : Bool) : Text → Text × Text
  | [] => ([], [])
  | c :: rest =>
    if endsPlain inFlow c rest.head? then ([], c :: rest)
    else
      let (run, after) := takeRun inFlow rest
      (c :: run, after)

/-- The blanks and breaks behind the runs of a plain scalar. -/
structure Gap where
  /-- What they come to within a scalar; nothing if the scalar ends here. -/
  text : Text
  rest : Text
  /-- Whether there is a break. -/
  broken : Bool := false
  /-- Whether a document ends here. -/
  final : Bool := false
  /-- The column that is reached, if there is a break. -/
  column : Nat := 0

/-- Breaks and blanks up to the next character, from some column on. -/
def takeBlankLines (column : Nat) : Nat → Text → Gap
  | 0, t => ⟨[], t, true, false, column⟩
  | fuel + 1, t =>
    match t with
    | [] => ⟨[], [], true, false, column⟩
    | c :: rest =>
      if c == ' ' then takeBlankLines (column + 1) fuel rest
      else if isBreak c then
        let (line, after) := takeBreak (c :: rest)
        if startsSeparator after then ⟨line, after, true, true, 0⟩
        else
          let gap := takeBlankLines 0 fuel after
          { gap with text := line ++ gap.text }
      else ⟨[], c :: rest, true, false, column⟩

def takeGap (t : Text) : Gap :=
  let spaces := t.takeWhile (· == ' ')
  match t.dropWhile (· == ' ') with
  | [] => ⟨spaces, [], false, false, 0⟩
  | c :: rest =>
    if isBreak c then
      let (line, after) := takeBreak (c :: rest)
      if startsSeparator after then ⟨[], after, true, true, 0⟩
      else
        let gap := takeBlankLines 0 (after.length + 1) after
        { gap with text := if gap.final then [] else foldBreak line gap.text }
    else ⟨spaces, c :: rest, false, false, 0⟩

/-- A plain scalar. -/
structure Plain where
  text : Text
  rest : Text
  /-- Whether a line has ended behind the scalar. -/
  broken : Bool

/-- Reads a plain scalar on, with what the gap in front of `t` comes to. -/
def plainFrom (inFlow : Bool) (indent : Int) : Nat → Text → Bool → Text → Plain
  | 0, _, broken, t => ⟨[], t, broken⟩
  | fuel + 1, between, broken, t =>
    match takeRun inFlow t with
    | ([], _) => ⟨[], t, broken⟩
    | (run, after) =>
      let gap := takeGap after
      let stop := gap.text.isEmpty || gap.rest.head? == some '#'
        || (!inFlow && gap.broken && gap.column < indent)
      if stop then ⟨between ++ run, gap.rest, gap.broken⟩
      else
        let more := plainFrom inFlow indent fuel gap.text gap.broken gap.rest
        { more with text := between ++ run ++ more.text }

/-- The plain scalar at the head of a text, whose further lines stand at column `indent` or behind. -/
def plain (inFlow : Bool) (indent : Int) (t : Text) : Plain :=
  plainFrom inFlow indent (t.length + 1) [] false t

end DocWeave.Yaml
