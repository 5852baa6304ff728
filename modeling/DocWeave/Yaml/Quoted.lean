import DocWeave.Text.CharClass
import DocWeave.Yaml.Cursor

/-!
# Quoted scalars

Within quotes a break becomes a blank, and further breaks behind it stay; blanks around breaks are
lost. Single quotes are doubled to stand for themselves; between double quotes a backslash gives
other characters.
-/

namespace DocWeave.Yaml

/-- Breaks and the blanks in front of them; no document may end here. -/
def takeBreaks? (t : Text) : Option (Text × Text) :=
  if startsSeparator t then none
  else
    match _h : t.dropWhile isSpace with
    | [] => some ([], [])
    | c :: rest =>
      if _hc : isBreak c then
        let line := takeBreak (c :: rest)
        (takeBreaks? line.2).map fun (more, after) => (line.1 ++ more, after)
      else some ([], c :: rest)
termination_by t.length
decreasing_by
  have h₁ := length_takeBreak_lt (t := rest) _hc
  have h₂ := (List.dropWhile_sublist (l := t) isSpace).length_le
  rw [_h] at h₂
  omega

/-- What a break and further breaks behind it come to. -/
def foldBreak (line more : Text) : Text :=
  if line ≠ ['\n'] then line ++ more else if more.isEmpty then [' '] else more

/-- A run of blanks and breaks within quotes. The text may not end here. -/
def takeGap? (t : Text) : Option (Text × Text) :=
  match t.dropWhile isSpace with
  | [] => none
  | c :: rest =>
    if isBreak c then
      let (line, after) := takeBreak (c :: rest)
      (takeBreaks? after).map fun (more, after) => (foldBreak line more, after)
    else some (t.takeWhile isSpace, c :: rest)

/-! ## Backslashes -/

/-- Characters that are written by a letter. -/
def letterEscapes : List (Char × Char) :=
  [('0', '\x00'), ('a', '\x07'), ('b', '\x08'), ('t', '\t'), ('\t', '\t'), ('n', '\n'),
    ('v', '\x0b'), ('f', '\x0c'), ('r', '\r'), ('e', '\x1b'), (' ', ' '), ('"', '"'),
    ('\\', '\\'), ('/', '/'), ('N', '\x85'), ('_', '\u00a0'), ('L', '\u2028'), ('P', '\u2029')]

/-- How many digits follow a letter that announces a number. -/
def numberWidth? : Char → Option Nat
  | 'x' => some 2
  | 'u' => some 4
  | 'U' => some 8
  | _ => none

/-- The number that so many hexadecimal digits write, and what follows them. -/
def takeHex? : Nat → Nat → Text → Option (Nat × Text)
  | 0, n, t => some (n, t)
  | width + 1, n, c :: rest => (Digit.hexValue? c).bind fun d => takeHex? width (16 * n + d) rest
  | _ + 1, _, [] => none

/-- The character of a number. Halves of characters are replaced. -/
def charOf? (n : Nat) : Option Char :=
  if h : n.isValidChar then some (Char.ofNatAux n h)
  else if n < 0x110000 then some '\ufffd'
  else none

/-- What follows a backslash stands for, and what is left. -/
def takeEscape? : Text → Option (Text × Text)
  | [] => none
  | c :: rest =>
    match letterEscapes.lookup c, numberWidth? c with
    | some x, _ => some ([x], rest)
    | none, some width =>
      (takeHex? width 0 rest).bind fun (n, after) => (charOf? n).map fun x => ([x], after)
    | none, none => if isBreak c then takeBreaks? (takeBreak (c :: rest)).2 else none

/-! ## Scalars -/

/-- Reads a scalar up to the quote that ends it. -/
def quotedFrom (double : Bool) : Nat → Text → Option (Text × Text)
  | 0, _ => none
  | _ + 1, [] => none
  | fuel + 1, c :: rest =>
    let more (front : Text) (after : Text) : Option (Text × Text) :=
      (quotedFrom double fuel after).map fun (body, after) => (front ++ body, after)
    if c == '\'' && !double then
      match rest with
      | '\'' :: after => more ['\''] after
      | _ => some ([], rest)
    else if c == '"' && double then some ([], rest)
    else if c == '\\' && double then (takeEscape? rest).bind fun (x, after) => more x after
    else if isSpace c || isBreak c then
      (takeGap? (c :: rest)).bind fun (gap, after) => more gap after
    else more [c] rest

/-- The scalar behind a quote and what follows it. -/
def quoted? (double : Bool) (t : Text) : Option (Text × Text) :=
  quotedFrom double (t.length + 1) t

end DocWeave.Yaml
