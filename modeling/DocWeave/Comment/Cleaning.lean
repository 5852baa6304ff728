import DocWeave.Text.Blank
import DocWeave.Text.CharClass

/-!
# Cleaning an answer

A model answers with a comment block, but often puts it in a code fence, writes the name of a
language in front, opens the block twice or leaves a mark out. Cleaning undoes this in six steps:

1. what stands in a fence takes the place of the fence
2. fence marks that are left go, together with the words behind them
3. single backticks go
4. a block that is opened twice in a row is opened once
5. a language's name at the head of the text goes
6. blanks at both ends go, and a mark that is missing is added

Every step runs down the text once. The steps over fences and openings recurse on what is left
behind a mark, which is shorter than what they were given (`splitFence_length`,
`dropOpening_length`).
-/

namespace DocWeave.Comment

/-! ## Blocks

A comment block opens with a slash and two stars and closes with a star and a slash. Only these two
marks make a text a block; what stands between them is not looked at.
-/

/-- The mark that opens a block. -/
def opening : Text := ['/', '*', '*']

/-- The mark that closes a block. -/
def closing : Text := ['*', '/']

def opens (t : Text) : Bool := opening.isPrefixOf t

def closes (t : Text) : Bool := closing.isSuffixOf t

/-- Whether a text is a block once the blanks around it are gone. -/
def isBlock (t : Text) : Bool := opens (Blank.trim t) && closes (Blank.trim t)

/-! ## Fences -/

def isBacktick (c : Char) : Bool := c == '\x60'

/-- The text in front of the first row of three backticks, and the text behind it. -/
def splitFence : Text → Option (Text × Text)
  | [] => none
  | c :: rest =>
    match c :: rest with
    | '\x60' :: '\x60' :: '\x60' :: behind => some ([], behind)
    | _ => (splitFence rest).map fun (front, behind) => (c :: front, behind)

theorem splitFence_length {t front behind : Text} (h : splitFence t = some (front, behind)) :
    front.length + 3 + behind.length = t.length := by
  induction t generalizing front behind with
  | nil => simp [splitFence] at h
  | cons c rest ih =>
    rw [splitFence] at h
    split at h
    · next heq =>
      obtain ⟨rfl, rfl⟩ := Prod.mk.inj (Option.some.inj h)
      rw [heq]
      simp
      omega
    · obtain ⟨⟨f, b⟩, hfb, heq⟩ := Option.map_eq_some_iff.1 h
      obtain ⟨rfl, rfl⟩ := Prod.mk.inj heq
      have := ih hfb
      simp only [List.length_cons]
      omega

/-- The characters of the words behind a fence mark. -/
def isInfo (c : Char) : Bool := WordChar.isWordChar c || c == '+' || c == '-'

def dropInfo (t : Text) : Text := t.dropWhile isInfo

def isSpaceOrTab (c : Char) : Bool := c == ' ' || c == '\t'

/-- The text behind a line break with which it begins, or the text. -/
def dropBreak (t : Text) : Text :=
  match t with
  | '\r' :: '\n' :: rest => rest
  | '\r' :: rest => rest
  | '\n' :: rest => rest
  | _ => t

/-- The text behind the rest of a line on which a fence is opened. -/
def dropFenceHead (t : Text) : Text := dropBreak ((dropInfo t).dropWhile isSpaceOrTab)

theorem length_dropBreak_le (t : Text) : (dropBreak t).length ≤ t.length := by
  unfold dropBreak
  split
  · simp only [List.length_cons]
    omega
  · simp
  · simp
  · exact Nat.le_refl _

theorem length_dropFenceHead_le (t : Text) : (dropFenceHead t).length ≤ t.length :=
  Nat.le_trans (length_dropBreak_le _)
    ((List.dropWhile_sublist _).trans (List.dropWhile_sublist _)).length_le

/-- Step 1: every closed fence gives way to what it holds. -/
def unwrapFences (t : Text) : Text :=
  match _ : splitFence t with
  | none => t
  | some (front, behind) =>
    match _ : splitFence (dropFenceHead behind) with
    | none => t
    | some (body, rest) => front ++ body ++ unwrapFences rest
termination_by t.length
decreasing_by
  have h1 := splitFence_length ‹splitFence t = some (front, behind)›
  have h2 := splitFence_length ‹splitFence (dropFenceHead behind) = some (body, rest)›
  have h3 := length_dropFenceHead_le behind
  omega

/-- Step 2: fence marks go, and with each the words behind it. -/
def dropFenceMarks (t : Text) : Text :=
  match _ : splitFence t with
  | none => t
  | some (front, behind) => front ++ dropFenceMarks (dropInfo behind)
termination_by t.length
decreasing_by
  have h1 := splitFence_length ‹splitFence t = some (front, behind)›
  have h2 : (dropInfo behind).length ≤ behind.length := (List.dropWhile_sublist _).length_le
  omega

/-- Step 3: single backticks go. -/
def dropBackticks (t : Text) : Text := t.filter fun c => !isBacktick c

/-! ## Openings -/

/-- The text behind an opening mark with which it begins. -/
def dropOpening (t : Text) : Option Text :=
  match t with
  | '/' :: '*' :: '*' :: rest => some rest
  | _ => none

theorem dropOpening_length {t rest : Text} (h : dropOpening t = some rest) :
    rest.length + 3 = t.length := by
  unfold dropOpening at h
  split at h
  · simp_all
  · simp at h

/-- The text behind two opening marks with nothing but blanks between them. -/
def dropDoubled (t : Text) : Option Text :=
  (dropOpening t).bind fun rest => dropOpening (Blank.trimLeft rest)

theorem dropDoubled_length {t rest : Text} (h : dropDoubled t = some rest) :
    rest.length + 6 ≤ t.length := by
  obtain ⟨behind, hb, hr⟩ := Option.bind_eq_some_iff.1 h
  have h1 := dropOpening_length hb
  have h2 := dropOpening_length hr
  have h3 : (Blank.trimLeft behind).length ≤ behind.length := (List.dropWhile_sublist _).length_le
  omega

/-- Step 4: of two openings in a row one is left. -/
def mergeOpenings (t : Text) : Text :=
  match t with
  | [] => []
  | c :: rest =>
    match _ : dropDoubled (c :: rest) with
    | some behind => opening ++ mergeOpenings behind
    | none => c :: mergeOpenings rest
termination_by t.length
decreasing_by
  · have := dropDoubled_length ‹dropDoubled (c :: rest) = some behind›
    simp only [List.length_cons] at *
    omega
  · simp

/-! ## Names of languages -/

/-- The names that models write in front of a block. -/
def languageNames : List Text :=
  ["javascript", "typescript", "jsx", "tsx", "js", "ts", "jsdoc", "tsdoc"].map String.toList

/-- Whether a character is a given small letter, in capitals or not: long `s` and dotless `i` too. -/
def isLetter (letter c : Char) : Bool :=
  c.toLower == letter || (letter == 's' && c == '\u017f')
    || (letter == 'i' && (c == '\u0130' || c == '\u0131'))

/-- The text behind a word with which it begins, in capitals or not. -/
def dropWord : Text → Text → Option Text
  | [], t => some t
  | _ :: _, [] => none
  | letter :: word, c :: rest => if isLetter letter c then dropWord word rest else none

/-- The text behind a line end, or the text itself if it begins with an opening. -/
def dropNameEnd (t : Text) : Option Text :=
  match t with
  | '\n' :: rest => some rest
  | '\r' :: '\n' :: rest => some rest
  | _ => if opens t then some t else none

/-- Step 5: a language's name goes that is alone on the first line or stands before an opening. -/
def dropLanguage (t : Text) : Text :=
  (languageNames.findSome? fun name =>
    (dropWord name (Blank.trimLeft t)).bind fun rest => dropNameEnd (rest.dropWhile isSpaceOrTab)).getD t

/-! ## The whole -/

/-- Adds the marks that are missing. -/
def enclose (core : Text) : Text :=
  let opened := if opens core then core else opening ++ '\n' :: core
  if closes opened then opened else opened ++ '\n' :: ' ' :: closing

/-- What the first five steps and trimming leave of an answer. -/
def core (t : Text) : Text :=
  Blank.trim (dropLanguage (mergeOpenings (dropBackticks (dropFenceMarks (unwrapFences t)))))

/-- The comment block in an answer. -/
def clean (t : Text) : Text := enclose (core t)

end DocWeave.Comment
