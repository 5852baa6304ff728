import DocWeave.Text.CharClass
import DocWeave.Text.Encoding
import DocWeave.Yaml.Block

/-!
# Marks

Names of anchors, tags, and the directives in front of a document.
-/

namespace DocWeave.Yaml

/-! ## Names -/

/-- The name of an anchor or of what refers to one. -/
def anchorName? (t : Text) : Option (Text × Text) :=
  let name := t.takeWhile isNameChar
  let rest := t.dropWhile isNameChar
  let ends := endsWord rest.head?
    || rest.head?.any ['?', ':', ',', ']', '\x7d', '%', '@', '\x60'].contains
  if name.isEmpty || !ends then none else some (name, rest)

/-! ## Tags -/

/-- A tag as it is written: an abbreviation, if there is one, and what follows it. -/
structure Tag where
  handle : Option Text
  suffix : Text
deriving DecidableEq

def isTagChar (c : Char) : Bool :=
  c.isAlphanum || "-;/?:@&=+$,_.!~*'()[]%".toList.contains c

/-- Bytes that are written by their numbers, each behind a per cent sign. -/
def takeNumbered? : Text → Option (Bytes × Text)
  | '%' :: a :: b :: rest =>
    match Digit.hexValue? a, Digit.hexValue? b with
    | some m, some n =>
      (takeNumbered? rest).map fun (bytes, rest) => (UInt8.ofNat (16 * m + n) :: bytes, rest)
    | _, _ => none
  | '%' :: _ => none
  | t => some ([], t)

/-- The characters that a tag is made of, some of which are written by their bytes. -/
def tagText? (t : Text) : Option (Text × Text) :=
  match t with
  | [] => some ([], [])
  | c :: rest =>
    if c = '%' then
      match takeNumbered? (c :: rest) with
      | none => none
      | some (bytes, after) =>
        if _h : after.length < rest.length + 1 then
          (Encoding.decode bytes).toOption.bind fun own =>
            (tagText? after).map fun (more, after) => (own ++ more, after)
        else none
    else if isTagChar c then (tagText? rest).map fun (more, after) => (c :: more, after)
    else some ([], c :: rest)
termination_by t.length

/-- The text of a tag, which is not empty. -/
def takeTagText? (t : Text) : Option (Text × Text) :=
  if (t.head?.map isTagChar).getD false then tagText? t else none

/-- An abbreviation: a mark, or a name between two marks. -/
def takeHandle? : Text → Option (Text × Text)
  | '!' :: rest =>
    if rest.head? = some ' ' then some (['!'], rest)
    else
      match rest.dropWhile isNameChar with
      | '!' :: after => some ('!' :: rest.takeWhile isNameChar ++ ['!'], after)
      | _ => none
  | _ => none

/-- Whether a word has another mark in it. -/
def hasHandle (t : Text) : Bool := (t.takeWhile fun c => !(isBreak c || c == ' ')).contains '!'

/-- The tag behind its mark. -/
def tag? (t : Text) : Option (Tag × Text) :=
  let read : Option (Tag × Text) := match t with
    | '<' :: rest =>
      match takeTagText? rest with
      | some (text, '>' :: after) => some (⟨none, text⟩, after)
      | _ => none
    | _ =>
      if endsWord t.head? then some (⟨none, ['!']⟩, t)
      else if hasHandle t then
        (takeHandle? ('!' :: t)).bind fun (handle, after) =>
          (takeTagText? after).map fun (text, after) => (⟨some handle, text⟩, after)
      else (takeTagText? t).map fun (text, after) => (⟨some ['!'], text⟩, after)
  read.filter fun (_, after) => endsMark after.head?

/-! ## Directives -/

inductive Directive where
  /-- The version; only its first number counts. -/
  | version (major : Nat)
  | handle (name meaning : Text)
  | other
deriving DecidableEq

def ofDigits (ds : Text) : Nat := ds.foldl (fun n d => 10 * n + (d.toNat - 0x30)) 0

def version? (t : Text) : Option (Directive × Text) :=
  let t := t.dropWhile (· == ' ')
  let major := t.takeWhile Char.isDigit
  match t.dropWhile Char.isDigit with
  | '.' :: after =>
    let minor := after.takeWhile Char.isDigit
    let rest := after.dropWhile Char.isDigit
    if major.isEmpty || minor.isEmpty || !endsMark rest.head? then none
    else some (.version (ofDigits major), rest)
  | _ => none

def handleDirective? (t : Text) : Option (Directive × Text) :=
  (takeHandle? (t.dropWhile (· == ' '))).bind fun (handle, after) =>
    if after.head? ≠ some ' ' then none
    else
      (takeTagText? (after.dropWhile (· == ' '))).bind fun (text, rest) =>
        if endsMark rest.head? then some (.handle handle text, rest) else none

/-- The directive behind its mark, and what follows its line. -/
def directive? (t : Text) : Option (Directive × Text) :=
  let name := t.takeWhile isNameChar
  let rest := t.dropWhile isNameChar
  if name.isEmpty || !endsMark rest.head? then none
  else
    let read :=
      if name = "YAML".toList then version? rest
      else if name = "TAG".toList then handleDirective? rest
      else some (.other, rest.dropWhile fun c => !isBreak c)
    read.bind fun (d, rest) => (Block.endLine? rest).map fun rest => (d, rest)

end DocWeave.Yaml
