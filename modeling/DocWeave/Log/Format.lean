import DocWeave.Log
import DocWeave.Log.Layout
import DocWeave.Text.CharClass

/-!
# How an entry is written

A format is a text with fields in it. A field names a part of the record that is made of an entry when
it is logged: of what the entry says, and of when and where this was. It also says how the part is
laid out: how wide it is, on which side it is filled up, how much of it is shown.
-/

namespace DocWeave.Log

/-! ## When and where -/

/-- Seconds that a clock can tell. -/
abbrev Seconds := { x : Float // (Binary64.parts x).isFinite = true }

instance : Inhabited Seconds := ⟨⟨0.0, by decide⟩⟩

/-- When and where an entry is logged. -/
structure Moment where
  /-- The time as it is written. -/
  asctime : Text := []
  created : Seconds := default
  /-- The thousandths of a second of this time. -/
  msecs : Seconds := default
  /-- The time since the beginning, in thousandths of a second. -/
  relativeCreated : Seconds := default
  pathname : Text := []
  filename : Text := []
  module : Text := []
  lineno : UInt32 := 0
  funcName : Text := []
  thread : UInt64 := 0
  threadName : Text := "MainThread".toList
  process : UInt32 := 0
  processName : Text := "MainProcess".toList
deriving Inhabited

/-- Tells when and where entries are logged, one after the other. -/
structure Clock where
  reading : Nat → Moment
deriving Inhabited

/-- A clock that stands still. -/
instance : Coe Text Clock := ⟨fun asctime => ⟨fun _ => { asctime }⟩⟩

/-! ## Records -/

/-- The parts of the record that is made of an entry, by their names. -/
def Entry.parts (e : Entry) (m : Moment) : List (String × Part) := [
  ("name", .text e.source.toList), ("msg", .text e.template), ("args", .object e.arguments),
  ("levelname", .text e.level.word.toList), ("levelno", .number e.level.rank),
  ("pathname", .text m.pathname), ("filename", .text m.filename), ("module", .text m.module),
  ("exc_info", .object "None".toList), ("exc_text", .object "None".toList),
  ("stack_info", .object "None".toList), ("lineno", .number m.lineno.toNat),
  ("funcName", .text m.funcName), ("created", .real m.created), ("msecs", .real m.msecs),
  ("relativeCreated", .real m.relativeCreated), ("thread", .number m.thread.toNat),
  ("threadName", .text m.threadName), ("processName", .text m.processName),
  ("process", .number m.process.toNat), ("message", .text e.message), ("asctime", .text m.asctime)]

/-- The part with a name. -/
def Entry.part? (e : Entry) (m : Moment) (name : Text) : Option Part :=
  ((e.parts m).find? fun p => p.1.toList == name).map (·.2)

/-- The record as it is printed. The time is a part of it only if it has been asked for. -/
def Entry.record (e : Entry) (m : Moment) (timed : Bool) : Part :=
  let parts := (e.parts m).filter fun p => timed || p.1 != "asctime"
  let members := parts.map fun p => Printed.quoted p.1.toList ++ [':', ' '] ++ p.2.printed
  .object ('\x7b' :: [',', ' '].intercalate members ++ ['\x7d'])

inductive Piece where
  | char (c : Char)
  | field (name : Text) (layout : Layout)
  /-- A field that has no name. It stands for the whole record. -/
  | record (layout : Layout)
deriving DecidableEq

namespace Format

/-! ## Reading formats -/

def isFlag (c : Char) : Bool := ['#', '0', '+', ' ', '-'].contains c

/-- The letters for the kinds of fields. The last three are taken for `s` and `i`, where a letter may be
a capital. -/
def kinds : List Char := "diouxefgcrsa%ſıİ".toList

/-- Whether a field is laid out at the head of a text, behind its name. -/
def isLayout (t : Text) : Bool :=
  let number (t : Text) : Option Text := match t with
    | '*' :: rest => some rest
    | c :: _ => if (Digit.value? c).isSome then some (t.dropWhile fun c => (Digit.value? c).isSome)
      else none
    | [] => none
  let t := t.dropWhile isFlag
  let t := (number t).getD t
  let t := match t with
    | '.' :: rest => (number rest).getD t
    | _ => t
  t.head?.any fun c => kinds.contains c.toLower

/-- Whether a field stands at the head of a text. -/
def isField : Text → Bool
  | '%' :: '(' :: rest =>
    let name := rest.takeWhile WordChar.isWordChar
    match rest.dropWhile WordChar.isWordChar with
    | ')' :: after => !name.isEmpty && isLayout after
    | _ => false
  | _ => false

/-- Whether there is a field in a text. A format without one is refused. -/
def hasField : Text → Bool
  | [] => false
  | c :: rest => isField (c :: rest) || hasField rest

def takeNumber (t : Text) : Nat × Text :=
  ((t.takeWhile Char.isDigit).foldl (fun n d => 10 * n + (d.toNat - 0x30)) 0,
    t.dropWhile Char.isDigit)

/-- A name up to the parenthesis that closes it; there may be others in it. -/
def takeName : Nat → Text → Option (Text × Text)
  | _, [] => none
  | depth, c :: rest =>
    if c = ')' ∧ depth = 0 then some ([], rest)
    else
      let depth := if c = '(' then depth + 1 else if c = ')' then depth - 1 else depth
      (takeName depth rest).map fun (name, after) => (c :: name, after)

/-- How a field is laid out, and what follows it. -/
def takeLayout (t : Text) : Option (Layout × Text) :=
  let flags := t.takeWhile isFlag
  let (width, t) := takeNumber (t.dropWhile isFlag)
  let (precision, t) := match t with
    | '.' :: rest =>
      let (n, rest) := takeNumber rest
      (some n, rest)
    | _ => (none, t)
  let t := match t with
    | c :: rest => if c = 'h' ∨ c = 'l' ∨ c = 'L' then rest else t
    | [] => t
  match t with
  | kind :: rest => some (⟨flags, width, precision, kind⟩, rest)
  | [] => none

/-- The pieces of a format. Only the first field may be without a name. -/
def pieces : Nat → Bool → Text → Option (List Piece)
  | _, _, [] => some []
  | 0, _, _ => none
  | fuel + 1, first, '%' :: rest =>
    match rest with
    | '(' :: more => do
      let (name, after) ← takeName 0 more
      let (layout, after) ← takeLayout after
      return .field name layout :: (← pieces fuel false after)
    | '%' :: more => (pieces fuel first more).map (.char '%' :: ·)
    | _ => do
      let (layout, after) ← if first then takeLayout rest else none
      return .record layout :: (← pieces fuel false after)
  | fuel + 1, first, c :: rest => (pieces fuel first rest).map (.char c :: ·)

def ofText? (t : Text) : Option (List Piece) := pieces t.length true t

/-- Whether a format asks for the time. -/
def asksTime : Text → Bool
  | [] => false
  | c :: rest => "%(asctime)".toList.isPrefixOf (c :: rest) || asksTime rest

/-! ## Filling -/

/-- What a piece of a format stands for. -/
def fill? (timed : Bool) (m : Moment) (e : Entry) : Piece → Option Text
  | .char c => some [c]
  | .field name layout => (e.part? m name).bind layout.lay?
  | .record layout => layout.lay? (e.record m timed)

/-- An entry as a line; `none` if the format asks for what there is not. -/
def line? (format : Text) (m : Moment) (e : Entry) : Option Text :=
  (ofText? format).bind fun pieces =>
    (pieces.mapM (fill? (asksTime format) m e)).map List.flatten

end Format

end DocWeave.Log
