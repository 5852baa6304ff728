import DocWeave.Value

/-!
# Dates and times of day

A date, or a date with a time of day and perhaps its distance from the common time. It is kept as a
value by its two texts.
-/

namespace DocWeave.Yaml

/-- Where a clock stands, by its distance from the common time in minutes. -/
inductive Zone where
  | unknown
  | offset (minutes : Int)
deriving DecidableEq

structure Clock where
  hour : Nat
  minute : Nat
  second : Nat
  /-- Millionths of a second. -/
  fraction : Nat
  zone : Zone

structure Stamp where
  year : Nat
  month : Nat
  day : Nat
  clock : Option Clock

namespace Stamp

/-! ## Reading -/

def ofDigits (ds : Text) : Nat := ds.foldl (fun n d => 10 * n + (d.toNat - 0x30)) 0

/-- A number of at least `least` and at most `most` digits, and what follows it. -/
def takeNumber? (least most : Nat) (t : Text) : Option (Nat × Text) :=
  let ds := (t.take most).takeWhile Char.isDigit
  if ds.length < least then none else some (ofDigits ds, t.drop ds.length)

def takeChar? (c : Char) : Text → Option Text
  | d :: rest => if c = d then some rest else none
  | [] => none

/-- The first six digits behind the point, filled up with zeros. -/
def millionths (ds : Text) : Nat := ofDigits ((ds ++ List.replicate 6 '0').take 6)

def isGap (c : Char) : Bool := c == ' ' || c == '\t'

/-- The distance from the common time at the end of a text. -/
def zone? (t : Text) : Option Zone :=
  match t.dropWhile isGap with
  | [] => if t.isEmpty then some .unknown else none
  | ['Z'] => some (.offset 0)
  | sign :: rest =>
    if sign = '+' ∨ sign = '-' then do
      let (hour, rest) ← takeNumber? 1 2 rest
      let minute ← match rest with
        | [] => some 0
        | ':' :: rest =>
          match takeNumber? 2 2 rest with
          | some (n, []) => some n
          | _ => none
        | _ => none
      let n : Int := hour * 60 + minute
      return .offset (if sign = '-' then -n else n)
    else none

/-- The time of day behind a date. -/
def clock? (t : Text) : Option Clock := do
  let (hour, t) ← takeNumber? 1 2 t
  let (minute, t) ← takeNumber? 2 2 (← takeChar? ':' t)
  let (second, t) ← takeNumber? 2 2 (← takeChar? ':' t)
  let (digits, t) := match t with
    | '.' :: rest => (rest.takeWhile Char.isDigit, rest.dropWhile Char.isDigit)
    | _ => ([], t)
  let zone ← zone? t
  return ⟨hour, minute, second, millionths digits, zone⟩

/-- A text that is a date. Only a date by itself needs two digits for its month and its day. -/
def ofText? (t : Text) : Option Stamp := do
  let (year, t) ← takeNumber? 4 4 t
  let (month, afterMonth) ← takeNumber? 1 2 (← takeChar? '-' t)
  let (day, rest) ← takeNumber? 1 2 (← takeChar? '-' afterMonth)
  match rest with
  | [] => return ⟨year, month, day, none⟩
  | c :: more =>
    let t ←
      if c = 'T' ∨ c = 't' then some more
      else if isGap c then some (more.dropWhile isGap)
      else none
    return ⟨year, month, day, some (← clock? t)⟩

/-- Whether a plain scalar is a date. -/
def isStamp (t : Text) : Bool :=
  match ofText? t with
  | some s => s.clock.isSome || t.length == 10
  | none => false

/-! ## Validity -/

def isLeap (year : Nat) : Bool := year % 4 == 0 && (year % 100 != 0 || year % 400 == 0)

def daysIn (year month : Nat) : Nat :=
  if month = 2 then if isLeap year then 29 else 28
  else if month = 4 ∨ month = 6 ∨ month = 9 ∨ month = 11 then 30
  else 31

/-- The text of a stretch of time. -/
def stretch (minutes : Int) : Text :=
  let days := minutes / 1440
  let seconds := minutes % 1440 * 60
  let piece (name : String) (n : Int) : List String := if n = 0 then [] else [name ++ "=" ++ toString n]
  let pieces := piece "days" days ++ piece "seconds" seconds
  ("datetime.timedelta(" ++ (if pieces.isEmpty then "0" else ", ".intercalate pieces) ++ ")").toList

/-- What is wrong with a distance from the common time. -/
def zoneProblem? (z : Zone) : Option Text :=
  match z with
  | .unknown => none
  | .offset minutes =>
    if 1440 ≤ minutes.natAbs then
      some ("offset must be a timedelta strictly between -timedelta(hours=24) and ".toList
        ++ "timedelta(hours=24), not ".toList ++ stretch minutes ++ ['.'])
    else none

/-- What is wrong with a date. -/
def problem? (s : Stamp) : Option Text :=
  let date : Option String :=
    if s.year = 0 then some "year 0 is out of range"
    else if s.month = 0 ∨ 12 < s.month then some "month must be in 1..12"
    else if s.day = 0 ∨ daysIn s.year s.month < s.day then some "day is out of range for month"
    else none
  match s.clock with
  | none => date.map String.toList
  | some c =>
    let time : Option String :=
      if 23 < c.hour then some "hour must be in 0..23"
      else if 59 < c.minute then some "minute must be in 0..59"
      else if 59 < c.second then some "second must be in 0..59"
      else none
    (zoneProblem? c.zone).or ((date.or time).map String.toList)

/-! ## Texts -/

/-- A number with zeros in front, as wide as asked for. -/
def padded (width n : Nat) : String :=
  let ds := toString n
  String.ofList (List.replicate (width - ds.length) '0') ++ ds

def zonePlain : Zone → String
  | .unknown => ""
  | .offset minutes =>
    (if minutes < 0 then "-" else "+") ++ padded 2 (minutes.natAbs / 60) ++ ":"
      ++ padded 2 (minutes.natAbs % 60)

def zoneShown : Zone → String
  | .unknown => ""
  | .offset minutes =>
    if minutes = 0 then ", tzinfo=datetime.timezone.utc"
    else ", tzinfo=datetime.timezone(" ++ String.ofList (stretch minutes) ++ ")"

def dateNumbers (s : Stamp) : String := ", ".intercalate ([s.year, s.month, s.day].map toString)

def value (s : Stamp) : Value :=
  let date := padded 4 s.year ++ "-" ++ padded 2 s.month ++ "-" ++ padded 2 s.day
  match s.clock with
  | none => .stamp date.toList ("datetime.date(" ++ s.dateNumbers ++ ")").toList
  | some c =>
    let time := " " ++ padded 2 c.hour ++ ":" ++ padded 2 c.minute ++ ":" ++ padded 2 c.second
      ++ (if c.fraction = 0 then "" else "." ++ padded 6 c.fraction)
    let numbers :=
      if c.fraction ≠ 0 then [c.hour, c.minute, c.second, c.fraction]
      else if c.second ≠ 0 then [c.hour, c.minute, c.second]
      else [c.hour, c.minute]
    .stamp (date ++ time ++ zonePlain c.zone).toList
      ("datetime.datetime(" ++ s.dateNumbers ++ ", " ++ ", ".intercalate (numbers.map toString)
        ++ zoneShown c.zone ++ ")").toList

end Stamp

end DocWeave.Yaml
