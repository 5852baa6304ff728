import DocWeave.Decimal.Reading
import DocWeave.Text.Pieces
import DocWeave.Yaml.Composer

/-!
# Values of YAML nodes

A node becomes a value by its kind. In a mapping the last value of a key counts, in the place where
the key comes first, and numbers that are equal are one key. What is merged into a mapping gives way
to its own entries.
-/

namespace DocWeave.Yaml

/-! ## Problems -/

/-- Why a text has no value. -/
inductive Problem where
  | malformed
  /-- No whole number to the base. -/
  | noWhole (base : Nat) (text : Text)
  | tooLong (digits : Nat)
  | noReal (text : Text)
  | noFlag (text : Text)
  | noStamp
  | badStamp (why : Text)
  | emptyNumber
deriving DecidableEq, Inhabited

namespace Problem

/-- What is wrong. Some problems have no words. -/
def message : Problem → Text
  | noWhole base t =>
    ("invalid literal for int() with base " ++ toString base ++ ": ").toList ++ Printed.quoted t
  | tooLong digits =>
    ("Exceeds the limit (" ++ toString Decimal.digitLimit
      ++ " digits) for integer string conversion: value has " ++ toString digits
      ++ " digits; use sys.set_int_max_str_digits() to increase the limit").toList
  | noReal t => "could not convert string to float: ".toList ++ Printed.quoted t
  | noFlag t => Printed.quoted t
  | badStamp why => why
  | emptyNumber => "string index out of range".toList
  | malformed => []
  | noStamp => []

end Problem

/-! ## Scalars -/

def decimalWhole (t : Text) : Except Problem Int :=
  let body := Decimal.trimMargins t
  match Decimal.bareWhole? body with
  | some n => .ok n
  | none =>
    let ds := (Decimal.takeDigits (Decimal.takeSign body).2).1
    .error (if Decimal.digitLimit < ds.length then .tooLong ds.length else .noWhole 10 t)

/-- The text behind the mark of a base, with which digits to this base may begin. -/
def dropBaseMark (base : Nat) : Text → Text
  | '0' :: c :: rest =>
    if (base, c.toLower) ∈ [(2, 'b'), (8, 'o'), (16, 'x')] then rest else '0' :: c :: rest
  | t => t

/-- A whole number to a base. -/
def wholeOfBase (base : Nat) (t : Text) : Except Problem Int :=
  let (negative, body) := Decimal.takeSign (Decimal.trimMargins t)
  let digit? (c : Char) : Option Nat := (Digit.value? c).or (Digit.hexValue? c)
  match (dropBaseMark base body).mapM fun c => (digit? c).filter (· < base) with
  | some (d :: ds) =>
    let n : Nat := (d :: ds).foldl (fun n d => base * n + d) 0
    .ok (if negative then -(n : Int) else n)
  | _ => .error (.noWhole base t)

/-- A number of digits to base sixty. -/
def sixties (parts : List Int) : Int := parts.foldl (fun n d => 60 * n + d) 0

/-- A whole number without its sign. -/
def magnitude (t : Text) : Except Problem Int :=
  match t with
  | [] => .error .emptyNumber
  | ['0'] => .ok 0
  | '0' :: 'b' :: rest => wholeOfBase 2 rest
  | '0' :: 'x' :: rest => wholeOfBase 16 rest
  | '0' :: _ => wholeOfBase 8 t
  | _ =>
    if t.contains ':' then ((Pieces.split ':' t).mapM decimalWhole).map sixties
    else decimalWhole t

/-- Takes a sign off, reads the rest and puts the sign on again. -/
def signed {α : Type} [Neg α] (read : Text → Except Problem α) : Text → Except Problem α
  | [] => .error .emptyNumber
  | '-' :: rest => (read rest).map (- ·)
  | '+' :: rest => read rest
  | t => read t

def loadInt (t : Text) : Except Problem Value :=
  (signed magnitude (t.filter (· != '_'))).map .int

def real (t : Text) : Except Problem Float :=
  match Decimal.real? t with
  | some x => .ok x
  | none => .error (.noReal t)

/-- The sum of parts to base sixty, added up from the last one. -/
def realSixties (parts : List Float) : Float :=
  (parts.reverse.foldl (fun (acc : Float × Nat) d =>
    (acc.1 + d * Float.ofInt acc.2, 60 * acc.2)) (0.0, 1)).1

def realMagnitude (t : Text) : Except Problem Float :=
  if t = ".inf".toList then .ok (Float.ofBits 0x7ff0000000000000)
  else if t = ".nan".toList then .ok (Float.ofBits 0x7ff8000000000000)
  else if t.contains ':' then ((Pieces.split ':' t).mapM real).map realSixties
  else real t

def loadFloat (t : Text) : Except Problem Value :=
  (signed realMagnitude ((t.filter (· != '_')).map Char.toLower)).map .float

def loadBool (t : Text) : Except Problem Value :=
  let word := t.map Char.toLower
  if Plain.isAny ["yes", "true", "on"] word then .ok (.bool true)
  else if Plain.isAny ["no", "false", "off"] word then .ok (.bool false)
  else .error (.noFlag word)

def loadStamp (t : Text) : Except Problem Value :=
  match Stamp.ofText? t with
  | none => .error .noStamp
  | some s =>
    match s.problem? with
    | some why => .error (.badStamp why)
    | none => .ok s.value

def loadScalar (kind : Kind) (t : Text) : Except Problem Value :=
  match kind with
  | .null => .ok .null
  | .bool => loadBool t
  | .int => loadInt t
  | .float => loadFloat t
  | .text => .ok (.text t)
  | .stamp => loadStamp t
  | _ => .error .malformed

/-! ## Keys -/

/-- A finite number as a whole number times a power of two. -/
def dyadic? : Value → Option (Int × Int)
  | .bool b => some (if b then 1 else 0, 0)
  | .int n => some (n, 0)
  | .float x =>
    match Binary64.parts x with
    | .finite negative m e => some (if negative then -(m : Int) else m, e)
    | _ => none
  | _ => none

/-- Whether two values are one key. -/
def sameKey (a b : Value) : Bool :=
  match dyadic? a, dyadic? b with
  | some (m, e), some (n, f) =>
    let low := min e f
    m * Int.ofNat (Decimal.twoTo (e - low).toNat) == n * Int.ofNat (Decimal.twoTo (f - low).toNat)
  | none, none =>
    match a, b with
    | .float x, .float y => Binary64.parts x == Binary64.parts y
    | .text s, .text t => s == t
    | .stamp _ s, .stamp _ t => s == t
    | .null, .null => true
    | _, _ => false
  | _, _ => false

/-- Collections are no keys. -/
def isKey : Value → Bool
  | .list _ => false
  | .map _ => false
  | _ => true

/-- Sets the value of a key. -/
def insert (key value : Value) : List (Value × Value) → List (Value × Value)
  | [] => [(key, value)]
  | (k, v) :: rest => if sameKey k key then (k, value) :: rest else (k, v) :: insert key value rest

/-- Entries with one value for each key. -/
def unique (entries : List (Value × Value)) : List (Value × Value) :=
  entries.foldl (fun done e => insert e.1 e.2 done) []

/-! ## Nodes -/

def isMerge : Node → Bool
  | .scalar .merge _ => true
  | _ => false

/-- The entries of what is merged: of a mapping, or of mappings, the first of which has its way. -/
def mergedEntries : Value → Option (List (Value × Value))
  | .map entries => some entries
  | .list items =>
    let each (v : Value) : Option (List (Value × Value)) := match v with
      | .map entries => some entries
      | _ => none
    (items.mapM each).map fun all => all.reverse.flatten
  | _ => none

/-- An entry of a mapping that is merged into it, or one of its own. -/
inductive Part where
  | merged (entries : List (Value × Value))
  | own (key value : Value)

/-- The entries of a mapping, the merged ones in front. -/
def assemble (parts : List Part) : Value :=
  let merged := parts.flatMap fun
    | .merged entries => entries
    | .own _ _ => []
  let own := parts.filterMap fun
    | .merged _ => none
    | .own k v => some (k, v)
  .map (unique (merged ++ own))

/-- The value of a node. -/
def load : Node → Except Problem Value
  | .scalar kind t => loadScalar kind t
  | .sequence kind items =>
    if kind = .sequence then do
      let vs ← items.attach.mapM fun ⟨n, _⟩ => load n
      return .list vs
    else .error .malformed
  | .mapping kind entries =>
    if kind = .mapping then do
      let parts ← entries.attach.mapM fun ⟨(k, v), _⟩ => do
        if isMerge k then
          match mergedEntries (← load v) with
          | some es => return Part.merged es
          | none => throw Problem.malformed
        else
          let key ← match k with
            | .scalar .whole t => pure (Value.text t)
            | _ => load k
          if isKey key then return Part.own key (← load v) else throw Problem.malformed
      return assemble parts
    else .error .malformed
termination_by n => sizeOf n
decreasing_by
  all_goals
    have := List.sizeOf_lt_of_mem ‹_›
    simp only [Node.sequence.sizeOf_spec, Node.mapping.sizeOf_spec, Prod.mk.sizeOf_spec] at *
    omega

/-- The value of the document that a text holds. A text without one holds nothing. -/
def read (t : Text) : Except Problem Value :=
  match document? t with
  | none => .error .malformed
  | some none => .ok .null
  | some (some n) => load n

end DocWeave.Yaml
