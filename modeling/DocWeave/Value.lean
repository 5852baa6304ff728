import DocWeave.Decimal.Reading
import DocWeave.Decimal.Shortest
import DocWeave.Text.Printed

/-!
# Loose values

Settings are written by hand, so a setting may hold any value: it is kept as it was given and looked
at where it is used. Only bytes, sets and rows of pairs, which a YAML text must name by their tags,
are left out. A value has two texts: its plain text, and the text that shows of what kind it is, in
which texts are quoted. Only a value that holds an overlong number has none.
-/

namespace DocWeave

inductive Value where
  | null
  | bool (b : Bool)
  | int (n : Int)
  | float (x : Float)
  | text (t : Text)
  /-- A date or a time of day, by its plain text and the text that shows its kind. -/
  | stamp (plain shown : Text)
  | list (items : List Value)
  /-- Keys and what they stand for, in the order in which they were given. -/
  | map (entries : List (Value × Value))
deriving Inhabited

namespace Value

/-- Texts with a comma between them. -/
def commas (ts : List Text) : Text := [',', ' '].intercalate ts

/-- The text that shows of what kind a value is. -/
def shown : Value → Text
  | null => "None".toList
  | bool true => "True".toList
  | bool false => "False".toList
  | int n => (toString n).toList
  | float x => Decimal.Shortest.text x
  | text t => Printed.quoted t
  | stamp _ s => s
  | list items => '[' :: commas (items.attach.map fun ⟨v, _⟩ => shown v) ++ [']']
  | map entries =>
    '\x7b' :: commas (entries.attach.map fun ⟨(k, v), _⟩ => shown k ++ [':', ' '] ++ shown v)
      ++ ['\x7d']
termination_by v => sizeOf v
decreasing_by
  · have := List.sizeOf_lt_of_mem ‹_›
    simp only [list.sizeOf_spec]
    omega
  · have := List.sizeOf_lt_of_mem ‹_›
    simp only [map.sizeOf_spec, Prod.mk.sizeOf_spec] at *
    omega
  · have := List.sizeOf_lt_of_mem ‹_›
    simp only [map.sizeOf_spec, Prod.mk.sizeOf_spec] at *
    omega

/-- The plain text of a value. -/
def plain : Value → Text
  | text t => t
  | stamp s _ => s
  | v => v.shown

@[simp] theorem plain_text (t : Text) : (text t).plain = t := rfl

theorem plain_bool (b : Bool) :
    (bool b).plain = if b then "True".toList else "False".toList := by
  cases b <;> simp [plain, shown]

/-- Whether a value can be written out: its whole numbers have no more digits than can be read. -/
def isWritable : Value → Bool
  | int n => (Nat.toDigits 10 n.natAbs).length ≤ Decimal.digitLimit
  | list items => items.attach.all fun ⟨v, _⟩ => isWritable v
  | map entries => entries.attach.all fun ⟨(k, v), _⟩ => isWritable k && isWritable v
  | _ => true
termination_by v => sizeOf v
decreasing_by
  · have := List.sizeOf_lt_of_mem ‹_›
    simp only [list.sizeOf_spec]
    omega
  · have := List.sizeOf_lt_of_mem ‹_›
    simp only [map.sizeOf_spec, Prod.mk.sizeOf_spec] at *
    omega
  · have := List.sizeOf_lt_of_mem ‹_›
    simp only [map.sizeOf_spec, Prod.mk.sizeOf_spec] at *
    omega

@[simp] theorem isWritable_bool (b : Bool) : (bool b).isWritable = true := by simp [isWritable]

@[simp] theorem isWritable_text (t : Text) : (text t).isWritable = true := by simp [isWritable]

/-- Whether a value counts as given: nothing, zero and what is empty do not. -/
def isGiven : Value → Bool
  | null => false
  | bool b => b
  | int n => n != 0
  | float x => !(x == 0)
  | text t => !t.isEmpty
  | stamp _ _ => true
  | list items => !items.isEmpty
  | map entries => !entries.isEmpty

end Value

end DocWeave
