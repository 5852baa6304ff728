import DocWeave.Log
import DocWeave.Sorting
import DocWeave.Span
import DocWeave.Text.Printed

/-!
# Splicing comments into a text

The comment of the file and an empty line go in front of the text, and every block goes on lines of
its own in front of its span. The blocks are put in one after the other in the order of their spans;
a running offset, the length of all that has been put in, leads from a place in the text to the place
in what the text has become.
-/

namespace DocWeave

/-- A block and the span in front of which it goes. -/
structure Placement where
  span : Span
  block : Text
deriving DecidableEq, Inhabited

namespace Splice

/-- What stands between the comment of the file and the text. -/
def fileSeparator : Text := ['\n', '\n']

/-- What stands behind a block. -/
def blockSeparator : Text := ['\n']

/-- A span that starts outside of the text. -/
structure Misplaced where
  name : Option Text
  start : Int
  /-- The length of the text. -/
  length : Nat
deriving DecidableEq

def Misplaced.message (m : Misplaced) : Text :=
  let name := match m.name with
    | some n => Printed.quoted n
    | none => "None".toList
  "Span ".toList ++ name ++ " starts at ".toList ++ (toString m.start).toList
    ++ ", outside text of length ".toList ++ (toString m.length).toList

/-- Placements in the order of their starts; those that start at one place keep their order. -/
def order (placements : List Placement) : List Placement :=
  Sorting.sort (fun p q => p.span.start ≤ q.span.start) placements

/-- A text with another text put in at a place. -/
def insertAt (place : Nat) (piece result : Text) : Text :=
  result.take place ++ piece ++ result.drop place

/-- Puts blocks into `result`, which is `length` characters with `offset` more put in so far. -/
def insertAll (length : Nat) : Nat → Text → List Placement → Except Misplaced Text
  | _, result, [] => .ok result
  | offset, result, p :: rest =>
    if 0 ≤ p.span.start ∧ p.span.start ≤ length then
      let piece := p.block ++ blockSeparator
      insertAll length (offset + piece.length)
        (insertAt (p.span.start.toNat + offset) piece result) rest
    else .error ⟨p.span.name, p.span.start, length⟩

/-- The text with the comment of the file and all blocks. -/
def splice (text fileComment : Text) (placements : List Placement) : Except Misplaced Text :=
  insertAll text.length (fileComment.length + fileSeparator.length)
    (fileComment ++ fileSeparator ++ text) (order placements)

/-- What is logged when `count` blocks have been put in. -/
def entry (count : Nat) : Log.Entry :=
  Log.Source.splicing.entry .debug
    ["Spliced ", .number count, " blocks plus file documentation"]

end Splice

end DocWeave
