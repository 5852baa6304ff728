import DocWeave.Comment.Cleaning
import DocWeave.Text.Printed

/-!
# Accepting an answer

An answer is accepted if, once cleaned, it is one comment block: what follows the first closing mark
would be read as code.
-/

namespace DocWeave.Comment

/-- Why an answer is not accepted. Blocks are told by their first characters. -/
inductive Rejection where
  | empty
  | malformed (head : Text)
  | closesEarly (head : Text)
deriving DecidableEq

def Rejection.message : Rejection → Text
  | empty => "Model returned an empty response".toList
  | malformed head => "Malformed comment block: ".toList ++ Printed.quoted head
  | closesEarly head => "Comment block closes before its end: ".toList ++ Printed.quoted head

/-- The number of characters before the first closing mark. -/
def closingIndex? : Text → Option Nat
  | [] => none
  | c :: rest =>
    if closing.isPrefixOf (c :: rest) then some 0 else (closingIndex? rest).map (· + 1)

/-- Whether a block's first closing mark ends it. The second star of the opening can close it. -/
def closesAtEnd (block : Text) : Bool :=
  (closingIndex? (block.drop 2)).map (· + 2 + closing.length) == some block.length

/-- The first characters of a block. -/
def head (block : Text) : Text := block.take 60

/-- The comment block in an answer, if the answer is one. -/
def accept (answer : Text) : Except Rejection Text :=
  if Blank.trim answer = [] then .error .empty
  else
    let block := clean answer
    if !isBlock block then .error (.malformed (head block))
    else if !closesAtEnd block then .error (.closesEarly (head block))
    else .ok block

end DocWeave.Comment
