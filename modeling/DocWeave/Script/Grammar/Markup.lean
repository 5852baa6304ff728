import DocWeave.Script.Grammar.Expression

/-!
# Markup

Elements in a script: tags with attributes, and between them text, references, further elements and
expressions in braces. The name behind a closing tag need not be the one that was opened.
-/

namespace DocWeave.Script.Part

def tagPart : Part :=
  .first [.token .hyphenName, nameExcept []]

/-- A name, a name in a name space, or a name with names behind points. -/
def tagName : Part :=
  .seq [tagPart, .first [
    .seq [mark ":", tagPart],
    .many (.seq [mark ".", nameExcept []])]]

def embedded : Part :=
  brackets "\x7b" (maybe (.first [
    .seq [mark "...", .goal .expression],
    .goal .expressions])) "\x7d"

def tagAttribute : Part :=
  .first [
    embedded,
    .seq [tagPart, maybe (.seq [mark ":", tagPart]), maybe (.seq [mark "=", .first [
      .token .attributeString, embedded, .goal .element]])]]

def element (l : Language) : Part :=
  let child : Part := .first [
    .token .markupText, .token .reference, .goal .element, embedded]
  .node "jsx_element" (.seq [mark "<", .first [
    .seq ([tagName] ++ inTyped l [maybe (.goal .typeArguments)] ++ [.many tagAttribute,
      .first [
        piece "/>",
        .seq [piece ">", .many child, piece "</", tagName, piece ">"]]]),
    .seq [piece ">", .many child, piece "</", piece ">"]]])

end DocWeave.Script.Part
