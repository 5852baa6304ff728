import DocWeave.Log
import DocWeave.Span
import DocWeave.Script.Grammar
import DocWeave.Sorting
import DocWeave.Text.Blank
import DocWeave.Text.Lines
import DocWeave.Text.Printed

/-!
# Finding the spans of a script

Four constructs get a comment: function declarations, arrow functions that a declarator names, and
methods of classes and of objects. Each has an anchor, the node in front of which its comment
stands: an `export` around a function, the declaration around a single declarator, the first of the
decorators in front of a method. The span is what the anchor covers.

A script is read in the language it is asked for. What plain JavaScript refuses is read once more
with types and markup, so annotated scripts are found too.
-/

namespace DocWeave

open Script

/-! ## Reading -/

/-- What a reader makes of a script. -/
inductive Reading where
  /-- A tree, perhaps with faults in it. -/
  | tree (root : Tree) (faulty : Bool)
  /-- No script of the language; where it leaves the language is not told. -/
  | refused
deriving Inhabited

namespace Reading

def isFaulty : Reading → Bool
  | tree _ faulty => faulty
  | refused => true

/-- The reading of a text by the language's grammar. -/
def ofText (text : Text) (l : Language) : Reading :=
  match l.tree? text with
  | some root => tree root false
  | none => refused

end Reading

/-- Something that reads scripts of every language. -/
abbrev Reader := Text → Language → Reading

/-! ## Constructs and their anchors -/

namespace Script.Focus

/-- The export around a declaration, or the declaration. -/
def exported (f : Focus) : Focus :=
  match f.parent? with
  | some p => if p.kind = "export_statement" then p else f
  | none => f

/-- The declaration around its only declarator, or the declarator. -/
def declarationAnchor (declarator : Focus) : Focus :=
  match declarator.parent? with
  | none => declarator
  | some d =>
    if d.kind = "lexical_declaration" ∨ d.kind = "variable_declaration" then
      let names := d.tree.children.filter fun c => c.label.named && c.kind == "variable_declarator"
      if names.length = 1 then d.exported else declarator
    else declarator

/--
The first of an unbroken row of decorators. `before` and `tree :: after` are the siblings on both
sides of the place that has been reached; nodes without a name do not break the row.
-/
def firstDecorator (parent : Label) (above : List Frame) (anchor : Focus) (tree : Tree)
    (after : List Tree) : List Tree → Focus
  | [] => anchor
  | c :: before =>
    if c.label.named then
      if c.kind = "decorator" then
        firstDecorator parent above ⟨c, ⟨parent, before, tree :: after⟩ :: above⟩ c (tree :: after)
          before
      else anchor
    else firstDecorator parent above anchor c (tree :: after) before

/-- The first of the decorators in front of a method, or the method. -/
def decorated (f : Focus) : Focus :=
  match f.above with
  | [] => f
  | fr :: above => firstDecorator fr.parent above f f.tree fr.after fr.before

end Script.Focus

/-- Something that gets a comment: what names it, what it is, and where the comment stands. -/
structure Construct where
  name : Tree
  kind : SpanKind
  anchor : Focus

namespace Construct

/-- The construct at a place, if there is one. -/
def at? (f : Focus) : Option Construct :=
  if f.kind = "function_declaration" ∨ f.kind = "generator_function_declaration" then
    (f.tree.child? "name").map fun name => ⟨name, .function, f.exported⟩
  else if f.kind = "variable_declarator" then
    match f.tree.child? "name", f.tree.child? "value" with
    | some name, some value =>
      if name.kind = "identifier" ∧ value.kind = "arrow_function" then
        some ⟨name, .arrowFunction, f.declarationAnchor⟩
      else none
    | _, _ => none
  else if f.kind = "method_definition" then
    match f.above with
    | [] => none
    | fr :: _ =>
      let kind? := if fr.parent.kind = "class_body" then some SpanKind.classMethod
        else if fr.parent.kind = "object" then some .objectMethod
        else none
      match kind?, f.tree.child? "name" with
      | some kind, some name => some ⟨name, kind, f.decorated⟩
      | _, _ => none
  else none

/-- All constructs of a tree in the order of the visit. -/
def all (root : Tree) : List Construct := (Focus.visit root).filterMap at?

/-- Characters before a byte. Where all characters take one byte, the two counts are the same. -/
def index? (text : Text) (n : Nat) : Option Nat :=
  if Utf8.byteLength text = text.length then some n else Utf8.index? n text

/-- The span of a construct; `none` if a node begins or ends inside a character. -/
def span? (text : Text) (c : Construct) : Option Span := do
  let name ← Utf8.slice? c.name.label.start.offset c.name.label.stop text
  let start ← index? text c.anchor.label.start.offset
  let stop ← index? text c.anchor.label.stop
  some {
    name := some name
    kind := c.kind
    text := (text.drop start).take (stop - start)
    start := start
    stop := stop
    line := c.anchor.label.start.row + 1 }

end Construct

/-! ## Faults -/

namespace Fault

/-- The first line of what a text holds between blanks, cut to forty characters. -/
def firstLine (text : Text) : Text := (Lines.first (Blank.trim text)).take 40

def position (start : Place) : Text :=
  ("line " ++ toString (start.row + 1) ++ ", column " ++ toString (start.column + 1)).toList

/-- What is said of a missing or a faulty node; `none` for any other node. -/
def ofNode? (text : Text) (t : Tree) : Option (Option Text) :=
  if t.label.missing then
    some (some ("Missing ".toList ++ Printed.quoted t.kind.toList ++ " at ".toList
      ++ position t.label.start))
  else if t.label.error then
    some ((Utf8.slice? t.label.start.offset t.label.stop text).map fun own =>
      "Unexpected token ".toList ++ Printed.quoted (firstLine own) ++ " at ".toList
        ++ position t.label.start)
  else none

/-- What is said of a faulty reading; `none` if a node begins or ends inside a character. -/
def describe (text : Text) : Reading → Option Text
  | .refused => some "<syntax error>".toList
  | .tree root _ =>
    match (Focus.visit root).findSome? fun f => ofNode? text f.tree with
    | some message => message
    | none => some "Syntax error".toList

end Fault

/-! ## Spans of a script -/

/-- Why a script has no spans. -/
inductive ScriptError where
  /-- It is no script; the description says where, if the reader told. -/
  | malformed (description : Text)
  /-- A node of its tree begins or ends inside a character. -/
  | brokenNode
deriving DecidableEq

/-- The outcome of looking for spans: the languages tried, what was logged, and the spans. -/
structure Extraction where
  languages : List Language
  log : List Log.Entry
  result : Except ScriptError (List Span)

namespace Extraction

/-- The spans of a tree, in the order of their starts. -/
def ofTree (text : Text) (root : Tree) : Option (List Span) :=
  ((Construct.all root).mapM (Construct.span? text)).map fun spans =>
    Sorting.sort (fun s t => s.start ≤ t.start) spans

/-- The language whose reading counts, after those that were tried. -/
def choose (read : Language → Reading) (l : Language) : List Language × Reading × Bool :=
  let first := read l
  if first.isFaulty ∧ l = .javaScript then
    let second := read .tsx
    if second.isFaulty then ([l, .tsx], first, false) else ([l, .tsx], second, true)
  else ([l], first, false)

/-- Looks for the spans of a script of which `read` gives the readings. -/
def run (read : Language → Reading) (text : Text) (path : Text) (l : Language) : Extraction :=
  let (languages, reading, widened) := choose read l
  let parsed := if widened then
      [Log.Source.extraction.entry .debug ["Parsed ", .text path, " with the TSX grammar"]]
    else []
  match reading with
  | .tree root false =>
    match ofTree text root with
    | some spans =>
      let found := Log.Source.extraction.entry .debug
        ["Extracted ", .number spans.length, " spans from ", .text path]
      ⟨languages, parsed ++ [found], .ok spans⟩
    | none => ⟨languages, parsed, .error .brokenNode⟩
  | faulty =>
    match Fault.describe text faulty with
    | some message => ⟨languages, parsed, .error (.malformed message)⟩
    | none => ⟨languages, parsed, .error .brokenNode⟩

/-- The spans of a script by the grammar of its language. -/
def ofText (text path : Text) (l : Language) : Extraction := run (Reading.ofText text) text path l

end Extraction

end DocWeave
