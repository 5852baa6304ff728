import DocWeave.Text.Utf8

/-!
# Spans

A span is a stretch of a script that gets a comment of its own: the whole file, a function, an
arrow function or a method. It is known by the characters before its start and before its end.
-/

namespace DocWeave

/-- What a span holds. -/
inductive SpanKind where
  | file
  | function
  | arrowFunction
  | classMethod
  | objectMethod
deriving DecidableEq, Inhabited, Repr

namespace SpanKind

/-- The word that stands for the kind in reports. -/
def word : SpanKind → String
  | file => "file"
  | function => "function"
  | arrowFunction => "arrow_function"
  | classMethod => "class_method"
  | objectMethod => "object_method"

def all : List SpanKind := [file, function, arrowFunction, classMethod, objectMethod]

def ofWord? (w : String) : Option SpanKind := all.find? fun k => k.word == w

theorem ofWord?_word (k : SpanKind) : ofWord? k.word = some k := by
  cases k <;> decide

end SpanKind

/-- What a comment is about: a file as a whole or one function. -/
inductive DocKind where
  | file
  | function
deriving DecidableEq, Inhabited, Repr

namespace DocKind

def word : DocKind → String
  | file => "file"
  | function => "function"

def ofWord? (w : String) : Option DocKind := [file, function].find? fun k => k.word == w

end DocKind

/-- A stretch of a script. -/
structure Span where
  /-- The whole file has no name. -/
  name : Option Text
  kind : SpanKind
  text : Text
  start : Int
  stop : Int
  line : Int := 1
deriving DecidableEq, Inhabited, Repr

namespace Span

/-- The span of a whole file. -/
def ofFile (t : Text) : Span := ⟨none, .file, t, 0, t.length, 1⟩

def docKind (s : Span) : DocKind :=
  match s.kind with
  | .file => .file
  | _ => .function

/-- Both spans hold some character. -/
def overlaps (s t : Span) : Bool := s.start < t.stop && t.start < s.stop

/-- The second span lies in the first. -/
def contains (s t : Span) : Bool := s.start ≤ t.start && t.stop ≤ s.stop

end Span

end DocWeave
