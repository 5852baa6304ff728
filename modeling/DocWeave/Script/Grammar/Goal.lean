import DocWeave.Script.Rule

/-!
# Goals of the grammars

The three languages share one set of goals. What differs between them is said by two properties of
a language: whether it is typed, and whether angle brackets in front of an operand open markup.
Below the goals stand the shorthands in which the rules are written.
-/

namespace DocWeave.Script

/-- The languages that can be read. -/
inductive Language where
  | javaScript
  | typeScript
  | tsx
deriving DecidableEq, Inhabited, Repr

namespace Language

def typed : Language → Bool
  | javaScript => false
  | _ => true

def markup : Language → Bool
  | typeScript => false
  | _ => true

end Language

/-- The parts of a script that can hold each other. -/
inductive Goal where
  | program
  | statement
  | declaration
  | exportedDeclaration
  | block
  | expressions
  | expression
  | operand
  | atom
  | arguments
  | template
  | propertyName
  | parameters
  | pattern
  | destructuring
  | object
  | classBody
  | decorator
  | element
  | type
  | typeOperand
  | typeArguments
  | typeParameters
  | objectType
deriving DecidableEq, Repr

/-- A rule of the script grammars. -/
abbrev Part := Rule Goal

namespace Part

def word (w : String) : Part := .token (.word w.toList)

def wordOf (ws : List String) : Part := .token (.wordOf (ws.map String.toList))

def mark (m : String) : Part := .token (.mark m.toList)

def markOf (ms : List String) : Part := .token (.markOf (ms.map String.toList))

def piece (m : String) : Part := .token (.piece m.toList)

/-- The rule if it can be read, and nothing otherwise. -/
def maybe (r : Part) : Part := .first [r, .seq []]

/-- The rule or nothing: what follows decides. -/
def optional (r : Part) : Part := .either [r, .seq []]

/-- One or more, with commas between them. -/
def list (r : Part) : Part := .seq [r, .many (.seq [mark ",", r])]

/-- One or more with commas between them, and perhaps one behind the last. -/
def listTrailing (r : Part) : Part := .seq [list r, maybe (mark ",")]

/-- Any number, with commas between them; places may be left empty. -/
def sparse (r : Part) : Part := .seq [maybe r, .many (.seq [mark ",", maybe r])]

def brackets (left : String) (r : Part) (right : String) : Part :=
  .enclosed (.seq [mark left, r, mark right])

/-- Rules that hold in a typed language only. -/
def inTyped (l : Language) (rules : List Part) : List Part := if l.typed then rules else []

/-! ## Words -/

/-- Words that are no names in the plain language. -/
def reserved : List String :=
  ["break", "case", "catch", "class", "const", "continue", "debugger", "default", "delete", "do",
    "else", "extends", "false", "finally", "for", "function", "if", "import", "in", "instanceof",
    "new", "null", "return", "super", "switch", "this", "throw", "true", "try", "typeof", "var",
    "void", "while", "with"]

/-- Words that begin an operand and so are no names where one may stand. -/
def operandWords : List String :=
  ["function", "class", "new", "typeof", "void", "delete", "await", "yield", "import", "super",
    "this", "null", "true", "false"]

/-- Words that begin a statement and so are no names at the head of one. -/
def statementWords : List String :=
  ["if", "switch", "for", "while", "do", "try", "with", "break", "continue", "return", "throw",
    "debugger", "var", "const"]

/-- Words that begin a declaration of the typed languages and are no names at its head. -/
def typedWords : List String := ["enum", "interface", "abstract"]

def nameExcept (ws : List String) : Part := .token (.name (ws.map String.toList))

/-- A name where an operand may stand. -/
def identifier (l : Language) : Part :=
  .node "identifier"
    (nameExcept (if l.typed then operandWords else reserved ++ ["await", "yield"]))

/-- A name that is being introduced. The typed languages reserve no words here. -/
def newName (l : Language) : Part :=
  .node "identifier" (nameExcept (if l.typed then [] else reserved))

/-- Any word as the name of a property. -/
def property : Part := .node "property_identifier" (nameExcept [])

/-- The end of a statement: a line end or a semicolon. -/
def semicolon : Part := .first [.lineEnd, mark ";"]

def string : Part := .node "string" (.token .string)

/-- `async` in front of a function: at the end of a line it is a name. -/
def async : Part := .seq [word "async", .unbroken true]

end Part

end DocWeave.Script
