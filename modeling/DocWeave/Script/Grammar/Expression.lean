import DocWeave.Script.Grammar.Goal

/-!
# Expressions

An expression is a row of operands with operators between them. Which operator binds tighter is
left open: it decides nothing about what can be read, nor about which functions are found. An
operand is an atom with the accesses, calls and assignments that follow it.
-/

namespace DocWeave.Script.Part

/-! ## Atoms -/

def arguments : Part :=
  brackets "(" (sparse (.first [.seq [mark "...", .goal .expression], .goal .expression])) ")"

/-- Parameters with their types, and the type of the result. -/
def callSignature (l : Language) (result : Part) : Part :=
  .seq (inTyped l [maybe (.goal .typeParameters)] ++ [.goal .parameters]
    ++ inTyped l [maybe result])

/-- The type of a result: a type, or what the result says of a parameter. -/
def resultType : Part :=
  let subject := nameExcept []
  let is : Part := .seq [.unbroken false, word "is", .goal .type]
  .seq [mark ":", .first [
    .seq [word "asserts", .unbroken false, subject, maybe is],
    .seq [subject, is],
    .goal .type]]

/-- A block that ends a function. A comment behind it belongs to it if a line ends there. -/
def body (operand : Bool) : Part :=
  let stop : Part := if operand then .seq [.operand (.seq []), .lineEnd] else .lineEnd
  .seq [.goal .block, maybe stop]

def functionExpression (l : Language) : Part :=
  let tail : List Part := [maybe (newName l), callSignature l resultType, body true]
  .first [
    .node "function_expression" (.seq ([maybe async, word "function"] ++ tail)),
    .node "generator_function" (.seq ([maybe async, word "function", mark "*"] ++ tail))]

/-- What a class extends and implements. -/
def heritage (l : Language) : Part :=
  let applied : Part := .seq [.goal .operand, .goal .typeArguments,
    .ahead (.first [markOf ["\x7b", ","], word "implements"])]
  let base : Part := .first (inTyped l [applied] ++ [.goal .expression])
  let interfaces : Part := .seq [word "implements", list (.goal .type)]
  if l.typed then
    .first [.seq [word "extends", list base, maybe interfaces], interfaces]
  else .seq [word "extends", base]

def className (l : Language) : Part :=
  .node "identifier"
    (nameExcept (if l.typed then ["extends", "implements"] else reserved))

/-- Everything of a class behind its name. -/
def classTail (l : Language) : Part :=
  .seq (inTyped l [maybe (.goal .typeParameters)] ++ [maybe (heritage l), .goal .classBody])

def classExpression (l : Language) : Part :=
  .node "class"
    (.seq [.many (.goal .decorator), word "class", maybe (className l), classTail l])

def template : Part :=
  let substitution : Part :=
    .seq [.token (.close ['$', '\x7b']), .enclosed (.goal .expressions), mark "\x7d"]
  .node "template_string" (.seq [mark "\x60",
    .many (.first [.token .templateText, substitution]),
    .token (.close ['\x60'])])

def parenthesized (l : Language) : Part :=
  .node "parenthesized_expression" (brackets "("
    (.seq ([.goal .expressions] ++ inTyped l [maybe (.seq [mark ":", .goal .type])])) ")")

def array : Part :=
  .node "array" (brackets "["
    (sparse (.first [.seq [mark "...", .goal .expression], .goal .expression])) "]")

/-- A bracketed value or, in front of an assignment, the pattern that it is. -/
def valueOrPattern (value : Part) : Part :=
  .first [
    .seq [value, .absent (mark "=")],
    .seq [.goal .destructuring, .ahead (mark "=")]]

def importExpression : Part :=
  .node "import" (.seq [word "import", .first [.ahead (mark "("), .seq [mark ".", nameExcept []]]])

def newExpression : Part :=
  .node "new_expression" (.seq [word "new", .first [.seq [mark ".", nameExcept []], .goal .atom]])

def literal : Part :=
  .first [
    string,
    .node "number" (.token .number),
    .node "regex" (.token .regex),
    .node "literal" (wordOf ["this", "super", "null", "true", "false"])]

def atom (l : Language) : Part :=
  .first ([
    functionExpression l,
    classExpression l,
    newExpression,
    importExpression,
    literal,
    .goal .template,
    parenthesized l,
    valueOrPattern array,
    valueOrPattern (.goal .object)]
    ++ (if l.markup then [.goal .element] else [])
    ++ [identifier l,
      .node "private_property_identifier" (.seq [.token .privateName, .ahead (word "in")])])

/-! ## Arrow functions -/

/-- A block if it can be one. -/
def arrowBody : Part := .first [body true, .goal .expression]

def shortArrow (l : Language) : Part :=
  .node "arrow_function" (.first [
    .seq [identifier l, mark "=>", arrowBody],
    .seq [async, identifier l, mark "=>", arrowBody]])

def arrow (l : Language) : Part :=
  .node "arrow_function"
    (.seq [maybe async, callSignature l resultType, mark "=>", arrowBody])

/--
An arrow function or an atom. In a typed language a parenthesis and a colon can begin both, when a
condition stands in front; the rest of the condition decides.
-/
def head (l : Language) : Part :=
  .first [shortArrow l, if l.typed then .either [arrow l, .goal .atom] else .first [arrow l, .goal .atom]]

/-! ## Operands -/

/-- What a value can be assigned to. -/
def assignable : List String :=
  ["identifier", "member_expression", "subscript_expression", "parenthesized_expression",
    "object_pattern", "array_pattern", "non_null_expression"]

/-- What a value can be changed in place. -/
def updatable : List String :=
  ["identifier", "member_expression", "subscript_expression", "parenthesized_expression",
    "non_null_expression"]

/-- Type arguments that no call follows, in front of what cannot begin an operand. -/
def instantiation : Part :=
  .seq [.goal .typeArguments, .first [
    .ahead (markOf [")", "]", ",", ";", ":", "\x7d", "?", "?.", ".", "=", "==", "===", "!=", "!==",
      "||", "&&", "??", "|", "&", "^"]),
    .lineEnd]]

/-- An access to a part of the value in front. -/
def accesses : List Part :=
  [.link [] "member_expression" (.seq [markOf [".", "?."],
      .first [property, .node "private_property_identifier" (.token .privateName)]]),
    .link [] "subscript_expression"
      (.seq [maybe (mark "?."), brackets "[" (.goal .expressions) "]"])]

def calls (l : Language) : List Part :=
  [.link [] "call_expression" (.seq ([maybe (mark "?.")] ++ inTyped l [maybe (.goal .typeArguments)]
      ++ [.goal .arguments])),
    .link [] "call_expression" (.goal .template)]

def assignments : List Part :=
  [.link assignable "assignment_expression" (.seq [mark "=", .goal .expression]),
    .link updatable "augmented_assignment_expression"
      (.seq [markOf ["+=", "-=", "*=", "/=", "%=", "^=", "&=", "|=", ">>=", ">>>=", "<<=", "**=",
        "&&=", "||=", "??="], .goal .expression])]

def links (l : Language) : Part :=
  .first (accesses ++ calls l
    ++ inTyped l [.link [] "non_null_expression" (.seq [.unbroken true, mark "!"]),
      .link [] "instantiation_expression" instantiation]
    ++ [.link [] "update_expression" (.seq [.unbroken true, markOf ["++", "--"]])]
    ++ assignments)

def operand (l : Language) : Part :=
  .first ([
    .node "unary_expression" (.seq [
      .first [markOf ["!", "~", "-", "+"], wordOf ["typeof", "void", "delete", "await"]],
      .goal .operand]),
    .node "update_expression" (.seq [markOf ["++", "--"], .goal .operand]),
    .node "yield_expression" (.seq [word "yield", .first [
      .seq [mark "*", .goal .expression],
      maybe (.seq [.unbroken true, .goal .expression])]]),
    .seq [head l, .many (links l)]]
    ++ (if l.markup then [] else
      [.node "type_assertion" (.seq [.goal .typeArguments, .goal .operand])]))

/-! ## Rows of operands -/

def operator : Part :=
  .first [
    markOf ["&&", "||", "??", ">>", ">>>", "<<", "&", "^", "|", "+", "-", "*", "/", "%", "**", "<",
      "<=", "==", "===", "!=", "!==", ">=", ">"],
    wordOf ["instanceof", "in"]]

def expression (l : Language) : Part :=
  Rule.operand (.seq [.goal .operand, .many (.first ([
    .link [] "binary_expression" (.seq [operator, .goal .operand]),
    .link [] "ternary_expression"
      (.seq [mark "?", .goal .expression, mark ":", .goal .expression])]
    ++ inTyped l [
      .link [] "as_expression"
        (.seq [.unbroken true, word "as", .first [word "const", .goal .type]]),
      .link [] "satisfies_expression" (.seq [.unbroken true, word "satisfies", .goal .type])]))])

def expressions : Part :=
  Rule.operand (.seq [.goal .expression,
    .many (.link [] "sequence_expression" (.seq [mark ",", .goal .expression]))])

/-! ## Properties and patterns -/

def computedName : Part :=
  .node "computed_property_name" (brackets "[" (.goal .expression) "]")

def propertyName : Part :=
  .first [
    property,
    .node "private_property_identifier" (.token .privateName),
    string,
    .node "number" (.token .number),
    computedName]

def initializer : Part := .seq [mark "=", .field "value" (.goal .expression)]

/-- `get`, `set` or the star of a generator; at the end of a line the words are names. -/
def accessor (breaks : Bool) : Part :=
  .first [
    mark "*",
    .seq ([wordOf ["get", "set"]] ++ if breaks then [.unbroken false] else [])]

def objectMethod (l : Language) : Part :=
  .node "method_definition" (.seq ([
    optional (word "async"),
    optional (accessor false),
    .field "name" (.goal .propertyName)]
    ++ inTyped l [maybe (mark "?")]
    ++ [callSignature l resultType, body false]))

def object (l : Language) : Part :=
  .node "object" (brackets "\x7b" (sparse (.first [
    .seq [mark "...", .goal .expression],
    objectMethod l,
    .seq [.goal .propertyName, mark ":", .goal .expression],
    newName l])) "\x7d")

def objectPattern (l : Language) : Part :=
  .node "object_pattern" (brackets "\x7b" (sparse (.first [
    .seq [mark "...", .goal .pattern],
    .seq [.goal .propertyName, mark ":", .goal .pattern, maybe initializer],
    .seq [.goal .destructuring, initializer],
    .seq [newName l, maybe initializer]])) "\x7d")

def arrayPattern : Part :=
  .node "array_pattern" (brackets "[" (sparse (.seq [.goal .pattern, maybe initializer])) "]")

def destructuring (l : Language) : Part := .first [objectPattern l, arrayPattern]

/-- A place in an object that a pattern assigns to, or a name. -/
def target (l : Language) : Part :=
  .ofKind ["identifier", "member_expression", "subscript_expression", "non_null_expression"]
    (.seq [
      .first [identifier l, .node "literal" (wordOf ["this", "super"])],
      .many (.first (accesses
        ++ inTyped l [.link [] "non_null_expression" (.seq [.unbroken true, mark "!"])]))])

def pattern (l : Language) : Part :=
  .first [
    .node "rest_pattern" (.seq [mark "...", .goal .pattern]),
    .goal .destructuring,
    target l]

/-! ## Parameters -/

def accessibility : Part := wordOf ["public", "private", "protected"]

def ofType : Part := .seq [mark ":", .goal .type]

/-- What may stand in front of a parameter that is a property too, then the parameter. -/
def modifiedPattern (l : Language) : Part :=
  let subject : Part := .first [word "this", .goal .pattern]
  if l.typed then
    .seq [.many (.goal .decorator), .first [
      .seq [accessibility, maybe (word "override"), maybe (word "readonly"), subject],
      .seq [word "override", maybe (word "readonly"), subject],
      .seq [word "readonly", subject],
      subject]]
  else .goal .pattern

def parameter (l : Language) : Part :=
  .seq ([modifiedPattern l] ++ inTyped l [maybe (mark "?"), maybe ofType]
    ++ [maybe initializer])

def parameters (l : Language) : Part := brackets "(" (maybe (listTrailing (parameter l))) ")"

end DocWeave.Script.Part
