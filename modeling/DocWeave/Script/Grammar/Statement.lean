import DocWeave.Script.Grammar.Typing
import DocWeave.Script.Grammar.Markup

/-!
# Statements and declarations

A declaration may stand behind `export`; all others are statements only. The nodes that matter to
what is found in a script are those of functions, declared names, classes and exports.
-/

namespace DocWeave.Script.Part

/-! ## Functions and variables -/

/-- A function with a name. Behind `export` no operator can follow it. -/
def functionDeclaration (l : Language) (exported : Bool) : Part :=
  let tail : List Part := [.field "name" (newName l), callSignature l resultType, body (!exported)]
  .first [
    .node "function_declaration" (.seq ([maybe async, word "function"] ++ tail)),
    .node "generator_function_declaration"
      (.seq ([maybe async, word "function", mark "*"] ++ tail))]

/-- A function that is described but has no body. -/
def functionSignature (l : Language) : Part :=
  .node "function_signature" (.seq [maybe async, word "function", newName l,
    callSignature l resultType, semicolon])

def bindingTarget (l : Language) : Part := .first [newName l, .goal .destructuring]

def declarator (l : Language) : Part :=
  .node "variable_declarator" (.first (
    inTyped l [.seq [.field "name" (newName l), mark "!", ofType]]
    ++ [.seq ([.field "name" (bindingTarget l)] ++ inTyped l [maybe ofType]
      ++ [maybe initializer])]))

def bindings (l : Language) (keyword : Part) : Part :=
  .seq [keyword, list (declarator l), semicolon]

def letOrConst : Part := .first [.seq [word "let", .unbroken true], word "const"]

def variableDeclaration (l : Language) : Part :=
  .first ([
    .node "lexical_declaration" (bindings l letOrConst),
    .node "variable_declaration" (bindings l (word "var"))]
    ++ if l.typed then [] else
      [.node "using_declaration"
        (bindings l (.seq [maybe (word "await"), word "using", .unbroken true]))])

/-! ## Classes -/

def decorator (l : Language) : Part :=
  let path : Part := .seq ([nameExcept (if l.typed then [] else reserved),
    .many (.seq [mark ".", .first [.token .privateName, nameExcept []]]),
    maybe (.seq (inTyped l [maybe (.goal .typeArguments)] ++ [.goal .arguments]))])
  .node "decorator" (.seq [mark "@",
    .first (inTyped l [brackets "(" path ")"] ++ [path])])

def classDeclaration (l : Language) : Part :=
  .node "class_declaration"
    (.seq [.many (.goal .decorator), word "class", className l, classTail l])

def modifier (w : String) : Part := optional (.seq [word w, .unbroken false])

def method (l : Language) : Part :=
  if l.typed then
    .node "method_definition" (.seq [
      optional (.seq [accessibility, .unbroken false]), modifier "static", modifier "override",
      modifier "readonly", modifier "async", optional (accessor true),
      .field "name" (.goal .propertyName), maybe (mark "?"), callSignature l resultType,
      body false])
  else
    .node "method_definition" (.seq [
      .many (.goal .decorator),
      optional (.first [.token .staticAccessor, .seq [word "static", .unbroken false]]),
      modifier "async", optional (accessor true),
      .field "name" (.goal .propertyName), callSignature l resultType, body false])

def field (l : Language) : Part :=
  if l.typed then
    .node "public_field_definition" (.seq [
      .many (.goal .decorator),
      modifier "declare", optional (.seq [accessibility, .unbroken false]), modifier "declare",
      modifier "static", modifier "override", modifier "readonly", modifier "abstract",
      modifier "readonly", modifier "accessor",
      .goal .propertyName, maybe (markOf ["?", "!"]), maybe ofType, maybe initializer])
  else
    .node "field_definition" (.seq [
      .many (.goal .decorator), modifier "static", .goal .propertyName, maybe initializer])

def abstractMethod (l : Language) : Part :=
  .seq [optional accessibility, word "abstract", modifier "override", optional (accessor true),
    .goal .propertyName, maybe (mark "?"), callSignature l resultType]

def staticBlock : Part := .node "class_static_block" (.seq [word "static", .goal .block])

def classMember (l : Language) : Part :=
  if l.typed then
    .first [
      .goal .decorator,
      staticBlock,
      .seq [method l, maybe semicolon],
      .seq [
        .first [
          .node "abstract_method_signature" (abstractMethod l),
          .node "index_signature" indexSignature,
          .node "method_signature" (methodSignature l)],
        .first [semicolon, mark ","]],
      .seq [field l, .first [semicolon, mark ","]],
      mark ";"]
  else
    .first [
      staticBlock,
      .seq [method l, maybe (mark ";")],
      .seq [field l, semicolon],
      mark ";"]

def classBody (l : Language) : Part :=
  .node "class_body" (.seq [mark "\x7b", .exposed (.many (classMember l)), mark "\x7d"])

/-! ## Declarations of the typed languages -/

def enumDeclaration : Part :=
  let member : Part := .seq [.goal .propertyName, maybe initializer]
  .seq [maybe (word "const"), word "enum", nameExcept [],
    brackets "\x7b" (maybe (listTrailing member)) "\x7d"]

def interfaceDeclaration : Part :=
  let base : Part :=
    .seq [typeName, .many (.seq [mark ".", typeName]), maybe (.goal .typeArguments)]
  .seq [word "interface", nameExcept [], maybe (.goal .typeParameters),
    maybe (.seq [word "extends", list base]), .goal .objectType]

def aliasDeclaration : Part :=
  .seq [word "type", .unbroken true, nameExcept [], maybe (.goal .typeParameters), mark "=",
    .goal .type, semicolon]

def moduleDeclaration : Part :=
  .node "module" (.seq [wordOf ["module", "namespace"], .unbroken true,
    .first [.token .string, dottedName], maybe (.goal .block)])

def importAlias : Part :=
  .seq [word "import", nameExcept [], mark "=", dottedName, semicolon]

def ambientDeclaration : Part :=
  .node "ambient_declaration" (.seq [word "declare", .unbroken true, .first [
    .goal .declaration,
    .seq [word "global", .goal .block],
    .seq [word "module", mark ".", nameExcept [], mark ":", .goal .type, semicolon]]])

def declaration (l : Language) (exported : Bool) : Part :=
  .first (
    inTyped l [enumDeclaration]
    ++ [functionDeclaration l exported]
    ++ inTyped l [functionSignature l]
    ++ [classDeclaration l, variableDeclaration l]
    ++ inTyped l [
      .node "abstract_class_declaration" (.seq [.many (.goal .decorator), word "abstract",
        word "class", className l, classTail l]),
      interfaceDeclaration, aliasDeclaration, moduleDeclaration, importAlias, ambientDeclaration])

/-! ## Imports and exports -/

def moduleName (l : Language) : Part :=
  .first [nameExcept (if l.typed then [] else reserved.erase "default"), string]

def fromClause : Part := .seq [word "from", string]

/-- Names in braces, each perhaps under another name. -/
def specifiers (l : Language) : Part :=
  let plain : Part :=
    .either [.seq [moduleName l, word "as", moduleName l], moduleName l]
  let specifier : Part :=
    .either (inTyped l [.seq [wordOf ["type", "typeof"], plain]] ++ [plain])
  let following : Part := .either [mark ",", .ahead (mark "\x7d")]
  brackets "\x7b" (.seq [.many (.seq [specifier, following])]) "\x7d"

def attributesClause : Part := .seq [word "with", .goal .object]

def importStatement (l : Language) : Part :=
  let name := newName l
  let space : Part := .seq [mark "*", word "as", nameExcept (if l.typed then [] else reserved)]
  let clause : Part := .first [
    space,
    specifiers l,
    .seq [name, maybe (.seq [mark ",", .first [space, specifiers l]])]]
  let kinds : Part := wordOf ["type", "typeof"]
  let required : Part :=
    .seq [name, mark "=", word "require", mark "(", string, mark ")"]
  let source : Part := .first ([.seq [clause, fromClause]] ++ inTyped l [required] ++ [string])
  .node "import_statement" (.seq [word "import",
    .first (inTyped l [.seq [kinds, source, maybe attributesClause, semicolon]]
      ++ [.seq [source, maybe attributesClause, semicolon]])])

def exportStatement (l : Language) : Part :=
  let head : Part := .seq [word "export", .unbroken true]
  let names : Part := .first [
    .seq [mark "*", fromClause],
    .seq [mark "*", word "as", moduleName l, fromClause],
    .seq [specifiers l, maybe fromClause]]
  let other : List Part := inTyped l [
    .seq [head, word "type", specifiers l, maybe fromClause, semicolon],
    .seq [head, mark "=", .goal .expression, semicolon],
    .seq [head, word "as", word "namespace", nameExcept [], semicolon]]
  .node "export_statement" (.first (
    other
    ++ [.seq [head, names, semicolon],
      .seq [.many (.goal .decorator), head, .first [
        .goal .exportedDeclaration,
        .seq [word "default", .first [
          .goal .declaration,
          .seq [.field "value" (.goal .expression), semicolon]]]]]]))

/-! ## Statements -/

def block : Part :=
  .node "statement_block"
    (.seq [mark "\x7b", .exposed (.many (.goal .statement)), mark "\x7d"])

def condition : Part := brackets "(" (.goal .expressions) ")"

def ifStatement : Part :=
  .seq [word "if", condition, .goal .statement, maybe (.seq [word "else", .goal .statement])]

def switchStatement : Part :=
  let body : Part := .many (.seq [.absent (wordOf ["case", "default"]), .goal .statement])
  let case : Part := .first [
    .seq [word "case", .goal .expressions, mark ":", body],
    .seq [word "default", mark ":", body]]
  .seq [word "switch", condition, mark "\x7b", .exposed (.many case), mark "\x7d"]

/-- The head of a loop over the keys or the elements of a value. -/
def forEachHead (l : Language) : Part :=
  let joint : Part := wordOf ["in", "of"]
  .first [
    .seq [word "var", bindingTarget l, maybe initializer, joint],
    .seq [wordOf ["let", "const"], bindingTarget l, joint],
    .seq [.ofKind assignable (.seq [head l, .many (.first (accesses ++ calls l))]), joint],
    .seq [.goal .destructuring, joint]]

def forStatement (l : Language) : Part :=
  let initial : Part := .first [
    variableDeclaration l,
    .seq [.goal .expressions, mark ";"],
    mark ";"]
  let check : Part := .first [.seq [.goal .expressions, mark ";"], mark ";"]
  .first [
    .seq [word "for", maybe (word "await"),
      brackets "(" (.seq [forEachHead l, .goal .expressions]) ")", .goal .statement],
    .seq [word "for", brackets "(" (.seq [initial, check, maybe (.goal .expressions)]) ")",
      .goal .statement]]

def tryStatement (l : Language) : Part :=
  let caught : Part := brackets "(" (.seq ([bindingTarget l] ++ inTyped l [maybe ofType])) ")"
  .seq [word "try", .goal .block,
    maybe (.seq [word "catch", maybe caught, .goal .block]),
    maybe (.seq [word "finally", .goal .block])]

def jumpStatement : Part :=
  .first [
    .seq [wordOf ["break", "continue"], maybe (.seq [.unbroken false, nameExcept []]), semicolon],
    .seq [word "return", maybe (.seq [.unbroken false, .goal .expressions]), semicolon],
    .seq [word "throw", .goal .expressions, semicolon],
    .seq [word "debugger", semicolon]]

/-- No word that begins a statement of another kind. -/
def noStatementWord (l : Language) : Part :=
  .absent (wordOf (statementWords ++ if l.typed then typedWords else []))

def expressionStatement (l : Language) : Part :=
  .node "expression_statement" (.seq [noStatementWord l, .goal .expressions, semicolon])

def statement (l : Language) : Part :=
  .first [
    .goal .block,
    exportStatement l,
    importStatement l,
    .goal .declaration,
    ifStatement,
    switchStatement,
    forStatement l,
    .seq [word "while", condition, .goal .statement],
    .seq [word "do", .goal .statement, word "while", condition, maybe semicolon],
    tryStatement l,
    .seq [word "with", condition, .goal .statement],
    jumpStatement,
    mark ";",
    .seq [noStatementWord l, identifier l, mark ":", .goal .statement],
    expressionStatement l]

def program : Part :=
  .node "program" (.seq [maybe (.token .interpreterLine),
    .many (.first [.token .pageComment, .goal .statement]), .token .endOfText])

end DocWeave.Script.Part
