import DocWeave.Script.Grammar.Expression

/-!
# Types

Types as the two typed languages write them. As in expressions, operators between types form a row:
`|`, `&` and the tail of a conditional type may follow any operand.
-/

namespace DocWeave.Script.Part

/-- Words that no name of a type is. -/
def typeWords : List String :=
  ["typeof", "keyof", "readonly", "infer", "new", "abstract", "unique", "this", "null", "true",
    "false", "void"]

def typeName : Part :=
  .node "type_identifier" (nameExcept typeWords)

/-- A name with the names of the modules that hold it. -/
def dottedName : Part :=
  .seq [.node "identifier" (nameExcept []), .many (.seq [mark ".", nameExcept []])]

def typeArguments : Part :=
  .seq [mark "<", .enclosed (.seq [listTrailing (.goal .type)]), piece ">"]

def typeParameters : Part :=
  let parameter : Part := .seq [
    .first [.seq [word "const", nameExcept []], nameExcept []],
    maybe (.seq [.first [word "extends", mark ":"], .goal .type]),
    maybe (.seq [mark "=", .goal .type])]
  .seq [mark "<", .enclosed (listTrailing parameter), piece ">"]

/-! ## Operands -/

def functionType : Part :=
  let result : Part := .first [
    .seq [word "asserts", nameExcept [], maybe (.seq [word "is", .goal .type])],
    .seq [nameExcept [], .unbroken false, word "is", .goal .type],
    .goal .type]
  .seq [maybe (.goal .typeParameters), .goal .parameters, mark "=>", result]

def constructorType : Part :=
  .seq [maybe (word "abstract"), word "new", maybe (.goal .typeParameters), .goal .parameters,
    mark "=>", .goal .type]

/-- The type of a value: a name with accesses, or an import. -/
def typeQuery : Part :=
  let subject : Part := .first [
    .seq [word "import", .goal .arguments],
    .seq [.first [.token .privateName, nameExcept []]]]
  .seq [word "typeof", subject,
    .many (.first [
      .seq [markOf [".", "?."], .first [.token .privateName, nameExcept []]],
      .seq [.unbroken false, mark "[", .first [.token .number, string], mark "]"]]),
    maybe (.goal .typeArguments)]

def tupleType : Part :=
  let named : Part := .seq [
    maybe (mark "..."), nameExcept [], maybe (mark "?"), mark ":", .goal .type]
  let plain : Part := .seq [maybe (mark "..."), .goal .type, maybe (mark "?")]
  brackets "[" (.seq [maybe (listTrailing (.first [named, plain]))]) "]"

def templateType : Part :=
  .seq [mark "\x60",
    .many (.first [
      .token .templateText,
      .seq [.token (.close ['$', '\x7b']), .enclosed (.goal .type), mark "\x7d"]]),
    .token (.close ['\x60'])]

def literalType : Part :=
  .first [
    .seq [maybe (markOf ["-", "+"]), .token .number],
    .token .string,
    wordOf ["this", "null", "true", "false", "void"],
    .seq [word "unique", word "symbol"]]

/-- A type that accesses in brackets may follow. -/
def primaryType : Part :=
  .first [
    literalType,
    typeQuery,
    .seq [word "keyof", .goal .typeOperand],
    .seq [word "import", .goal .arguments, .many (.seq [mark ".", nameExcept []])],
    .seq [typeName, .many (.seq [mark ".", typeName]), maybe (.goal .typeArguments)],
    .goal .objectType,
    tupleType,
    templateType,
    mark "*",
    .seq [mark "?", .goal .typeOperand],
    brackets "(" (.goal .type) ")"]

def typeOperand : Part :=
  .first [
    functionType,
    constructorType,
    .seq [word "readonly", .goal .type],
    .seq [word "infer", typeName,
      optional (.seq [word "extends", .goal .type])],
    .seq [primaryType,
      .many (.seq [.unbroken false, mark "[", maybe (.enclosed (.goal .type)), mark "]"])]]

def type : Part :=
  .seq [maybe (markOf ["|", "&"]), .goal .typeOperand, .many (.first [
    .seq [markOf ["|", "&"], .goal .typeOperand],
    .seq [.unbroken false, word "extends", .goal .type, mark "?", .goal .type, mark ":",
      .goal .type]])]

/-! ## Types of objects -/

def constructSignature : Part :=
  .seq [maybe (word "abstract"), word "new", maybe (.goal .typeParameters), .goal .parameters,
    maybe ofType]

/-- The type of all properties whose names are of some type. -/
def indexSignature : Part :=
  let mapped : Part := .seq [typeName, word "in", .goal .type,
    maybe (.seq [word "as", .goal .type])]
  let plain : Part := .seq [nameExcept [], mark ":", .goal .type]
  let sign : Part := .seq [.first [markOf ["-", "+"], .seq []], mark "?"]
  .seq [maybe (.seq [maybe (markOf ["-", "+"]), word "readonly"]),
    brackets "[" (.first [mapped, plain]) "]", maybe sign, ofType]

def methodSignature (l : Language) : Part :=
  .seq [optional accessibility, optional (word "static"), optional (word "override"),
    optional (word "readonly"), optional (word "async"), optional (accessor true),
    .goal .propertyName, maybe (mark "?"), callSignature l resultType]

def propertySignature : Part :=
  .seq [optional accessibility, optional (word "static"), optional (word "override"),
    optional (word "readonly"), .goal .propertyName, maybe (mark "?"), maybe ofType]

def objectType (l : Language) : Part :=
  let member : Part := .first [
    constructSignature, indexSignature, methodSignature l, callSignature l resultType,
    propertySignature]
  let separator : Part := .first [.lineEnd, markOf [",", ";"]]
  .node "object_type" (.seq [mark "\x7b", .exposed (.seq [
    maybe (markOf [",", ";"]),
    maybe (.seq [member, .many (.seq [separator, member]), maybe separator])]), mark "\x7d"])

end DocWeave.Script.Part
