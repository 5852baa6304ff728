import DocWeave.Path
import DocWeave.Script.Grammar.Statement

/-!
# The grammars of the script languages

Every goal has its rule. A text is a script of a language if the whole of it can be read as a
program; its tree then holds the nodes that the rules build.
-/

namespace DocWeave.Script

/-- The grammar of a language. -/
def Language.grammar (l : Language) : Grammar Goal where
  typed := l.typed
  rule
    | .program => Part.program
    | .statement => Part.statement l
    | .declaration => Part.declaration l false
    | .exportedDeclaration => Part.declaration l true
    | .block => Part.block
    | .expressions => Part.expressions
    | .expression => Part.expression l
    | .operand => Part.operand l
    | .atom => Part.atom l
    | .arguments => Part.arguments
    | .template => Part.template
    | .propertyName => Part.propertyName
    | .parameters => Part.parameters l
    | .pattern => Part.pattern l
    | .destructuring => Part.destructuring l
    | .object => Part.object l
    | .classBody => Part.classBody l
    | .decorator => Part.decorator l
    | .element => Part.element l
    | .type => Part.type
    | .typeOperand => Part.typeOperand
    | .typeArguments => Part.typeArguments
    | .typeParameters => Part.typeParameters
    | .objectType => Part.objectType l

/-- The tree of a script, if the text is one. -/
def Language.tree? (l : Language) (text : List Char) : Option Tree :=
  l.grammar.tree? .program text

namespace Language

/-- The word that stands for the language. -/
def name : Language → String
  | javaScript => "javascript"
  | typeScript => "typescript"
  | tsx => "tsx"

def ofName? (w : String) : Option Language := [javaScript, typeScript, tsx].find? fun l => l.name == w

/-- The language of a file by the end of its name, in capitals or not. -/
def ofPath (p : Path) : Language :=
  let suffix := p.suffix.map Char.toLower
  if [".js", ".jsx", ".mjs", ".cjs"].any fun s => s.toList == suffix then javaScript
  else if [".ts", ".mts", ".cts"].any fun s => s.toList == suffix then typeScript
  else tsx

end Language

end DocWeave.Script
