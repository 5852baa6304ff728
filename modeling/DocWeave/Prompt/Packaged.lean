import DocWeave.Prompt.Template

/-!
# The packaged templates

What a model is asked: for a comment on a whole file, and for a comment on one function. Both end in
the code itself.
-/

namespace DocWeave.Prompt.Packaged

/-- Names that the templates use. -/
def codeName : Text := "code".toList
def functionName : Text := "name".toList
def formatName : Text := "output_format".toList
def labelName : Text := "format_label".toList

/-- A piece of text in front of a template. -/
def say (t : String) (next : Template) : Template := .text t.toList next

def isTsdoc : Test := .same (.binding formatName) (.literal "tsdoc".toList)

/-- How to answer, and the code. -/
def closing (heading : String) : Template :=
  say "\nReply with the comment block alone: it must start with /** and end with */.\n" <|
  say "Do not wrap it in a Markdown code fence and do not repeat the code.\n\n" <|
  say heading <| .put (.binding codeName) .done

/-- Asks for the comment of a file. -/
def file : Template :=
  say "Write a file-level " <| .put (.binding labelName) <|
  say " comment for the following source file.\n\n" <|
  say "Describe the purpose of the file and summarize what it exports or defines.\n" <|
  .choice isTsdoc
    (say "Use TSDoc tags only (for example @packageDocumentation, @remarks, @see).\n" .done)
    (say "Use JSDoc tags only (for example @file, @module, @description, @see).\n" .done) <|
  closing "Source file:\n"

/-- Asks for the comment of a function, by its name if it has one. -/
def function : Template :=
  say "Write a " <| .put (.binding labelName) <| say " comment for the " <|
  .choice (.filled (.binding functionName))
    (say "function \x60" <| .put (.binding functionName) <| say "\x60" .done)
    (say "following function" .done) <|
  say ".\n\n" <|
  say "Describe what it does, each parameter, the return value and any errors it throws.\n" <|
  .choice isTsdoc
    (say "Use TSDoc syntax: @param name - description, @returns, @throws, @example. " <|
      say "Do not add type annotations in braces.\n" .done)
    (say "Use JSDoc syntax: @param \x7btype\x7d name - description, @returns \x7btype\x7d, " <|
      say "@throws \x7btype\x7d, @example.\n" .done) <|
  closing "Function:\n"

end DocWeave.Prompt.Packaged
