import DocWeave.Log
import DocWeave.Prompt.Packaged
import DocWeave.Span
import DocWeave.Text.Printed

/-!
# Prompts

A prompt is the text with which a model is asked for a comment. It is made of a template for the kind
of comment, in which the code, the name of the function and the comment style are filled in.
-/

namespace DocWeave.Prompt

/-- Why there is no prompt. -/
inductive Failure where
  | unknownStyle (word : Text)
  | unknownKind (word : Text)
  /-- There is no such template where templates are looked for. -/
  | missing (template location : Text)
  /-- The tags of the template do not fit together. -/
  | malformed (template : Text)
  | unbound (name : Text)
deriving DecidableEq

def Failure.message : Failure → Text
  | unknownStyle word => "Unknown output format: ".toList ++ Printed.quoted word
  | unknownKind word => Printed.quoted word ++ " is not a valid DocKind".toList
  | missing template location =>
    Printed.quoted template ++ " not found in search path: ".toList ++ Printed.quoted location
  | malformed template => "Unreadable template ".toList ++ Printed.quoted template
  | unbound name => Printed.quoted name ++ " is undefined".toList

/-! ## Comment styles -/

/-- The comment styles: the word by which a style is asked for and its name. -/
def styles : List (Text × Text) :=
  [("jsdoc".toList, "JSDoc".toList), ("tsdoc".toList, "TSDoc".toList)]

/-- The name of a style. -/
def label (style : Text) : Except Failure Text :=
  match styles.lookup style with
  | some name => .ok name
  | none => .error (.unknownStyle style)

/-! ## Where templates come from -/

/-- The name under which the template of a kind is kept. -/
def templateName : DocKind → Text
  | .file => "file_doc.j2".toList
  | .function => "function_doc.j2".toList

/-- A store of templates. -/
structure Store where
  /-- Where the store is, as it is told. -/
  location : Text
  /-- Whether there is such a place. -/
  present : Bool := true
  /-- The template of a name: `none` if there is none, `some none` if it cannot be read. -/
  template? : Text → Option (Option Template)

namespace Store

/-- The store that comes with the program, which lives at `home`. -/
def packaged (home : Text) : Store where
  location := home ++ "/autoscribe/templates".toList
  template? name :=
    if name = templateName .file then some (some Packaged.file)
    else if name = templateName .function then some (some Packaged.function)
    else none

/-- What is logged when a store is opened. -/
def openingEntries (s : Store) : List Log.Entry :=
  let warning := if s.present then [] else
    [Log.Source.prompts.entry .warning ["Templates directory not found: ", .path s.location]]
  warning ++
    [Log.Source.prompts.entry .debug ["Template manager initialized with: ", .path s.location]]

/-- What is filled in. -/
def bindings (code : Text) (name : Option Text) (style label : Text) : Bindings :=
  [(Packaged.codeName, some code), (Packaged.functionName, name),
    (Packaged.formatName, some style), (Packaged.labelName, some label)]

/-- The prompt for a piece of code. -/
def prompt (s : Store) (code : Text) (kind : DocKind) (style : Text) (name : Option Text) :
    Except Failure Text := do
  let label ← label style
  match s.template? (templateName kind) with
  | none => .error (.missing (templateName kind) s.location)
  | some none => .error (.malformed (templateName kind))
  | some (some t) =>
    match t.fill (bindings code name style label) with
    | .ok text => .ok text
    | .error u => .error (.unbound u.name)

/-- The prompt for a kind that is given by its word, which is looked at after the style. -/
def promptOfWord (s : Store) (code kind style : Text) (name : Option Text) :
    Except Failure (DocKind × Text) :=
  match DocKind.ofWord? (String.ofList kind) with
  | some k => (s.prompt code k style name).map fun t => (k, t)
  | none =>
    match label style with
    | .ok _ => .error (.unknownKind kind)
    | .error e => .error e

/-- What is logged when a prompt has been made. -/
def promptEntry (kind : DocKind) (prompt : Text) : Log.Entry :=
  Log.Source.prompts.entry .debug
    ["Rendered template ", .text (templateName kind), " (", .number prompt.length, " chars)"]

end Store

end DocWeave.Prompt
