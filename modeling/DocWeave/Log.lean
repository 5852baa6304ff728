import DocWeave.Decimal.Fixed
import DocWeave.Value

/-!
# Log entries

What the program does is told in entries: where an entry comes from, how grave it is, and what it
says. The names of the sources are part of what is printed. What is said is put together from words
and arguments, and is kept in both forms.
-/

namespace DocWeave.Log

/-- How grave an entry is. -/
inductive Level where
  | debug
  | info
  | warning
  | error
  | critical
deriving DecidableEq, Inhabited, Repr

namespace Level

def word : Level → String
  | debug => "DEBUG"
  | info => "INFO"
  | warning => "WARNING"
  | error => "ERROR"
  | critical => "CRITICAL"

/-- Levels are compared by number. -/
def rank : Level → Int
  | debug => 10
  | info => 20
  | warning => 30
  | error => 40
  | critical => 50

def all : List Level := [debug, info, warning, error, critical]

def ofWord? (w : String) : Option Level := all.find? fun l => l.word == w

end Level

/-- The parts of the program that write entries. -/
inductive Source where
  | program
  | extraction
  | splicing
  | generation
  | client
  | prompts
  | documenting
  | configuration
  | commands
deriving DecidableEq, Inhabited, Repr

/-- The name under which a source writes. -/
def Source.name : Source → String
  | program => "autoscribe"
  | extraction => "autoscribe.parsers.js_parser"
  | splicing => "autoscribe.output.splicer"
  | generation => "autoscribe.generators.doc_client"
  | client => "autoscribe.generators.llm_client"
  | prompts => "autoscribe.generators.template_manager"
  | documenting => "autoscribe.generators.documenter"
  | configuration => "autoscribe.utils.config"
  | commands => "autoscribe.cli.commands"

/-! ## What is said -/

/-- A part of what is said: words, or an argument that stands between them. -/
inductive Said where
  | words (t : Text)
  | text (t : Text)
  | number (n : Int)
  /-- A number that is shown with so many places. -/
  | real (places : Nat) (x : Float)
  /-- Something else, as it is shown and as it is printed. -/
  | object (shown printed : Text)
deriving DecidableEq

instance : Coe String Said := ⟨fun s => .words s.toList⟩

namespace Said

/-- A path. -/
def path (t : Text) : Said := object t ("PosixPath(".toList ++ Printed.quoted t ++ [')'])

/-- A failure of some kind, which is shown by its message. -/
def failure (kind : String) (message : Text) : Said :=
  object message (kind.toList ++ ['('] ++ Printed.quoted message ++ [')'])

def shown : Said → Text
  | words t => t
  | text t => t
  | number n => (toString n).toList
  | real places x => Decimal.fixed places x
  | object shown _ => shown

/-- What stands for it in the template. -/
def mark : Said → Text
  | words t => t
  | number _ => ['%', 'd']
  | real places _ => '%' :: '.' :: (toString places).toList ++ ['f']
  | _ => ['%', 's']

/-- The argument as it is printed, if it is one. -/
def printed? : Said → Option Text
  | words _ => none
  | text t => some (Printed.quoted t)
  | number n => some (toString n).toList
  | real _ x => some (Decimal.Shortest.text x)
  | object _ printed => some printed

end Said

/-- What is said, part by part. -/
abbrev Message := List Said

instance : Coe Text Message := ⟨fun t => [.words t]⟩

/-! ## Entries -/

structure Entry where
  source : String
  level : Level
  said : Message
deriving DecidableEq, Inhabited

namespace Entry

def message (e : Entry) : Text := e.said.flatMap Said.shown

/-- What is said, without the arguments. -/
def template (e : Entry) : Text := e.said.flatMap Said.mark

/-- The arguments alone. -/
def arguments (e : Entry) : Text :=
  match e.said.filterMap Said.printed? with
  | [one] => ['('] ++ one ++ [',', ')']
  | all => ['('] ++ [',', ' '].intercalate all ++ [')']

end Entry

def Source.entry (s : Source) (level : Level) (said : Message) : Entry := ⟨s.name, level, said⟩

/-! ## Settings -/

/-- How entries are written. The settings are kept as they were given; what they mean is found out when
writing begins. -/
structure Settings where
  /-- The word for the least level that is written. -/
  level : Value := .text "INFO".toList
  format : Value := .text "%(asctime)s - %(name)s - %(levelname)s - %(message)s".toList
  /-- The file to which entries are added, if there is one. -/
  file : Value := .null
deriving Inhabited

end DocWeave.Log
