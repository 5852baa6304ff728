import DocWeave.Yaml.Node
import DocWeave.Yaml.Scanner
import DocWeave.Yaml.Stamp

/-!
# Nodes of a YAML document

Tokens are put together to nodes. A reference stands for a copy of what its anchor names, which comes
before it in the text. What is left out, such as a value behind its colon, is an empty scalar.
-/

namespace DocWeave.Yaml

/-! ## Kinds -/

/-- The kind of a plain scalar without a tag. -/
def Kind.ofPlain (t : Text) : Kind :=
  if Plain.isBool t then bool
  else if Plain.isFloat t then float
  else if Plain.isInt t then int
  else if t = ['<', '<'] then merge
  else if Plain.isNull t then null
  else if Stamp.isStamp t then stamp
  else if t = ['='] then whole
  else text

/-! ## The composer -/

namespace Composer

structure State where
  tokens : List Token
  /-- What tags are abbreviated by. -/
  handles : List (Text × Text) := []
  /-- The nodes with a name; `none` while a node is being put together. -/
  anchors : List (Text × Option Node) := []

/-- Putting nodes together, which may fail. -/
abbrev Compose := StateT State Option

def peek : Compose (Option Token) := do return (← get).tokens.head?

def next : Compose (Option Token) := do
  let s ← get
  set { s with tokens := s.tokens.tail }
  return s.tokens.head?

/-- Whether the next token is one of these. -/
def ahead (ts : List Token) : Compose Bool := do return (← peek).any ts.contains

/-- Takes a token that must be there. -/
def expect (t : Token) : Compose Unit := do
  if (← next) ≠ some t then failure

/-- Takes a token if it is there. -/
def take (t : Token) : Compose Bool := do
  if ← ahead [t] then
    let _ ← next
    return true
  else return false

def emptyScalar : Node := .scalar .null []

/-! ### Names and tags -/

/-- What stands in front of a node. -/
structure Properties where
  anchor : Option Text := none
  /-- The full tag. -/
  tag : Option Text := none

def anchorName : Compose (Option Text) := do
  match ← peek with
  | some (.anchor name) =>
    let _ ← next
    return some name
  | _ => return none

/-- The full form of a tag. -/
def fullTag (t : Tag) : Compose Text := do
  match t.handle with
  | none => return t.suffix
  | some handle =>
    match (← get).handles.lookup handle with
    | some meaning => return meaning ++ t.suffix
    | none => failure

def tagText : Compose (Option Text) := do
  match ← peek with
  | some (.tag t) =>
    let _ ← next
    return some (← fullTag t)
  | _ => return none

/-- A name and a tag, in either order. -/
def properties : Compose Properties := do
  match ← anchorName with
  | some name => return ⟨some name, ← tagText⟩
  | none =>
    let tag ← tagText
    if tag.isSome then return ⟨← anchorName, tag⟩ else return ⟨none, none⟩

/-- Remembers a name, which may not have been used before. -/
def nameNode (name : Option Text) (n : Option Node) : Compose Unit := do
  match name with
  | none => return
  | some name => modify fun s => { s with anchors := (name, n) :: s.anchors }

def checkName (name : Option Text) : Compose Unit := do
  let s ← get
  if name.any fun n => (s.anchors.lookup n).isSome then failure

/-- A tag that says nothing. -/
def isOpen (tag : Option Text) : Bool := tag.all (· == ['!'])

def scalarKind (tag : Option Text) (isPlain : Bool) (t : Text) : Kind :=
  match tag with
  | none => if isPlain then .ofPlain t else .text
  | some ['!'] => .ofPlain t
  | some tag => .ofTag tag

def collectionKind (tag : Option Text) (usual : Kind) : Kind :=
  match tag with
  | some tag => if tag = ['!'] then usual else .ofTag tag
  | none => usual

/-! ### Nodes -/

/-- A node that is nothing but its properties. -/
def bare (p : Properties) : Compose Node :=
  if p.anchor.isSome || p.tag.isSome then
    return .scalar (scalarKind p.tag (isOpen p.tag) []) []
  else failure

/-- An empty scalar in front of one of the tokens, else what is read. -/
def orEmpty (ends : List Token) (read : Compose Node) : Compose Node := do
  if ← ahead ends then return emptyScalar else read

mutual

/-- A node. Block collections and, behind a key, entries that are not indented may be left out. -/
def node : Nat → Bool → Bool → Compose Node
  | 0, _, _ => failure
  | fuel + 1, block, indentless => do
    match ← peek with
    | some (.reference name) =>
      let _ ← next
      match (← get).anchors.lookup name with
      | some n => return n.getD emptyScalar
      | none => failure
    | _ =>
      let p ← properties
      checkName p.anchor
      nameNode p.anchor none
      let n ← body fuel block indentless p
      nameNode p.anchor (some n)
      return n

/-- What follows the properties of a node. -/
def body : Nat → Bool → Bool → Properties → Compose Node
  | 0, _, _, _ => failure
  | fuel + 1, block, indentless, p => do
    match ← peek with
    | some .blockEntry =>
      if indentless then
        return .sequence (collectionKind p.tag .sequence) (← indentlessEntries fuel)
      else bare p
    | some (.scalar text isPlain) =>
      let _ ← next
      return .scalar (scalarKind p.tag isPlain text) text
    | some .flowSequenceStart =>
      let _ ← next
      return .sequence (collectionKind p.tag .sequence) (← flowItems fuel true)
    | some .flowMappingStart =>
      let _ ← next
      return .mapping (collectionKind p.tag .mapping) (← flowPairs fuel true)
    | some .sequenceStart =>
      if block then
        let _ ← next
        return .sequence (collectionKind p.tag .sequence) (← blockEntries fuel)
      else bare p
    | some .mappingStart =>
      if block then
        let _ ← next
        return .mapping (collectionKind p.tag .mapping) (← blockPairs fuel)
      else bare p
    | _ => bare p

def blockEntries : Nat → Compose (List Node)
  | 0 => failure
  | fuel + 1 => do
    if ← take .blockEntry then
      let n ← orEmpty [.blockEntry, .blockEnd] (node fuel true false)
      return n :: (← blockEntries fuel)
    else
      expect .blockEnd
      return []

def indentlessEntries : Nat → Compose (List Node)
  | 0 => failure
  | fuel + 1 => do
    if ← take .blockEntry then
      let n ← orEmpty [.blockEntry, .key, .value, .blockEnd] (node fuel true false)
      return n :: (← indentlessEntries fuel)
    else return []

def blockPairs : Nat → Compose (List (Node × Node))
  | 0 => failure
  | fuel + 1 => do
    let ends := [Token.key, .value, .blockEnd]
    if ← take .key then
      let k ← orEmpty ends (node fuel true true)
      let v ← if ← take .value then orEmpty ends (node fuel true true) else pure emptyScalar
      return (k, v) :: (← blockPairs fuel)
    else
      expect .blockEnd
      return []

def flowItems : Nat → Bool → Compose (List Node)
  | 0, _ => failure
  | fuel + 1, first => do
    if ← take .flowSequenceEnd then return []
    else
      if !first then expect .flowEntry
      if ← take .key then
        let ends := [Token.flowEntry, .flowSequenceEnd]
        let k ← orEmpty (.value :: ends) (node fuel false false)
        let v ← if ← take .value then orEmpty ends (node fuel false false) else pure emptyScalar
        return .mapping .mapping [(k, v)] :: (← flowItems fuel false)
      else if ← take .flowSequenceEnd then return []
      else
        let n ← node fuel false false
        return n :: (← flowItems fuel false)

def flowPairs : Nat → Bool → Compose (List (Node × Node))
  | 0, _ => failure
  | fuel + 1, first => do
    if ← take .flowMappingEnd then return []
    else
      if !first then expect .flowEntry
      let ends := [Token.flowEntry, .flowMappingEnd]
      if ← take .key then
        let k ← orEmpty (.value :: ends) (node fuel false false)
        let v ← if ← take .value then orEmpty ends (node fuel false false) else pure emptyScalar
        return (k, v) :: (← flowPairs fuel false)
      else if ← take .flowMappingEnd then return []
      else
        let k ← node fuel false false
        return (k, emptyScalar) :: (← flowPairs fuel false)

end

/-! ### Documents -/

/-- The abbreviations that every document knows. -/
def usualHandles : List (Text × Text) := [(['!'], ['!']), (['!', '!'], Kind.home)]

/-- Directives in front of a document. -/
def directives : Nat → Bool → List (Text × Text) → Compose (List (Text × Text))
  | 0, _, _ => failure
  | fuel + 1, versioned, handles => do
    match ← peek with
    | some (.directive d) =>
      let _ ← next
      match d with
      | .version major => if versioned || major ≠ 1 then failure else directives fuel true handles
      | .handle name meaning =>
        if (handles.lookup name).isSome then failure
        else directives fuel versioned ((name, meaning) :: handles)
      | .other => directives fuel versioned handles
    | _ => return handles

def dropEnds : Nat → Compose Unit
  | 0 => return
  | fuel + 1 => do if ← take .documentEnd then dropEnds fuel

def isDirective : Option Token → Bool
  | some (.directive _) => true
  | _ => false

/-- The only document of a text, if there is one. -/
def document (fuel : Nat) : Compose (Option Node) := do
  let first ← peek
  let n ←
    if isDirective first || first = some .documentStart || first = some .streamEnd then
      if first = some .streamEnd then return none
      let handles ← directives fuel false []
      modify fun s => { s with handles := handles ++ usualHandles }
      expect .documentStart
      let after ← peek
      if isDirective after || (← ahead [.documentStart, .documentEnd, .streamEnd]) then
        pure emptyScalar
      else node fuel true false
    else
      modify fun s => { s with handles := usualHandles }
      node fuel true false
  dropEnds fuel
  expect .streamEnd
  return some n

end Composer

/-- The document of a text: `none` if it cannot be read, `some none` if there is none. -/
def document? (t : Text) : Option (Option Node) :=
  (tokens? t).bind fun tokens =>
    ((Composer.document (8 * tokens.length + 8)).run { tokens }).map (·.1)

end DocWeave.Yaml
