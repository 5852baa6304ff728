/-!
# Syntax trees

A tree is what a reader of source text hands on: every node has a kind, the bytes it covers, the
row where it begins, and its children in order. A node is known by where it stands, not by what it
holds, so all work on trees is done on a `Focus`: a node together with the way up to the root.

* `Tree.preorder` lists a tree's nodes by recursion on the tree
* `Focus.walk` lists the places of a tree with a stack of what is still to be visited

`Focus.walk` stops because the nodes under the stack grow fewer at every step (`Focus.mass`).
-/

namespace DocWeave.Script

/-- A place in a text: bytes before it, line breaks before it, bytes since the last of them. -/
structure Place where
  offset : Nat := 0
  row : Nat := 0
  column : Nat := 0
deriving DecidableEq, Inhabited, Repr

/-- What a node says of itself, its children apart. -/
structure Label where
  kind : String
  start : Place
  /-- The byte after the node's last one. -/
  stop : Nat
  /-- The part that the node plays in its parent. -/
  field : Option String := none
  named : Bool := true
  missing : Bool := false
  error : Bool := false
deriving DecidableEq, Inhabited, Repr

/-- A node and its children. -/
inductive Tree where
  | node (label : Label) (children : List Tree)
deriving Inhabited

namespace Tree

def label : Tree → Label
  | node l _ => l

def children : Tree → List Tree
  | node _ cs => cs

def kind (t : Tree) : String := t.label.kind

mutual

/-- The nodes of a tree, a node before its children and these from left to right. -/
def preorder : Tree → List Tree
  | node l cs => node l cs :: preorders cs

/-- The nodes of trees that stand side by side. -/
def preorders : List Tree → List Tree
  | [] => []
  | c :: cs => c.preorder ++ preorders cs

end

mutual

/-- The number of nodes. -/
def size : Tree → Nat
  | node _ cs => 1 + sizes cs

/-- The number of nodes of trees that stand side by side. -/
def sizes : List Tree → Nat
  | [] => 0
  | c :: cs => c.size + sizes cs

end

/-- The first child that plays the part `name`. -/
def child? (t : Tree) (name : String) : Option Tree :=
  t.children.find? fun c => c.label.field == some name

theorem sizes_append (cs ds : List Tree) : sizes (cs ++ ds) = sizes cs + sizes ds := by
  induction cs with
  | nil => simp [sizes]
  | cons c cs ih => simp [sizes, ih, Nat.add_assoc]

end Tree

/-! ## A node and the way up -/

/-- One step up: the parent's label and the node's siblings, those before it nearest first. -/
structure Frame where
  parent : Label
  before : List Tree
  after : List Tree
deriving Inhabited

/-- A node in its place. -/
structure Focus where
  tree : Tree
  above : List Frame
deriving Inhabited

namespace Focus

def root (t : Tree) : Focus := ⟨t, []⟩

def label (f : Focus) : Label := f.tree.label

def kind (f : Focus) : String := f.tree.kind

/-- The nodes `after`, each in its place below `parent` and behind the nodes `before`. -/
def split (parent : Label) (above : List Frame) (before : List Tree) : List Tree → List Focus
  | [] => []
  | c :: after => ⟨c, ⟨parent, before, after⟩ :: above⟩ :: split parent above (c :: before) after

def children (f : Focus) : List Focus := split f.label f.above [] f.tree.children

def parent? (f : Focus) : Option Focus :=
  match f.above with
  | [] => none
  | fr :: above => some ⟨.node fr.parent (fr.before.reverse ++ f.tree :: fr.after), above⟩

/-- Child indices from the root down to the node: what tells it from all other nodes. -/
def address (f : Focus) : List Nat := (f.above.map (·.before.length)).reverse

/-! ## Visiting -/

theorem map_tree_split (l : Label) (above : List Frame) (before after : List Tree) :
    (split l above before after).map tree = after := by
  induction after generalizing before with
  | nil => rfl
  | cons c cs ih => simp [split, ih]

theorem map_tree_children (f : Focus) : f.children.map tree = f.tree.children :=
  map_tree_split _ _ _ _

/-- The number of nodes under a stack of places. -/
def mass (stack : List Focus) : Nat := Tree.sizes (stack.map tree)

theorem mass_children_lt (f : Focus) (rest : List Focus) :
    mass (f.children ++ rest) < mass (f :: rest) := by
  obtain ⟨⟨l, cs⟩, above⟩ := f
  simp only [mass, List.map_append, map_tree_children, Tree.sizes_append, List.map_cons, Tree.sizes,
    Tree.size, Tree.children]
  omega

/-- Takes the top of the stack and puts its children in its place, until nothing is left. -/
def walk : List Focus → List Focus
  | [] => []
  | f :: rest => f :: walk (f.children ++ rest)
termination_by stack => mass stack
decreasing_by exact mass_children_lt f rest

/-- The places of a tree in the order of the visit. -/
def visit (t : Tree) : List Focus := walk [root t]

end Focus

end DocWeave.Script
