import DocWeave.Path
import DocWeave.Text.Encoding

/-!
# Files

The files that the program sees are a tree of directories, files and links, and the place in it where
the program stands. A path is followed name by name; a link is replaced by what it points to, which
is done a bounded number of times, so that links in a circle are found out.

A location is the row of names that leads from the root to a place in the tree without any link.
-/

namespace DocWeave

/-- What is kept under a name. -/
inductive FileNode where
  | file (bytes : Bytes)
  | link (target : Text)
  | directory (entries : List (Text × FileNode))
deriving Inhabited

structure Files where
  root : FileNode
  /-- The location of the working directory. -/
  here : List Text
deriving Inhabited

/-! ## Trees -/

namespace FileNode

/-- The node at a location. -/
def find? : FileNode → List Text → Option FileNode
  | n, [] => some n
  | directory entries, name :: rest => (entries.lookup name).bind fun n => n.find? rest
  | _, _ :: _ => none

/-- The tree with another node at a location, whose directory is there. -/
def put (new : FileNode) : List Text → FileNode → FileNode
  | [], _ => new
  | name :: rest, directory entries =>
    if (entries.lookup name).isSome then
      directory (entries.map fun e => if e.1 = name then (name, put new rest e.2) else e)
    else directory (entries ++ [(name, put new rest (directory []))])
  | _ :: _, n => n

mutual

/-- The locations of all files and their contents. -/
def files : FileNode → List (List Text × Bytes)
  | file bytes => [([], bytes)]
  | link _ => []
  | directory entries => filesBelow entries

/-- The locations of all files that are kept under names, and their contents. -/
def filesBelow : List (Text × FileNode) → List (List Text × Bytes)
  | [] => []
  | (name, n) :: rest => n.files.map (fun e => (name :: e.1, e.2)) ++ filesBelow rest

end

end FileNode

namespace Files

/-! ## Problems -/

/-- Why a path leads nowhere. -/
inductive Problem where
  | absent
  | notDirectory
  | isDirectory
  | looped
deriving DecidableEq, Inhabited

def Problem.number : Problem → Nat
  | absent => 2
  | notDirectory => 20
  | isDirectory => 21
  | looped => 40

def Problem.words : Problem → String
  | absent => "No such file or directory"
  | notDirectory => "Not a directory"
  | isDirectory => "Is a directory"
  | looped => "Too many levels of symbolic links"

def Problem.message (p : Problem) (path : Text) : Text :=
  ("[Errno " ++ toString p.number ++ "] " ++ p.words ++ ": ").toList ++ Printed.quoted path

/-! ## Following paths -/

/-- Whether a written path must be that of a directory: it ends in a separator. -/
def asksForDirectory (t : Text) : Bool := ['/'].isSuffixOf t || ['/', '.'].isSuffixOf t

/-- Where a link points to. If that must be a directory, a point stands behind the names. -/
def ofTarget (target : Text) : Path :=
  let p := Path.ofText target
  if asksForDirectory target then p.child ['.'] else p

/-- How many links are followed. -/
def linkLimit : Nat := 40

/--
The location to which names lead from the directory at `location`. The last name need not be there;
a point stays in the directory, so that what a point stands behind must be one. At a link, `redirect`
goes on from the directory that holds it, with its target and the names that are left.
-/
def descend (root : FileNode)
    (redirect : List Text → Path → List Text → Except Problem (List Text)) :
    List Text → List Text → Except Problem (List Text)
  | location, [] => .ok location
  | location, name :: rest =>
    if name = ['.'] then descend root redirect location rest
    else if name = ['.', '.'] then descend root redirect location.dropLast rest
    else
      match root.find? (location ++ [name]) with
      | none => if rest.isEmpty then .ok (location ++ [name]) else .error .absent
      | some (.file _) => if rest.isEmpty then .ok (location ++ [name]) else .error .notDirectory
      | some (.directory _) => descend root redirect (location ++ [name]) rest
      | some (.link target) => redirect location (ofTarget target) rest

/-- The location to which names lead when so many links may be followed. -/
def follow (root : FileNode) : Nat → List Text → List Text → Except Problem (List Text)
  | 0 => descend root fun _ _ _ => .error .looped
  | links + 1 => descend root fun location p rest =>
    follow root links (if p.root.isEmpty then location else []) (p.names ++ rest)

/-- The location of a path, at which there may be nothing yet. -/
def place (f : Files) (p : Path) : Except Problem (List Text) :=
  follow f.root linkLimit (if p.root.isEmpty then f.here else []) p.names

/-- The node at a location that has been found. -/
def nodeAt (f : Files) (location : List Text) : Except Problem (List Text × FileNode) :=
  match f.root.find? location with
  | some n => .ok (location, n)
  | none => .error .absent

/-- What a path leads to, and where that is. -/
def look (f : Files) (p : Path) : Except Problem (List Text × FileNode) := f.place p >>= f.nodeAt

def isDirectory (f : Files) (p : Path) : Bool :=
  match f.look p with
  | .ok (_, .directory _) => true
  | _ => false

def isPresent (f : Files) (p : Path) : Bool := (f.look p).isOk

/-- Whether a written path leads anywhere. -/
def isPresentText (f : Files) (t : Text) : Bool :=
  let p := Path.ofText t
  !t.isEmpty && f.isPresent p && (!asksForDirectory t || f.isDirectory p)

/-! ## Reading and writing -/

/-- The contents of a file. -/
def read (f : Files) (p : Path) : Except Problem Bytes :=
  match f.look p with
  | .ok (_, .file bytes) => .ok bytes
  | .ok _ => .error .isDirectory
  | .error e => .error e

/-- The files once a file has other contents; the file need not have been there. -/
def write (f : Files) (p : Path) (bytes : Bytes) : Except Problem Files := do
  let location ← f.place p
  match f.root.find? location with
  | some (.directory _) => throw .isDirectory
  | _ => return { f with root := FileNode.put (.file bytes) location f.root }

/-- The files once something is added to a file. -/
def append (f : Files) (p : Path) (bytes : Bytes) : Except Problem Files :=
  match f.read p with
  | .ok old => f.write p (old ++ bytes)
  | .error .absent => f.write p bytes
  | .error e => .error e

end Files

end DocWeave
