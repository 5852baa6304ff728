import DocWeave.Files
import DocWeave.Log
import DocWeave.Sorting

/-!
# Collecting files

The files below a directory are visited in the order of their names, directory by directory. Links to
directories are not followed, so that every directory is visited once. Of a file with several names
the first one visited is taken.
-/

namespace DocWeave.Files

/-- What is met on the way through a directory. -/
inductive Visit where
  /-- A link to a directory. -/
  | skipped (path : Path)
  | file (path : Path) (location : List Text)
deriving DecidableEq

/-- Entries are visited in the order of their names. -/
def nameLe {α : Type} (a b : Text × α) : Bool := Order.le a.1 b.1

/-- What a link is met as. -/
def visitLink (f : Files) (path : Path) : List Visit :=
  match f.look path with
  | .ok (_, .directory _) => [.skipped path]
  | .ok (real, .file _) => [.file path real]
  | _ => []

mutual

/-- What is met at a node with some path, whose place is `location`. -/
def visits (f : Files) (path : Path) (location : List Text) : FileNode → List Visit
  | .file _ => [.file path location]
  | .link _ => f.visitLink path
  | .directory entries => (Sorting.sort nameLe (visitsBelow f path location entries)).flatMap (·.2)

/-- What is met under every name of a directory. -/
def visitsBelow (f : Files) (path : Path) (location : List Text) :
    List (Text × FileNode) → List (Text × List Visit)
  | [] => []
  | (name, n) :: rest =>
    (name, visits f (path.child name) (location ++ [name]) n) :: visitsBelow f path location rest

end

/-- What has been collected: the paths, and the locations that have been seen. -/
structure Found where
  paths : List Path := []
  locations : List (List Text) := []
  entries : List Log.Entry := []

/-- Takes a file that is visited if it has one of the extensions and has not been seen. -/
def Found.visit (extensions : List Text) (found : Found) : Visit → Found
  | .skipped path =>
    let entry := Log.Source.documenting.entry .debug
      ["Skipping symlinked directory ", .path path.toText]
    { found with entries := found.entries ++ [entry] }
  | .file path location =>
    if extensions.contains path.suffix && !found.locations.contains location then
      { found with
        paths := found.paths ++ [path]
        locations := found.locations ++ [location] }
    else found

/-- The files below a directory whose names end in one of the extensions. -/
def collect (f : Files) (p : Path) (extensions : List Text) : Except Problem Found :=
  match f.look p with
  | .ok (location, .directory entries) =>
    .ok ((f.visits p location (.directory entries)).foldl (Found.visit extensions) {})
  | .ok _ => .error .notDirectory
  | .error e => .error e

end DocWeave.Files
