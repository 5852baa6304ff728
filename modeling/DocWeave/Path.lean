import DocWeave.Text.Pieces

/-!
# Paths

A path is a row of names, perhaps with a root in front. Slashes and single points that change
nothing are dropped when a path is read, so a path has one written form; two points in front of a
name stay, because what they mean depends on the files.
-/

namespace DocWeave

structure Path where
  /-- The slashes in front: none, one, or exactly two. -/
  root : Text
  names : List Text
deriving DecidableEq, Inhabited

namespace Path

def ofText (t : Text) : Path :=
  let slashes := (t.takeWhile (· == '/')).length
  let root := if slashes = 0 then [] else if slashes = 2 then ['/', '/'] else ['/']
  ⟨root, (Pieces.split '/' t).filter fun name => !name.isEmpty && name != ['.']⟩

def toText (p : Path) : Text :=
  match p.root, p.names with
  | [], [] => ['.']
  | root, names => root ++ Pieces.join '/' names

/-- The path of a file in the directory `p`. -/
def child (p : Path) (name : Text) : Path := { p with names := p.names ++ [name] }

def name (p : Path) : Text := p.names.getLastD []

/-- What the name ends in, from its last point on; a point at either end of the name does not count. -/
def suffix (p : Path) : Text :=
  let back := p.name.reverse.takeWhile (· != '.')
  let front := p.name.reverse.drop back.length
  match back, front with
  | _ :: _, '.' :: _ :: _ => '.' :: back.reverse
  | _, _ => []

/-- Paths are in the order of their roots and names. -/
def parts (p : Path) : List Text := if p.root.isEmpty then p.names else p.root :: p.names

end Path

end DocWeave
