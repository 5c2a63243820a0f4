import TokenTables.Tree.Basic
import TokenTables.Tree.Path

/-!
Walking a path through a tree. Links are followed wherever they stand, the last name included, and at
most 40 on one walk. The walk ends at an entry that is there, or at the free place of a last name whose
directory is there.
-/

namespace TokenTables.Tree

/-- The walk from the directory `start` on; what a link asks for is walked by `onLink`. -/
def walkWith (t : Tree) (onLink : Place → List Text → Except FileFault Place) :
    (start : Place) → List Text → Except FileFault Place
  | start, [] => .ok start
  | start, name :: rest =>
    if !t.isDir start then .error .notDirectory
    else if name = Path.here then walkWith t onLink start rest
    else if name = Path.up then walkWith t onLink start.dropLast rest
    else if Path.longestName < Text.byteSize name then .error .nameTooLong
    else
      match t.find? (start ++ [name]) with
      | some (.link target) =>
        onLink (if Path.isAbsolute target then [] else start) (Path.steps target ++ rest)
      | some _ => walkWith t onLink (start ++ [name]) rest
      | none => if rest.isEmpty then .ok (start ++ [name]) else .error .notFound

/-- The walk that follows at most `links` links. -/
def walk (t : Tree) : (links : Nat) → (start : Place) → List Text → Except FileFault Place
  | 0 => walkWith t fun _ _ => .error .tooManyLinks
  | links + 1 => walkWith t (walk t links)

def mostLinks : Nat := 40

def resolve (t : Tree) (path : Text) : Except FileFault Place := do
  if Path.hasNul path then .error .nulInPath
  Path.check path
  walk t mostLinks [] (Path.steps path)

def lookup (t : Tree) (path : Text) : Except FileFault Node := do
  let place ← t.resolve path
  match t.find? place with
  | some node => .ok node
  | none => .error .notFound

def directory (t : Tree) (names : List Text) : Except FileFault Place :=
  walk t mostLinks [] (names ++ [Path.here])

def readBytes (t : Tree) (path : Text) : Except FileFault ByteArray := do
  match ← t.lookup path with
  | .file bytes _ => .ok bytes
  | _ => .error .isDirectory

def readText (t : Tree) (path : Text) : Except FileFault Text := do
  let bytes ← t.readBytes path
  match Text.ofUtf8? bytes with
  | some text => .ok text
  | none => .error .notText

def modeAt? (t : Tree) (path : Text) : Option Mode := (t.lookup path).toOption.bind Node.mode?

end TokenTables.Tree
