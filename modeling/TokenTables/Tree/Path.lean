import TokenTables.Text.Utf8
import TokenTables.Tree.Fault

/-!
The text of a path. Names are separated by slashes, and repeated slashes count as one. A slash at the
end asks for a directory, just as a final `.` does.
-/

namespace TokenTables.Path

def here : Text := "."

def up : Text := ".."

def names (p : Text) : List Text := (Text.pieces '/' p).filter fun piece => !piece.isEmpty

def endsInSlash (p : Text) : Bool := p.getLast? = some '/'

def isAbsolute (p : Text) : Bool := p.head? = some '/'

/-- The names to walk through; an end slash is walked as a final `.`. -/
def steps (p : Text) : List Text := names p ++ if endsInSlash p then [here] else []

def longestName : Nat := 255

def longestPath : Nat := 4095

def hasNul (p : Text) : Bool := p.contains '\x00'

def check (p : Text) : Except FileFault Unit :=
  if p.isEmpty then .error .notFound
  else if longestPath < Text.byteSize p then .error .nameTooLong
  else .ok ()

/-- The names of the directory that holds what the path names. A `.` names nothing of its own. -/
def parentNames (p : Text) : List Text := ((names p).filter (· ≠ here)).dropLast

def namedPieces (pieces : List Text) : List Text :=
  (pieces.reverse.dropWhile fun piece => piece.isEmpty || piece = here).reverse

def parent (p : Text) : Text :=
  match Text.join ['/'] (namedPieces (namedPieces (Text.pieces '/' p)).dropLast) with
  | [] => if isAbsolute p then ['/'] else here
  | dir => dir

def temporaryLength : Nat := 10

/-- The length of the path of a temporary file beside `p`. It is taken from the root of all, and so a
relative path is longer by that of the working directory. -/
def temporarySize (home p : Text) : Nat :=
  (if isAbsolute p then 0 else Text.byteSize home + 1) + Text.byteSize (parent p) + 1 + temporaryLength

end TokenTables.Path
