import TokenTables.Text.Runs

/-!
Patterns for text, and where they match. A set of spots in a text is a list of marks, one before each
character and one at the end. A pattern takes the spots where a match may begin to the spots where one
can end, and all ends are found at once, so none of two matches is preferred.
-/

namespace TokenTables

/-- What stands around a spot without being matched. -/
inductive Look where
  | textStart
  | textEnd
  | lineStart
  | lineEnd
  | anyLineStart
  | anyLineEnd
  | wordEdge
  | noWordEdge
  | wordStart
  | wordEnd
  | wordStartHalf
  | wordEndHalf
  | scriptEdge
deriving DecidableEq, Repr

inductive Pattern where
  | empty
  | oneOf (runs : Runs)
  | look (l : Look)
  | concat (first second : Pattern)
  | alternate (first second : Pattern)
  | repetition (least : Nat) (most : Option Nat) (sub : Pattern)
  | capture (sub : Pattern)
deriving DecidableEq, Repr

def digitRuns : Runs := [(0x30, 0x39)]

def spaceRuns : Runs := [(0x09, 0x0D), (0x20, 0x20)]

def wordRuns : Runs := [(0x30, 0x39), (0x41, 0x5A), (0x5F, 0x5F), (0x61, 0x7A)]

def isWordChar (c : Option Char) : Bool := c.any (Text.inRuns wordRuns)

/-- Lines end at line feeds; where any line ending counts, also at carriage returns, of which one before
a line feed belongs to it. Words are of ASCII letters, digits and underscores; no table tells the
words of other scripts, and patterns that ask for them are refused. -/
def Look.holds (before after : Option Char) : Look → Bool
  | textStart => before.isNone
  | textEnd => after.isNone
  | lineStart => before.isNone || before = some '\n'
  | lineEnd => after.isNone || after = some '\n'
  | anyLineStart =>
    before.isNone || before = some '\n' || (before = some '\r' && after ≠ some '\n')
  | anyLineEnd => after.isNone || after = some '\r' || (after = some '\n' && before ≠ some '\r')
  | wordEdge => isWordChar before ≠ isWordChar after
  | noWordEdge => isWordChar before = isWordChar after
  | wordStart => !isWordChar before && isWordChar after
  | wordEnd => isWordChar before && !isWordChar after
  | wordStartHalf => !isWordChar before
  | wordEndHalf => !isWordChar after
  | scriptEdge => false

abbrev Marks := List Bool

namespace Marks

def all (text : Text) : Marks := List.replicate (text.length + 1) true

def isEmpty (m : Marks) : Bool := !m.any id

def union (m n : Marks) : Marks := List.zipWith (· || ·) m n

def difference (m n : Marks) : Marks := List.zipWith (fun a b => a && !b) m n

def advance (runs : Runs) (text : Text) (m : Marks) : Marks :=
  false :: List.zipWith (fun c here => here && Text.inRuns runs c) text m

def keep (l : Look) : (before : Option Char) → Text → Marks → Marks
  | before, [], m => m.map fun here => here && l.holds before none
  | before, c :: text, here :: m => (here && l.holds before (some c)) :: keep l (some c) text m
  | _, _ :: _, [] => []

def iterate (step : Marks → Marks) : (times : Nat) → Marks → Marks
  | 0, m => m
  | times + 1, m => if m.isEmpty then m else iterate step times (step m)

/-- The spots seen, with those that at most `times` steps lead to from the new ones among them. -/
def spread (step : Marks → Marks) : (times : Nat) → (seen fresh : Marks) → Marks
  | 0, seen, _ => seen
  | times + 1, seen, fresh =>
    let found := difference (step fresh) seen
    if found.isEmpty then seen else spread step times (union seen found) found

end Marks

namespace Pattern

/-- The spots where matches from the given ones end. More repetitions than there are spots lead nowhere
new: one of them matches nothing, and can be left out or taken again. -/
def reach (text : Text) : Pattern → Marks → Marks
  | empty, m => m
  | oneOf runs, m => m.advance runs text
  | look l, m => m.keep l none text
  | concat a b, m => reach text b (reach text a m)
  | alternate a b, m => (reach text a m).union (reach text b m)
  | capture sub, m => reach text sub m
  | repetition least most sub, m =>
    let spots := text.length + 1
    let required := Marks.iterate (reach text sub) (min least spots) m
    let further := most.elim spots fun most => min (most - least) spots
    Marks.spread (reach text sub) further required required

def occursIn (p : Pattern) (text : Text) : Bool := !(p.reach text (Marks.all text)).isEmpty

def hasScriptEdge : Pattern → Bool
  | empty | oneOf _ => false
  | look l => l = .scriptEdge
  | concat a b | alternate a b => hasScriptEdge a || hasScriptEdge b
  | repetition _ _ sub | capture sub => hasScriptEdge sub

end Pattern

end TokenTables
