import TokenTables.Pattern.Fault
import TokenTables.Text.Blank

/-!
Reading along a written pattern. The cursor knows the place of the next character. In a spaced pattern
blanks are passed over, and so is a comment, from a number sign to the end of its line.
-/

namespace TokenTables

namespace Pattern

structure Cursor where
  rest : Text
  point : Point
  spaced : Bool
  names : List (Text × Span)

abbrev Scan := StateT Cursor (Except Fault)

namespace Scan

def fail {α : Type} (reason : Reason) (span : Span) : Scan α := throw ⟨reason, span, none⟩

def clash {α : Type} (reason : Reason) (span earlier : Span) : Scan α :=
  throw ⟨reason, span, some earlier⟩

def here : Scan Point := return (← get).point

def spanFrom (start : Point) : Scan Span := return ⟨start, ← here⟩

def failHere {α : Type} (reason : Reason) : Scan α := do fail reason (.empty (← here))

def failFrom {α : Type} (reason : Reason) (start : Point) : Scan α := do
  fail reason (← spanFrom start)

def spanOf (c : Char) : Scan Span := do
  let p ← here
  return ⟨p, p.after c⟩

def failAt {α : Type} (reason : Reason) (c : Char) : Scan α := do fail reason (← spanOf c)

def peek? : Scan (Option Char) := return (← get).rest.head?

def peekSecond? : Scan (Option Char) := return (← get).rest.tail.head?

def passed : (count : Nat) → Cursor → Cursor
  | 0, s => s
  | count + 1, s =>
    match s.rest with
    | [] => s
    | c :: rest => passed count { s with rest := rest, point := s.point.after c }

def advanceBy (count : Nat) : Scan Unit := modify (passed count)

def advance : Scan Unit := advanceBy 1

/-- The place after blanks and comments, and what follows. -/
def afterBlanks : (inComment : Bool) → Point → Text → Point × Text
  | _, p, [] => (p, [])
  | true, p, c :: rest => afterBlanks (c ≠ '\n') (p.after c) rest
  | false, p, c :: rest =>
    if Text.isBlank c then afterBlanks false (p.after c) rest
    else if c = '#' then afterBlanks true (p.after c) rest
    else (p, c :: rest)

def skipBlanks : Scan Unit := modify fun s =>
  if s.spaced then
    let (point, rest) := afterBlanks false s.point s.rest
    { s with point := point, rest := rest }
  else s

def advanceSpaced : Scan Unit := do
  advance
  skipBlanks

/-- The character that follows the next one and, in a spaced pattern, blanks and a number sign. At the
end of the pattern blanks and number sign count themselves. -/
def peekSpaced? : Scan (Option Char) := do
  let s ← get
  let after := s.rest.tail
  if s.spaced then
    match after.dropWhile Text.isBlank with
    | [] => return after.head?
    | '#' :: rest => return ((rest.dropWhile Text.isBlank).head?).or after.head?
    | c :: _ => return some c
  else return after.head?

def advanceIf (lead : Text) : Scan Bool := do
  if Text.beginsWith lead (← get).rest then
    advanceBy lead.length
    return true
  else return false

def collectUpTo (p : Char → Bool) : (count : Nat) → Scan Text
  | 0 => return []
  | count + 1 => do
    match ← peek? with
    | some c =>
      if p c then
        advanceSpaced
        return c :: (← collectUpTo p count)
      else return []
    | none => return []

/-- The next characters that satisfy `p`, without the blanks between them. -/
def collect (p : Char → Bool) : Scan Text := do collectUpTo p (← get).rest.length

end Scan

end Pattern

end TokenTables
