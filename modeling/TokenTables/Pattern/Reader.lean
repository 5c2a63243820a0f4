import TokenTables.Pattern.Bracket
import TokenTables.Text.Alphabetic

/-!
Reading a whole pattern: branches between bars, each a row of items, and groups of branches in
parentheses. A repetition takes the item before it. Flags between parentheses hold up to the end of the
group that they stand in.
-/

namespace TokenTables

namespace Pattern

namespace Scan

/-- The item that a repetition repeats, and the items before it; they stand the latest first. -/
def repeated : List Expr → Scan (Expr × List Expr)
  | [] => failHere .nothingRepeated
  | .empty _ :: _ => failHere .nothingRepeated
  | .flags _ _ :: _ => failHere .nothingRepeated
  | item :: earlier => return (item, earlier)

def passPreference : Scan Unit := do
  if (← peek?) = some '?' then advance

def repetition (least : Nat) (most : Option Nat) (items : List Expr) : Scan (List Expr) := do
  let (item, earlier) ← repeated items
  advance
  passPreference
  return .repetition (← spanFrom item.span.start) least most item :: earlier

def mostCount : Nat := 0xFFFFFFFF

def count : Scan (Except Fault Nat) := do
  advanceBy ((← get).rest.takeWhile Text.isBlank).length
  let start ← here
  let digits ← collect Char.isDigit
  let span ← spanFrom start
  let _ ← collect Text.isBlank
  if digits.isEmpty then return .error ⟨.countMissing, span, none⟩
  let n := Text.digitsValue digits
  return if n ≤ mostCount then .ok n else .error ⟨.decimalTooLarge, span, none⟩

/-- The bounds between braces, up to the closing one. What is wrong with the first count is said only
after it is clear that the braces go on. -/
def bounds (start : Point) : Scan (Nat × Option Nat) := do
  let least ← count
  match ← peek? with
  | none => failFrom .countUnclosed start
  | some ',' =>
    advanceSpaced
    match ← peek? with
    | none => failFrom .countUnclosed start
    | some '\x7d' => return (← least, none)
    | some _ =>
      let least ← least
      let most ← count
      return (least, some (← most))
  | some _ =>
    let least ← least
    return (least, some least)

def countedRepetition (items : List Expr) : Scan (List Expr) := do
  let start ← here
  let (item, earlier) ← repeated items
  advanceSpaced
  if (← peek?).isNone then failFrom .countUnclosed start
  let (least, most) ← bounds start
  if (← peek?) ≠ some '\x7d' then failFrom .countUnclosed start
  advanceSpaced
  passPreference
  if most.any (· < least) then failFrom .countOrder start
  return .repetition (← spanFrom item.span.start) least most item :: earlier

def flag? : Char → Option Flag
  | 'i' => some .caseless
  | 'm' => some .multiLine
  | 's' => some .dotAll
  | 'U' => some .fewest
  | 'u' => some .unicode
  | 'R' => some .anyLineEnd
  | 'x' => some .spaced
  | _ => none

structure FlagsRead where
  flags : List (Flag × Bool × Span)
  minus : Option Span
  endsInMinus : Bool

def flagsRest : (count : Nat) → FlagsRead → Scan FlagsRead
  | 0, read => return read
  | count + 1, read => do
    match ← peek? with
    | none => failHere .flagsUnfinished
    | some c =>
      if c = ':' || c = ')' then return read
      let span ← spanOf c
      let read ← if c = '-' then
          match read.minus with
          | some earlier => clash .flagNegationRepeated span earlier
          | none => pure { read with minus := some span, endsInMinus := true }
        else
          match flag? c with
          | none => fail .flagUnknown span
          | some flag =>
            match read.flags.find? (·.1 = flag) with
            | some (_, _, earlier) => clash .flagRepeated span earlier
            | none =>
              pure ⟨(flag, read.minus.isNone, span) :: read.flags, read.minus, false⟩
      advance
      flagsRest count read

/-- Flags up to the colon or the closing parenthesis; those after a minus sign are switched off. -/
def flags : Scan Flags := do
  let read ← flagsRest ((← get).rest.length + 1) ⟨[], none, false⟩
  match read.minus, read.endsInMinus with
  | some minus, true => fail .flagNegationDangling minus
  | _, _ => return read.flags.reverse.map fun entry => (entry.1, entry.2.1)

def isNameStart (c : Char) : Bool := c = '_' || Text.isAlphabetic c

def isNameChar (c : Char) : Bool :=
  c = '_' || c = '.' || c = '[' || c = ']' || Text.isAlphabetic c || Text.isNumeric c

def groupName : Scan Unit := do
  let start ← here
  match ← peek? with
  | none => failHere .nameUnfinished
  | some c => if c ≠ '>' && !isNameStart c then failAt .nameCharacter c
  let name := (← get).rest.takeWhile isNameChar
  advanceBy name.length
  let span ← spanFrom start
  match ← peek? with
  | none => failHere .nameUnfinished
  | some c => if c ≠ '>' then failAt .nameCharacter c
  advance
  if name.isEmpty then fail .nameEmpty span
  match (← get).names.find? (·.1 = name) with
  | some (_, earlier) => clash .nameRepeated span earlier
  | none => modify fun s => { s with names := (name, span) :: s.names }

inductive Opened where
  | flags (flags : Flags)
  | capture
  | group (flags : Flags)

def opened (start : Point) : Scan Opened := do
  advanceSpaced
  let inner ← here
  for lead in (["?=", "?!", "?<=", "?<!"] : List String) do
    if ← advanceIf lead then failFrom .lookaround start
  if (← advanceIf "?P<") || (← advanceIf "?<") then
    groupName
    return .capture
  if !(← advanceIf "?") then return .capture
  if (← peek?).isNone then fail .groupUnclosed ⟨start, start.after '('⟩
  let flags ← flags
  let closes := (← peek?) = some ')'
  advance
  if !closes then return .group flags
  if flags.isEmpty then fail .nothingRepeated (.empty inner)
  return .flags flags

def spacedBy (flags : Flags) (spaced : Bool) : Bool :=
  ((flags.find? (·.1 = .spaced)).map Prod.snd).getD spaced

/-- The branches of a level: those before the last bar, and the items after it, the latest first. -/
structure Level where
  start : Point
  branches : List Expr
  branchStart : Point
  items : List Expr

namespace Level

def opened (p : Point) : Level := ⟨p, [], p, []⟩

def endBranch (level : Level) (p : Point) : List Expr :=
  .ofItems ⟨level.branchStart, p⟩ level.items.reverse :: level.branches

def toExpr (level : Level) (p : Point) : Expr :=
  match level.endBranch p with
  | [branch] => branch
  | branches => .alternation ⟨level.start, p⟩ branches.reverse

end Level

/-- What a group holds, with the parenthesis that closes it. The blanks of a spaced pattern are passed
over as before the group. -/
def closed (start : Point) (spaced : Bool) (sub : Scan Expr) : Scan Expr := do
  let sub ← sub
  if (← peek?).isNone then fail .groupUnclosed ⟨start, start.after '('⟩
  advance
  modify fun s => { s with spaced := spaced }
  return sub

def space (flags : Flags) : Scan Unit := modify fun s => { s with spaced := spacedBy flags s.spaced }

/-- The rest of a level, up to a closing parenthesis or the end. Every round takes a character. -/
def levelRest : (count : Nat) → Level → Scan Expr
  | 0, level => return level.toExpr (← here)
  | count + 1, level => do
    skipBlanks
    let within (item : Expr) : Level := { level with items := item :: level.items }
    match ← peek? with
    | none | some ')' => return level.toExpr (← here)
    | some '|' =>
      let branches := level.endBranch (← here)
      advance
      levelRest count ⟨level.start, branches, ← here, []⟩
    | some '(' =>
      let start ← here
      let spaced := (← get).spaced
      match ← opened start with
      | .flags flags =>
        space flags
        levelRest count (within (.flags (← spanFrom start) flags))
      | .capture =>
        let sub ← closed start spaced (do levelRest count (.opened (← here)))
        levelRest count (within (.capture (← spanFrom start) sub))
      | .group flags =>
        space flags
        let sub ← closed start spaced (do levelRest count (.opened (← here)))
        levelRest count (within (.group (← spanFrom start) flags sub))
    | some '[' => levelRest count (within (← bracketed))
    | some '?' => levelRest count { level with items := ← repetition 0 (some 1) level.items }
    | some '*' => levelRest count { level with items := ← repetition 0 none level.items }
    | some '+' => levelRest count { level with items := ← repetition 1 none level.items }
    | some '\x7b' => levelRest count { level with items := ← countedRepetition level.items }
    | some _ => levelRest count (within (← primitive))

def whole : Scan Expr := do
  let e ← levelRest ((← get).rest.length + 1) (.opened .first)
  match ← peek? with
  | none => return e
  | some c => failAt .groupUnopened c

end Scan

def Expr.ofText (pattern : Text) : Except Fault Expr := Scan.whole.run' ⟨pattern, .first, false, []⟩

end Pattern

end TokenTables
