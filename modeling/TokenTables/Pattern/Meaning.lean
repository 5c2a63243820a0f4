import TokenTables.Pattern.Expression
import TokenTables.Pattern.Fault

/-!
What a written pattern matches. Patterns are of characters; without the Unicode flag they are of bytes,
of which only the ASCII ones may be matched, since a text has to stay UTF-8. Tables of Unicode
properties, of scripts and of upper and lower case are not at hand: what needs them is refused.
-/

namespace TokenTables

namespace Pattern

structure Modes where
  caseless : Bool
  multiLine : Bool
  dotAll : Bool
  unicode : Bool
  anyLineEnd : Bool
deriving DecidableEq, Repr

namespace Modes

def usual : Modes := ⟨false, false, false, true, false⟩

def switch (m : Modes) (entry : Flag × Bool) : Modes :=
  match entry.1 with
  | .caseless => { m with caseless := entry.2 }
  | .multiLine => { m with multiLine := entry.2 }
  | .dotAll => { m with dotAll := entry.2 }
  | .unicode => { m with unicode := entry.2 }
  | .anyLineEnd => { m with anyLineEnd := entry.2 }
  | .fewest | .spaced => m

end Modes

def Flags.modes (flags : Flags) (m : Modes) : Modes := flags.foldl Modes.switch m

def refuse {α : Type} (reason : Reason) (span : Span) : Except Fault α := .error ⟨reason, span, none⟩

def topCharacter : Nat := 0x10FFFF

def topByte : Nat := 0xFF

def topAscii : Nat := 0x7F

/-- All characters that are not in the set. Surrogates are no characters. -/
def otherCharacters (r : Runs) : Runs := (r.insert 0xD800 0xDFFF).complement topCharacter

def shifted (r : Runs) (first last : Nat) (shift : Nat → Nat) : Runs :=
  (Runs.intersection topByte r [(first, last)]).map fun run => (shift run.1, shift run.2)

def bothCases (r : Runs) : Runs :=
  (r.union (shifted r 0x41 0x5A (· + 0x20))).union (shifted r 0x61 0x7A (· - 0x20))

/-- A set of characters. `closed` if it is known without a table to hold both cases of every letter, as
the empty set does. -/
structure Members where
  runs : Runs
  closed : Bool
deriving Repr

namespace Members

def none : Members := ⟨[], true⟩

def of (runs : Runs) : Members := ⟨.ofList runs, false⟩

def union (a b : Members) : Members :=
  if b.runs.isEmpty then a else ⟨a.runs.union b.runs, a.closed && b.closed⟩

def negate (m : Modes) (a : Members) : Members :=
  ⟨if m.unicode then otherCharacters a.runs else a.runs.complement topByte,
    a.closed || a.runs.isEmpty⟩

def fold (m : Modes) (span : Span) (a : Members) : Except Fault Members :=
  if !m.caseless then .ok a
  else if !m.unicode then .ok ⟨bothCases a.runs, true⟩
  else if a.closed || a.runs.isEmpty then .ok ⟨a.runs, true⟩
  else refuse .caselessUnavailable span

def checkAscii (m : Modes) (span : Span) (a : Members) : Except Fault Members :=
  if m.unicode || a.runs.isWithin topAscii then .ok a else refuse .notUtf8 span

def finish (m : Modes) (span : Span) (negated : Bool) (a : Members) : Except Fault Members := do
  let folded ← fold m span a
  checkAscii m span (if negated then folded.negate m else folded)

def operate (operator : SetOperator) (a b : Members) : Members :=
  let runs := match operator with
    | .intersection => Runs.intersection topCharacter a.runs b.runs
    | .difference => Runs.difference topCharacter a.runs b.runs
    | .symmetricDifference => Runs.symmetricDifference topCharacter a.runs b.runs
  ⟨runs, a.closed && b.closed⟩

end Members

def Shorthand.runs : Shorthand → Runs
  | digit => digitRuns
  | space => spaceRuns
  | word => wordRuns

def ShorthandUse.members (m : Modes) (use : ShorthandUse) : Except Fault Members :=
  if m.unicode then refuse .shorthandUnavailable use.span
  else
    let a := Members.of use.shorthand.runs
    Members.checkAscii m use.span (if use.negated then a.negate m else a)

/-- The name as it is looked up: ASCII in lower case, without a leading `is`, blanks, hyphens and
underscores. -/
def PropertyUse.plainName (use : PropertyUse) : Text :=
  let lower := use.name.map Char.toLower
  let name := (Text.after? ("is" : Text) lower).getD lower
  name.filter fun c => c.toNat < 0x80 && c ≠ ' ' && c ≠ '_' && c ≠ '-'

/-- Names that are both of a property and of one of its values are taken as values. -/
def valueNames : List Text := ["cf", "sc", "lc"]

/-- No property is at hand. -/
def PropertyUse.members (m : Modes) (use : PropertyUse) : Except Fault Members :=
  if !m.unicode then refuse .unicodeDisallowed use.span
  else if !use.hasValue && valueNames.contains use.plainName then
    refuse .propertyValueUnknown use.span
  else refuse .propertyUnknown use.span

def Literal.check (m : Modes) (l : Literal) : Except Fault Unit :=
  if !m.unicode && l.isByte && topAscii < l.char.toNat then refuse .notUtf8 l.span else .ok ()

def Literal.member (m : Modes) (l : Literal) : Except Fault Nat := do
  l.check m
  if !m.unicode && topAscii < l.char.toNat then refuse .unicodeDisallowed l.span
  return l.char.toNat

mutual

def SetExpr.members (m : Modes) : SetExpr → Except Fault Members
  | .empty _ => .ok .none
  | .literal l => do return .of (.single (← l.member m))
  | .range _ first last => do
    let low ← first.member m
    let high ← last.member m
    return .of [(low, high)]
  | .named span runs negated => (Members.of runs).finish m span negated
  | .shorthand use => use.members m
  | .property use => use.members m
  | .bracketed span negated inner => do (← SetExpr.members m inner).finish m span negated
  | .union _ items => SetExpr.membersOfAll m items
  | .operation _ operator left right => do
    let a ← SetExpr.members m left
    let b ← SetExpr.members m right
    let b ← b.fold m right.span
    let a ← a.fold m left.span
    return a.operate operator b

def SetExpr.membersOfAll (m : Modes) : List SetExpr → Except Fault Members
  | [] => .ok .none
  | item :: rest => do
    let a ← SetExpr.members m item
    return a.union (← SetExpr.membersOfAll m rest)

end

def Literal.pattern (m : Modes) (l : Literal) : Except Fault Pattern := do
  l.check m
  if !m.caseless then return .oneOf (.single l.char.toNat)
  if m.unicode then refuse .caselessUnavailable l.span
  return .oneOf (bothCases (.single l.char.toNat))

def dotPattern (m : Modes) (span : Span) : Except Fault Pattern :=
  if !m.unicode then refuse .notUtf8 span
  else
    let left : Runs := if m.dotAll then [] else if m.anyLineEnd then [(0x0A, 0x0A), (0x0D, 0x0D)]
      else [(0x0A, 0x0A)]
    .ok (.oneOf (otherCharacters left))

/-- Without the Unicode flag words are of ASCII. -/
def Anchor.look (m : Modes) (kind : Anchor) : Look :=
  let word (l : Look) : Look := if m.unicode then .scriptEdge else l
  match kind with
  | lineStart =>
    if !m.multiLine then .textStart else if m.anyLineEnd then .anyLineStart else .lineStart
  | lineEnd => if !m.multiLine then .textEnd else if m.anyLineEnd then .anyLineEnd else .lineEnd
  | textStart => .textStart
  | textEnd => .textEnd
  | wordEdge => word .wordEdge
  | noWordEdge => word .noWordEdge
  | wordStart => word .wordStart
  | wordEnd => word .wordEnd
  | wordStartHalf => word .wordStartHalf
  | wordEndHalf => word .wordEndHalf

/-- Nothing is left of what is taken no times, and taking once is no repetition. -/
def repeated (least : Nat) (most : Option Nat) (sub : Pattern) : Pattern :=
  if most = some 0 then .empty
  else if least = 1 && most = some 1 then sub
  else .repetition least most sub

def row : List Pattern → Pattern
  | [] => .empty
  | [p] => p
  | .empty :: rest => row rest
  | p :: rest =>
    match row rest with
    | .empty => p
    | q => .concat p q

def runs? : Pattern → Option Runs
  | .oneOf runs => some runs
  | _ => none

def alternatives : List Pattern → Pattern
  | [] => .oneOf []
  | [p] => p
  | p :: rest => .alternate p (alternatives rest)

/-- Branches that each match one given character are one set, and so are branches that each match one of
several characters. -/
def branches (ps : List Pattern) : Pattern :=
  let sets := ps.filterMap runs?
  let single := sets.filterMap Runs.single?
  if sets.length = ps.length && (single.isEmpty || single.length = sets.length) then
    .oneOf (Runs.ofList sets.flatten)
  else alternatives ps

abbrev Reading := StateT Modes (Except Fault)

mutual

def Expr.meaning : Expr → Reading Pattern
  | .empty _ => return .empty
  | .flags _ switches => do
    modify switches.modes
    return .empty
  | .literal l => do l.pattern (← get)
  | .dot span => do dotPattern (← get) span
  | .anchor _ kind => return .look (kind.look (← get))
  | .shorthand use => return .oneOf (← use.members (← get)).runs
  | .property use => return .oneOf (← use.members (← get)).runs
  | .bracketed span negated inner => do
    let m ← get
    return .oneOf (← (← inner.members m).finish m span negated).runs
  | .repetition _ least most sub => return repeated least most (← Expr.meaning sub)
  | .capture _ sub => do
    let m ← get
    let p ← Expr.meaning sub
    set m
    return .capture p
  | .group _ switches sub => do
    let m ← get
    set (switches.modes m)
    let p ← Expr.meaning sub
    set m
    return p
  | .concat _ items => return row (← Expr.meanings items)
  | .alternation _ items => return branches (← Expr.meanings items)

def Expr.meanings : List Expr → Reading (List Pattern)
  | [] => return []
  | e :: rest => do
    let p ← Expr.meaning e
    return p :: (← Expr.meanings rest)

end

end Pattern

end TokenTables
