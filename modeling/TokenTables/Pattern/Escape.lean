import TokenTables.Pattern.Scan

/-!
What a backslash begins: a character written by name or by its hexadecimal digits, a class of
characters, or an anchor. Punctuation after a backslash stands for itself.
-/

namespace TokenTables

namespace Pattern

namespace Scan

def isHexDigit (c : Char) : Bool := (Text.hexValue? c).isSome

def hexNumber (digits : Text) : Nat :=
  digits.foldl (fun n c => n * 16 + (Text.hexValue? c).getD 0) 0

def scalar? (n : Nat) : Option Char := if n.isValidChar then some (Char.ofNat n) else none

/-- Exactly `count` hexadecimal digits, with blanks between and after them. -/
def fixedDigits : (count : Nat) → Scan Text
  | 0 => return []
  | count + 1 => do
    match ← peek? with
    | none => failHere .escapeUnfinished
    | some c =>
      if isHexDigit c then
        advanceSpaced
        return c :: (← fixedDigits count)
      else failAt .hexDigit c

def hexFixed (start : Point) (count : Nat) : Scan Expr := do
  let first ← here
  let digits ← fixedDigits count
  match scalar? (hexNumber digits) with
  | none => failFrom .hexNoCharacter first
  | some c => return .literal ⟨← spanFrom start, c, count = 2⟩

def hexBraced (start : Point) : Scan Expr := do
  let brace ← here
  let first := brace.after '\x7b'
  advanceSpaced
  let digits ← collect isHexDigit
  match ← peek? with
  | none => failFrom .escapeUnfinished brace
  | some c =>
    if c ≠ '\x7d' then failAt .hexDigit c
    let last ← here
    advanceSpaced
    if digits.isEmpty then failFrom .hexEmpty brace
    match scalar? (hexNumber digits) with
    | none => fail .hexNoCharacter ⟨first, last⟩
    | some c => return .literal ⟨← spanFrom start, c, false⟩

def hex (start : Point) (count : Nat) : Scan Expr := do
  advanceSpaced
  match ← peek? with
  | none => failHere .escapeUnfinished
  | some '\x7b' => hexBraced start
  | some _ => hexFixed start count

def propertyUse (start : Point) : Scan Expr := do
  advanceSpaced
  match ← peek? with
  | none => failHere .escapeUnfinished
  | some '\x7b' =>
    advanceSpaced
    let name ← collect (· ≠ '\x7d')
    if (← peek?).isNone then failHere .escapeUnfinished
    advance
    return .property ⟨← spanFrom start, name, name.any fun c => c = '=' || c = ':'⟩
  | some '\\' => failAt .propertyName '\\'
  | some c =>
    advanceSpaced
    return .property ⟨← spanFrom start, [c], false⟩

def isBoundaryChar (c : Char) : Bool := c.isAlpha || c = '-'

def boundary? (name : Text) : Option Anchor :=
  if name = ("start" : Text) then some .wordStart
  else if name = ("end" : Text) then some .wordEnd
  else if name = ("start-half" : Text) then some .wordStartHalf
  else if name = ("end-half" : Text) then some .wordEndHalf
  else none

/-- The edge of a word, of which a name in braces may tell the kind. Braces that begin with no name are
left for a repetition. -/
def wordBoundary (start : Point) : Scan Expr := do
  let before ← get
  if before.rest.head? ≠ some '\x7b' then return .anchor (← spanFrom start) .wordEdge
  advanceSpaced
  let first ← here
  match ← peek? with
  | none => failFrom .boundaryUnfinished start
  | some c =>
    if !isBoundaryChar c then
      set before
      return .anchor (← spanFrom start) .wordEdge
    let name ← collect isBoundaryChar
    let last ← here
    if (← peek?) ≠ some '\x7d' then failFrom .boundaryUnclosed before.point
    advance
    match boundary? name with
    | some anchor => return .anchor (← spanFrom start) anchor
    | none => fail .boundaryUnknown ⟨first, last⟩

def isSelfEscape (c : Char) : Bool :=
  c.toNat < 0x80 && !c.isAlphanum && c ≠ '<' && c ≠ '>'

def namedChar? : Char → Option Char
  | 'a' => some '\x07'
  | 'f' => some '\x0c'
  | 't' => some '\t'
  | 'n' => some '\n'
  | 'r' => some '\r'
  | 'v' => some '\x0b'
  | _ => none

def anchor? : Char → Option Anchor
  | 'A' => some .textStart
  | 'z' => some .textEnd
  | 'B' => some .noWordEdge
  | '<' => some .wordStart
  | '>' => some .wordEnd
  | _ => none

def shorthand? : Char → Option (Shorthand × Bool)
  | 'd' => some (.digit, false)
  | 'D' => some (.digit, true)
  | 's' => some (.space, false)
  | 'S' => some (.space, true)
  | 'w' => some (.word, false)
  | 'W' => some (.word, true)
  | _ => none

def shortEscape (start : Point) (c : Char) : Scan Expr := do
  advance
  let span ← spanFrom start
  if isSelfEscape c then return .literal ⟨span, c, false⟩
  match namedChar? c, anchor? c, shorthand? c with
  | some named, _, _ => return .literal ⟨span, named, false⟩
  | none, some anchor, _ => return .anchor span anchor
  | none, none, some (shorthand, negated) => return .shorthand ⟨span, shorthand, negated⟩
  | none, none, none => if c = 'b' then wordBoundary start else fail .escapeUnknown span

def escape : Scan Expr := do
  let start ← here
  advance
  match ← peek? with
  | none => failFrom .escapeUnfinished start
  | some c =>
    if c.isDigit then fail .backreference ⟨start, (← here).after c⟩
    else if c = 'x' then hex start 2
    else if c = 'u' then hex start 4
    else if c = 'U' then hex start 8
    else if c = 'p' || c = 'P' then propertyUse start
    else shortEscape start c

def primitive : Scan Expr := do
  match ← peek? with
  | none => return .empty (.empty (← here))
  | some '\\' => escape
  | some c =>
    let span ← spanOf c
    advance
    match c with
    | '.' => return .dot span
    | '^' => return .anchor span .lineStart
    | '$' => return .anchor span .lineEnd
    | c => return .literal ⟨span, c, false⟩

end Scan

end Pattern

end TokenTables
