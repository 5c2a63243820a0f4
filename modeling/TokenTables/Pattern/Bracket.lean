import TokenTables.Pattern.Escape

/-!
Sets of characters in brackets. Sets may stand in sets, and `&&`, `--` and `~~` join what stands left of
them with the items up to the next of them. A hyphen at the beginning, before another or before the end
stands for itself, and so does a closing bracket that comes first.
-/

namespace TokenTables

namespace Pattern

def namedRuns? (name : Text) : Option Runs :=
  named.findSome? fun entry => if entry.1.toList = name then some entry.2 else none
where
  named : List (String × Runs) :=
    [("alnum", [(0x30, 0x39), (0x41, 0x5A), (0x61, 0x7A)]),
     ("alpha", [(0x41, 0x5A), (0x61, 0x7A)]),
     ("ascii", [(0x00, 0x7F)]),
     ("blank", [(0x09, 0x09), (0x20, 0x20)]),
     ("cntrl", [(0x00, 0x1F), (0x7F, 0x7F)]),
     ("digit", digitRuns),
     ("graph", [(0x21, 0x7E)]),
     ("lower", [(0x61, 0x7A)]),
     ("print", [(0x20, 0x7E)]),
     ("punct", [(0x21, 0x2F), (0x3A, 0x40), (0x5B, 0x60), (0x7B, 0x7E)]),
     ("space", spaceRuns),
     ("upper", [(0x41, 0x5A)]),
     ("word", wordRuns),
     ("xdigit", [(0x30, 0x39), (0x41, 0x46), (0x61, 0x66)])]

/-- Items read so far, the latest first, and what they span. -/
structure Items where
  span : Span
  reversed : List SetExpr

namespace Items

def none (p : Point) : Items := ⟨.empty p, []⟩

def push (item : SetExpr) (items : Items) : Items :=
  let start := if items.reversed.isEmpty then item.span.start else items.span.start
  ⟨⟨start, item.span.stop⟩, item :: items.reversed⟩

def toSet (items : Items) : SetExpr :=
  match items.reversed with
  | [] => .empty items.span
  | [item] => item
  | reversed => .union items.span reversed.reverse

end Items

abbrev Pending := Option (SetOperator × SetExpr)

/-- Operators are taken from the left. -/
def Pending.with (right : SetExpr) : Pending → SetExpr
  | none => right
  | some (operator, left) => .operation ⟨left.span.start, right.span.stop⟩ operator left right

namespace Scan

structure Opening where
  span : Span
  negated : Bool
  items : Items

def leadingHyphens (start : Point) : (count : Nat) → Items → Scan Items
  | 0, items => return items
  | count + 1, items => do
    if (← peek?) ≠ some '-' then return items
    let span ← spanOf '-'
    advanceSpaced
    if (← peek?).isNone then fail .setUnclosed (.empty start)
    leadingHyphens start count (items.push (.literal ⟨span, '-', false⟩))

def opening : Scan Opening := do
  let start ← here
  advanceSpaced
  if (← peek?).isNone then failFrom .setUnclosed start
  let negated := (← peek?) = some '^'
  if negated then
    advanceSpaced
    if (← peek?).isNone then failFrom .setUnclosed start
  let items ← leadingHyphens start (← get).rest.length (.none (← here))
  if !items.reversed.isEmpty || (← peek?) ≠ some ']' then
    return ⟨← spanFrom start, negated, items⟩
  let span ← spanOf ']'
  advanceSpaced
  if (← peek?).isNone then failFrom .setUnclosed start
  return ⟨← spanFrom start, negated, items.push (.literal ⟨span, ']', false⟩)⟩

/-- A named set such as `[:alpha:]` or `[:^alpha:]`. Anything else in a bracket is left unread. -/
def namedSet? : Scan (Option SetExpr) := do
  match (← get).rest with
  | '[' :: ':' :: rest =>
    let negated := rest.head? = some '^'
    let rest := if negated then rest.tail else rest
    let name := rest.takeWhile (· ≠ ':')
    match namedRuns? name, Text.beginsWith (":]" : Text) (rest.dropWhile (· ≠ ':')) with
    | some runs, true =>
      let start ← here
      advanceBy (name.length + if negated then 5 else 4)
      return some (.named (← spanFrom start) runs negated)
    | _, _ => return none
  | _ => return none

def setPrimitive : Scan Expr := do
  match ← peek? with
  | some '\\' => escape
  | some c =>
    let span ← spanOf c
    advance
    return .literal ⟨span, c, false⟩
  | none => return .empty (.empty (← here))

def setItem : Expr → Scan SetExpr
  | .literal l => return .literal l
  | .shorthand use => return .shorthand use
  | .property use => return .property use
  | e => fail .setEscape e.span

def setBoundary : Expr → Scan Literal
  | .literal l => return l
  | e => fail .setRangeBoundary e.span

def setRange (opened : Span) : Scan SetExpr := do
  let first ← setPrimitive
  skipBlanks
  if (← peek?).isNone then fail .setUnclosed opened
  let following ← peekSpaced?
  if (← peek?) ≠ some '-' || following = some ']' || following = some '-' then setItem first
  else
    advanceSpaced
    if (← peek?).isNone then fail .setUnclosed opened
    let last ← setPrimitive
    let span : Span := ⟨first.span.start, last.span.stop⟩
    let low ← setBoundary first
    let high ← setBoundary last
    if high.char.toNat < low.char.toNat then fail .setRangeOrder span
    return .range span low high

def operator? (c : Char) : Option SetOperator :=
  if c = '&' then some .intersection
  else if c = '-' then some .difference
  else if c = '~' then some .symmetricDifference
  else none

def setOperator? : Scan (Option SetOperator) := do
  match ← peek?, ← peekSecond? with
  | some c, some d => return if c = d then operator? c else none
  | _, _ => return none

/-- The rest of a set, its closing bracket included. Every item takes at least one character. -/
def setRest : (count : Nat) → (opened : Span) → Pending → Items → Scan SetExpr
  | 0, opened, _, _ => fail .setUnclosed opened
  | count + 1, opened, pending, items => do
    skipBlanks
    match ← peek? with
    | none => fail .setUnclosed opened
    | some ']' =>
      advance
      return pending.with items.toSet
    | some '[' =>
      match ← namedSet? with
      | some item => setRest count opened pending (items.push item)
      | none =>
        let inner ← opening
        let set ← setRest count inner.span none inner.items
        setRest count opened pending
          (items.push (.bracketed (← spanFrom inner.span.start) inner.negated set))
    | some _ =>
      match ← setOperator? with
      | some operator =>
        advanceBy 2
        setRest count opened (some (operator, pending.with items.toSet)) (.none (← here))
      | none => setRest count opened pending (items.push (← setRange opened))

def bracketed : Scan Expr := do
  let count := (← get).rest.length
  let outer ← opening
  let set ← setRest count outer.span none outer.items
  return .bracketed (← spanFrom outer.span.start) outer.negated set

end Scan

end Pattern

end TokenTables
