import TokenTables.Pattern.Basic

/-!
Patterns as they are written. Every part knows where it stands, so that a complaint can point at it.
Whether a repetition prefers many or few is not kept: it does not change whether there is a match.
-/

namespace TokenTables

namespace Pattern

/-- A place in a written pattern. Lines and columns count from 1. -/
structure Point where
  line : Nat
  column : Nat
deriving DecidableEq, Repr

namespace Point

def first : Point := ⟨1, 1⟩

def after (c : Char) (p : Point) : Point :=
  if c = '\n' then ⟨p.line + 1, 1⟩ else ⟨p.line, p.column + 1⟩

def le (p q : Point) : Bool := p.line < q.line || (p.line = q.line && p.column ≤ q.column)

end Point

structure Span where
  start : Point
  stop : Point
deriving DecidableEq, Repr

namespace Span

def empty (p : Point) : Span := ⟨p, p⟩

def isOnOneLine (s : Span) : Bool := s.start.line = s.stop.line

def le (s t : Span) : Bool := if s.start = t.start then s.stop.le t.stop else s.start.le t.start

end Span

/-- A character that stands for itself; `isByte` if it is written as two hexadecimal digits. -/
structure Literal where
  span : Span
  char : Char
  isByte : Bool
deriving Repr

inductive Shorthand where
  | digit
  | space
  | word
deriving DecidableEq, Repr

structure ShorthandUse where
  span : Span
  shorthand : Shorthand
  negated : Bool
deriving Repr

/-- A Unicode property by its name; `hasValue` if the name is followed by one of its values. -/
structure PropertyUse where
  span : Span
  name : Text
  hasValue : Bool
deriving Repr

inductive SetOperator where
  | intersection
  | difference
  | symmetricDifference
deriving DecidableEq, Repr

inductive SetExpr where
  | empty (span : Span)
  | literal (l : Literal)
  | range (span : Span) (first last : Literal)
  | named (span : Span) (runs : Runs) (negated : Bool)
  | shorthand (use : ShorthandUse)
  | property (use : PropertyUse)
  | bracketed (span : Span) (negated : Bool) (inner : SetExpr)
  | union (span : Span) (items : List SetExpr)
  | operation (span : Span) (operator : SetOperator) (left right : SetExpr)

def SetExpr.span : SetExpr → Span
  | empty span | range span _ _ | named span _ _ | bracketed span _ _ | union span _
  | operation span _ _ _ => span
  | literal l => l.span
  | shorthand use => use.span
  | property use => use.span

inductive Flag where
  | caseless
  | multiLine
  | dotAll
  | fewest
  | unicode
  | anyLineEnd
  | spaced
deriving DecidableEq, Repr

abbrev Flags := List (Flag × Bool)

inductive Anchor where
  | lineStart
  | lineEnd
  | textStart
  | textEnd
  | wordEdge
  | noWordEdge
  | wordStart
  | wordEnd
  | wordStartHalf
  | wordEndHalf
deriving DecidableEq, Repr

inductive Expr where
  | empty (span : Span)
  | flags (span : Span) (flags : Flags)
  | literal (l : Literal)
  | dot (span : Span)
  | anchor (span : Span) (anchor : Anchor)
  | shorthand (use : ShorthandUse)
  | property (use : PropertyUse)
  | bracketed (span : Span) (negated : Bool) (inner : SetExpr)
  | repetition (span : Span) (least : Nat) (most : Option Nat) (sub : Expr)
  | capture (span : Span) (sub : Expr)
  | group (span : Span) (flags : Flags) (sub : Expr)
  | concat (span : Span) (items : List Expr)
  | alternation (span : Span) (branches : List Expr)

namespace Expr

def span : Expr → Span
  | empty span | flags span _ | dot span | anchor span _ | bracketed span _ _
  | repetition span _ _ _ | capture span _ | group span _ _ | concat span _
  | alternation span _ => span
  | literal l => l.span
  | shorthand use => use.span
  | property use => use.span

/-- One item is itself, and none is the empty pattern. -/
def ofItems (span : Span) : List Expr → Expr
  | [] => empty span
  | [item] => item
  | items => concat span items

end Expr

end Pattern

end TokenTables
