import TokenTables.Pattern.Fault

/-!
How deep a written pattern nests. Sets in brackets, set operators, rows of items, branches, groups and
repetitions each add a level to what they hold.
-/

namespace TokenTables

namespace Pattern

mutual

/-- The first part, in reading order, that lies deeper than the levels left. -/
def SetExpr.beyond? : (levels : Nat) → SetExpr → Option Span
  | _, .empty _ | _, .literal _ | _, .range _ _ _ | _, .named _ _ _ | _, .shorthand _
  | _, .property _ => none
  | 0, .bracketed span _ _ | 0, .union span _ | 0, .operation span _ _ _ => some span
  | levels + 1, .bracketed _ _ inner => SetExpr.beyond? levels inner
  | levels + 1, .union _ items => SetExpr.beyondAny? levels items
  | levels + 1, .operation _ _ left right =>
    (SetExpr.beyond? levels left).or (SetExpr.beyond? levels right)

def SetExpr.beyondAny? : (levels : Nat) → List SetExpr → Option Span
  | _, [] => none
  | levels, item :: rest => (SetExpr.beyond? levels item).or (SetExpr.beyondAny? levels rest)

end

mutual

def Expr.beyond? : (levels : Nat) → Expr → Option Span
  | _, .empty _ | _, .flags _ _ | _, .literal _ | _, .dot _ | _, .anchor _ _ | _, .shorthand _
  | _, .property _ => none
  | 0, .bracketed span _ _ | 0, .repetition span _ _ _ | 0, .capture span _ | 0, .group span _ _
  | 0, .concat span _ | 0, .alternation span _ => some span
  | levels + 1, .bracketed _ _ inner => inner.beyond? levels
  | levels + 1, .repetition _ _ _ sub | levels + 1, .capture _ sub | levels + 1, .group _ _ sub =>
    Expr.beyond? levels sub
  | levels + 1, .concat _ items | levels + 1, .alternation _ items =>
    Expr.beyondAny? levels items

def Expr.beyondAny? : (levels : Nat) → List Expr → Option Span
  | _, [] => none
  | levels, e :: rest => (Expr.beyond? levels e).or (Expr.beyondAny? levels rest)

end

def Expr.checkNesting (e : Expr) : Except Fault Unit :=
  match e.beyond? deepestNesting with
  | none => .ok ()
  | some span => .error ⟨.tooDeep, span, none⟩

end Pattern

end TokenTables
