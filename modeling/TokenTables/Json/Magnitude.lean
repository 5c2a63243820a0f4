import TokenTables.Json.Basic

/-!
When a number literal is too large. A literal stands for a 64-bit significand times a power of ten:
digits are taken while the significand fits, further digits of the whole part only raise the power,
and further digits of the fraction are dropped. Both factors are rounded to 53 significant bits, and
the literal is too large if their product rounds to 2^1024 or beyond. Exponents above 2^31 - 1 are too
large at once, at the digit that passes this bound, unless the significand is zero.
-/

namespace TokenTables.Json

def digitValue (c : Char) : Nat := c.toNat - '0'.toNat

def gather (bound : Nat) : (value : Nat) → Text → Nat × Text
  | value, [] => (value, [])
  | value, d :: digits =>
    if value * 10 + digitValue d < bound then gather bound (value * 10 + digitValue d) digits
    else (value, d :: digits)

/-- Rounds to 53 significant bits, a half to the even neighbour. -/
def roundSignificand (n : Nat) : Nat :=
  let unit := Nat.pow 2 (n.log2 - 52)
  let quotient := n / unit
  let rest := n % unit
  if unit < 2 * rest ∨ (unit = 2 * rest ∧ quotient % 2 = 1) then (quotient + 1) * unit
  else quotient * unit

def largestProduct : Nat := Nat.pow 2 1024 - Nat.pow 2 970

def exceedsRange (significand : Nat) (power : Int) : Bool :=
  significand ≠ 0 &&
    (308 < power ||
      0 ≤ power &&
        largestProduct ≤ roundSignificand significand * roundSignificand (Nat.pow 10 power.toNat))

/-- For a literal that is too large, how many of its digits follow the one that shows it. -/
def Number.excess? (n : Number) : Option Nat :=
  let (significand, raised) := gather wordBound 0 n.whole
  let fraction := n.fraction.getD []
  let (significand, dropped) := gather wordBound significand fraction
  let power : Int := raised.length - (fraction.length - dropped.length : Nat)
  match n.exponent with
  | none => if exceedsRange significand power then some 0 else none
  | some e =>
    match gather 0x80000000 0 e.digits with
    | (_, _ :: unread) => if significand ≠ 0 && !e.negative then some unread.length else none
    | (size, []) =>
      let power := if e.negative then power - size else power + size
      if exceedsRange significand power then some 0 else none

end TokenTables.Json
