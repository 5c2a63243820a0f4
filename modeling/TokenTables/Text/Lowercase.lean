import TokenTables.Text.Cased
import TokenTables.Text.LowerCode

/-!
Full lower-casing. Every code point becomes one code point, apart from U+0130, which becomes an `i`
and a combining dot, and the capital sigma, which at the end of a word becomes the final form. So
lower-casing never shortens a text, and its length depends on the characters alone.
-/

namespace TokenTables.Text

def dottedCapitalI : Char := 'İ'

def capitalSigma : Char := 'Σ'

/-- The first character that is not passed over has a case. -/
def reachesCased (t : Text) : Bool :=
  match t.find? (!isCaseIgnorable ·) with
  | some c => isCased c
  | none => false

/-- The word ends between `before`, which is nearest character first, and `after`. -/
def isWordEnd (before after : Text) : Bool := reachesCased before && !reachesCased after

def lowerAt (before : Text) (c : Char) (after : Text) : Text :=
  if c = dottedCapitalI then ['i', '\u0307']
  else if c = capitalSigma then (if isWordEnd before after then ['ς'] else ['σ'])
  else [Char.ofNat (lowerCode c.toNat)]

def lowerFrom : (before : Text) → Text → Text
  | _, [] => []
  | before, c :: after => lowerAt before c after ++ lowerFrom (c :: before) after

def lowercase (t : Text) : Text := lowerFrom [] t

def lowerWidth (c : Char) : Nat := if c = dottedCapitalI then 2 else 1

def lowerSize : Text → Nat
  | [] => 0
  | c :: t => lowerWidth c + lowerSize t

@[simp] theorem length_lowerAt (before : Text) (c : Char) (after : Text) :
    (lowerAt before c after).length = lowerWidth c := by
  unfold lowerAt lowerWidth
  split
  · rfl
  · split
    · split <;> rfl
    · rfl

@[simp] theorem length_lowerFrom (before t : Text) :
    (lowerFrom before t).length = lowerSize t := by
  induction t generalizing before with
  | nil => rfl
  | cons c after ih => simp only [lowerFrom, List.length_append, length_lowerAt, ih, lowerSize]

@[simp] theorem length_lowercase (t : Text) : (lowercase t).length = lowerSize t :=
  length_lowerFrom [] t

end TokenTables.Text
