import TokenTables.Text.Basic

/-!
The code points with the Unicode property White_Space, and text without them at its ends. Format
characters such as U+200B and U+FEFF are not white space, nor are the separators U+001C to U+001F.
-/

namespace TokenTables.Text

/-- Blanks come in ten runs, first and last code point of each. -/
def blankRuns : List (Nat × Nat) :=
  [(0x0009, 0x000D), (0x0020, 0x0020), (0x0085, 0x0085), (0x00A0, 0x00A0), (0x1680, 0x1680),
   (0x2000, 0x200A), (0x2028, 0x2029), (0x202F, 0x202F), (0x205F, 0x205F), (0x3000, 0x3000)]

def isBlank (c : Char) : Bool := inRuns blankRuns c

def trimStart (t : Text) : Text := t.dropWhile isBlank

def dropEndWhile (p : Char → Bool) : Text → Text
  | [] => []
  | c :: t =>
    match dropEndWhile p t with
    | [] => if p c then [] else [c]
    | kept => c :: kept

theorem dropEndWhile_eq_reverse (p : Char → Bool) (t : Text) :
    dropEndWhile p t = (t.reverse.dropWhile p).reverse := by
  induction t with
  | nil => rfl
  | cons c t ih =>
    rw [List.reverse_cons, List.dropWhile_append, dropEndWhile, ih]
    by_cases h : (t.reverse.dropWhile p) = []
    · by_cases hc : p c = true <;> simp [h, hc]
    · simp [h]

def trimEnd (t : Text) : Text := dropEndWhile isBlank t

def trim (t : Text) : Text := trimEnd (trimStart t)

end TokenTables.Text
