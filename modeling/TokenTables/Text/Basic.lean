/-!
Text is a list of Unicode code points. Sizes are UTF-8 byte counts and the order is by code point,
which for well-formed text is the order of its UTF-8 bytes. The basic pieces follow: cutting a known
beginning off, padding on the left, joining, and decimal text with its reader.
-/

namespace TokenTables

abbrev Text := List Char

instance : Coe String Text := ⟨String.toList⟩

namespace Text

/-- What follows `lead` in `t`, if `t` begins with it. -/
def after? : (lead t : Text) → Option Text
  | [], t => some t
  | _ :: _, [] => none
  | a :: lead, c :: t => if a = c then after? lead t else none

theorem after?_eq_some_iff {lead t rest : Text} : after? lead t = some rest ↔ t = lead ++ rest := by
  induction lead generalizing t with
  | nil => simp [after?, eq_comm]
  | cons a lead ih =>
    cases t with
    | nil => simp [after?]
    | cons c t => by_cases h : a = c <;> simp [after?, h, ih, eq_comm]

@[simp] theorem after?_append (lead rest : Text) : after? lead (lead ++ rest) = some rest :=
  after?_eq_some_iff.2 rfl

def beginsWith (lead t : Text) : Bool := (after? lead t).isSome

theorem beginsWith_iff {lead t : Text} : beginsWith lead t = true ↔ ∃ rest, t = lead ++ rest := by
  simp [beginsWith, Option.isSome_iff_exists, after?_eq_some_iff]

def padLeft (fill : Char) (width : Nat) (t : Text) : Text :=
  List.replicate (width - t.length) fill ++ t

def padRight (fill : Char) (width : Nat) (t : Text) : Text :=
  t ++ List.replicate (width - t.length) fill

@[simp] theorem length_padLeft (fill : Char) (width : Nat) (t : Text) :
    (padLeft fill width t).length = max width t.length := by
  simp [padLeft]; omega

def join (sep : Text) : List Text → Text
  | [] => []
  | [t] => t
  | t :: ts => t ++ sep ++ join sep ts

/-- The pieces between separators, empty ones included. -/
def pieces (sep : Char) : Text → List Text
  | [] => [[]]
  | c :: t =>
    if c = sep then [] :: pieces sep t
    else
      match pieces sep t with
      | [] => [[c]]
      | piece :: rest => (c :: piece) :: rest

theorem pieces_ne_nil (sep : Char) (t : Text) : pieces sep t ≠ [] := by
  cases t with
  | nil => simp [pieces]
  | cons c t =>
    unfold pieces
    split
    · simp
    · split <;> simp

def le : (a b : Text) → Bool
  | [], _ => true
  | _ :: _, [] => false
  | a :: s, b :: t => if a = b then le s t else a.toNat < b.toNat

def lt (a b : Text) : Bool := !le b a

theorem le_total (a b : Text) : (le a b || le b a) = true := by
  induction a generalizing b with
  | nil => simp [le]
  | cons a s ih =>
    cases b with
    | nil => simp [le]
    | cons b t =>
      by_cases h : a = b
      · simpa [le, h] using ih t
      · have other : a.toNat ≠ b.toNat := fun same => h (Char.toNat_inj.1 same)
        simp [le, h, Ne.symm h]
        omega

theorem le_antisymm {a b : Text} (ab : le a b = true) (ba : le b a = true) : a = b := by
  induction a generalizing b with
  | nil =>
    cases b with
    | nil => rfl
    | cons b t => simp [le] at ba
  | cons a s ih =>
    cases b with
    | nil => simp [le] at ab
    | cons b t =>
      by_cases h : a = b
      · subst h
        simp only [le, if_true] at ab ba
        rw [ih ab ba]
      · simp only [le, h, Ne.symm h, if_false, decide_eq_true_eq] at ab ba
        omega

theorem le_trans (a b c : Text) (ab : le a b = true) (bc : le b c = true) : le a c = true := by
  induction a generalizing b c with
  | nil => simp [le]
  | cons a s ih =>
    cases b with
    | nil => simp [le] at ab
    | cons b t =>
      cases c with
      | nil => simp [le] at bc
      | cons c u =>
        by_cases hab : a = b
        · subst hab
          by_cases hac : a = c
          · subst hac
            simp only [le, if_true] at ab bc ⊢
            exact ih t u ab bc
          · simpa only [le, hac, if_false] using bc
        · by_cases hbc : b = c
          · subst hbc
            simpa only [le, hab, if_false] using ab
          · simp only [le, hab, hbc, if_false, decide_eq_true_eq] at ab bc
            have other : a ≠ c := by
              rintro rfl
              omega
            simp only [le, other, if_false, decide_eq_true_eq]
            omega

def sort (ts : List Text) : List Text := ts.mergeSort le

def decimal (n : Nat) : Text := Nat.toDigits 10 n

def digitsValue (t : Text) : Nat := Nat.ofDigitChars 10 t 0

@[simp] theorem digitsValue_decimal (n : Nat) : digitsValue (decimal n) = n :=
  Nat.ofDigitChars_ten_toDigits

theorem digitsValue_replicate_zero_append (k : Nat) (t : Text) :
    digitsValue (List.replicate k '0' ++ t) = digitsValue t := by
  simp [digitsValue, Nat.ofDigitChars_append, Nat.ofDigitChars_replicate_zero]

@[simp] theorem digitsValue_padLeft (width n : Nat) :
    digitsValue (padLeft '0' width (decimal n)) = n := by
  rw [padLeft, digitsValue_replicate_zero_append, digitsValue_decimal]

theorem isDigit_of_mem_decimal {n : Nat} {c : Char} (h : c ∈ decimal n) : c.isDigit = true :=
  Nat.isDigit_of_mem_toDigits (by decide) (by decide) h

/-- The two upper-case hexadecimal digits of a byte. -/
def hexByte (b : UInt8) : Text :=
  [hexDigit (b.toNat / 16), hexDigit (b.toNat % 16)]
where
  hexDigit (n : Nat) : Char := (Nat.digitChar n).toUpper

theorem hexDigit_inj : ∀ m < 16, ∀ n < 16, hexByte.hexDigit m = hexByte.hexDigit n → m = n := by
  decide

def hexValue? (c : Char) : Option Nat :=
  if '0'.toNat ≤ c.toNat ∧ c.toNat ≤ '9'.toNat then some (c.toNat - '0'.toNat)
  else if 'a'.toNat ≤ c.toNat ∧ c.toNat ≤ 'f'.toNat then some (c.toNat - 'a'.toNat + 10)
  else if 'A'.toNat ≤ c.toNat ∧ c.toNat ≤ 'F'.toNat then some (c.toNat - 'A'.toNat + 10)
  else none

/-- Some run, given by its first and last code point, holds the character. -/
def inRuns (runs : List (Nat × Nat)) (c : Char) : Bool :=
  runs.any fun run => run.1 ≤ c.toNat && c.toNat ≤ run.2

end Text

end TokenTables
