import TokenTables.Json.StringBody

/-!
How a JSON string may be written, and that reading undoes every such writing. A character stands for
itself, or follows a backslash as a letter, or is given by the hexadecimal digits of its UTF-16 units,
each digit in either case; one text can therefore be written in many ways. Main statement:
`stringBody_of_spelled`.
-/

namespace TokenTables.Json

/-- The characters that have a letter of their own after a backslash, each with its letter. -/
def letters : List (Char × Char) :=
  [('"', '"'), ('\\', '\\'), ('/', '/'), ('\x08', 'b'), ('\x0c', 'f'), ('\n', 'n'), ('\r', 'r'),
    ('\t', 't')]

def IsHexDigit (value : Nat) (digit : Char) : Prop :=
  value < 16 ∧ (digit = value.digitChar ∨ digit = value.digitChar.toUpper)

instance (value : Nat) (digit : Char) : Decidable (IsHexDigit value digit) :=
  inferInstanceAs (Decidable (_ ∧ _))

inductive SpelledUnit (unit : Nat) : Text → Prop
  | digits {a b c d : Char} (first : IsHexDigit (unit / 0x1000) a)
      (second : IsHexDigit (unit / 0x100 % 16) b) (third : IsHexDigit (unit / 0x10 % 16) c)
      (fourth : IsHexDigit (unit % 16) d) : SpelledUnit unit [a, b, c, d]

inductive SpelledChar : Char → Text → Prop
  | raw {c : Char} (noQuote : c ≠ '"') (noBackslash : c ≠ '\\') (noControl : 0x20 ≤ c.toNat) :
      SpelledChar c [c]
  | letter {c l : Char} (short : (c, l) ∈ letters) : SpelledChar c ['\\', l]
  | unit {c : Char} {digits : Text} (written : SpelledUnit c.toNat digits) :
      SpelledChar c ('\\' :: 'u' :: digits)
  | pair {c : Char} {high low : Text} (beyond : 0xFFFF < c.toNat)
      (leading : SpelledUnit (0xD800 + (c.toNat - 0x10000) / 0x400) high)
      (trailing : SpelledUnit (0xDC00 + (c.toNat - 0x10000) % 0x400) low) :
      SpelledChar c ('\\' :: 'u' :: (high ++ '\\' :: 'u' :: low))

/-- The characters of a text one after the other, each written in a way of its own. -/
inductive SpelledText : Text → Text → Prop
  | nil : SpelledText [] []
  | cons {c : Char} {t first others : Text} (head : SpelledChar c first)
      (tail : SpelledText t others) : SpelledText (c :: t) (first ++ others)

theorem hexValue?_digitChar :
    ∀ d < 16, Text.hexValue? d.digitChar = some d ∧ Text.hexValue? d.digitChar.toUpper = some d := by
  decide

theorem hexValue?_of_isHexDigit {value : Nat} {digit : Char} (h : IsHexDigit value digit) :
    Text.hexValue? digit = some value := by
  obtain ⟨small, rfl | rfl⟩ := h
  · exact (hexValue?_digitChar value small).1
  · exact (hexValue?_digitChar value small).2

theorem hexUnit_of_spelled {unit : Nat} {digits : Text} (h : SpelledUnit unit digits) (rest : Text) :
    hexUnit (digits ++ rest) = .ok (unit, rest) := by
  cases h with | @digits a b c d first second third fourth
  have long : ¬ Text.byteSize (a :: b :: c :: d :: rest) < 4 := by
    have := a.utf8Size_pos
    have := b.utf8Size_pos
    have := c.utf8Size_pos
    have := d.utf8Size_pos
    simp only [Text.byteSize]
    omega
  have whole : (((unit / 0x1000 * 16 + unit / 0x100 % 16) * 16 + unit / 0x10 % 16) * 16 + unit % 16)
      = unit := by omega
  have value : hexUnit? a b c d = some unit := by
    simp only [hexUnit?, hexValue?_of_isHexDigit first, hexValue?_of_isHexDigit second,
      hexValue?_of_isHexDigit third, hexValue?_of_isHexDigit fourth, Option.bind_eq_bind,
      Option.bind_some, whole]
    rfl
  simp only [List.cons_append, List.nil_append, hexUnit, if_neg long, value]

theorem toNat_no_surrogate (c : Char) : isLeading c.toNat = false ∧ isTrailing c.toNat = false := by
  have valid : c.toNat < 0xD800 ∨ 0xDFFF < c.toNat ∧ c.toNat < 0x110000 := c.valid
  simp only [isLeading, isTrailing, Bool.and_eq_false_iff, decide_eq_false_iff_not]
  omega

theorem unicodeEscape_unit {c : Char} {digits : Text} (h : SpelledUnit c.toNat digits)
    (rest : Text) : unicodeEscape (digits ++ rest) = .ok (c, rest) := by
  obtain ⟨noLeading, noTrailing⟩ := toNat_no_surrogate c
  simp only [unicodeEscape, hexUnit_of_spelled h, bind, Except.bind, noLeading, noTrailing,
    Bool.false_eq_true, if_false, Char.ofNat_toNat]

theorem unicodeEscape_pair {c : Char} {high low : Text} (beyond : 0xFFFF < c.toNat)
    (leading : SpelledUnit (0xD800 + (c.toNat - 0x10000) / 0x400) high)
    (trailing : SpelledUnit (0xDC00 + (c.toNat - 0x10000) % 0x400) low) (rest : Text) :
    unicodeEscape (high ++ ('\\' :: 'u' :: (low ++ rest))) = .ok (c, rest) := by
  have valid : c.toNat < 0xD800 ∨ 0xDFFF < c.toNat ∧ c.toNat < 0x110000 := c.valid
  have leads : isLeading (0xD800 + (c.toNat - 0x10000) / 0x400) = true := by
    simp only [isLeading, Bool.and_eq_true, decide_eq_true_eq]
    omega
  have noTrail : isTrailing (0xD800 + (c.toNat - 0x10000) / 0x400) = false := by
    simp only [isTrailing, Bool.and_eq_false_iff, decide_eq_false_iff_not]
    omega
  have trails : isTrailing (0xDC00 + (c.toNat - 0x10000) % 0x400) = true := by
    simp only [isTrailing, Bool.and_eq_true, decide_eq_true_eq]
    omega
  have whole : combine (0xD800 + (c.toNat - 0x10000) / 0x400)
      (0xDC00 + (c.toNat - 0x10000) % 0x400) = c := by
    have sum : 0x10000 + (0xD800 + (c.toNat - 0x10000) / 0x400 - 0xD800) * 0x400 +
        (0xDC00 + (c.toNat - 0x10000) % 0x400 - 0xDC00) = c.toNat := by omega
    rw [combine, sum, Char.ofNat_toNat]
  simp only [unicodeEscape, trailingUnit, hexUnit_of_spelled leading, hexUnit_of_spelled trailing,
    bind, Except.bind, leads, noTrail, trails, whole, Bool.false_eq_true, if_false, if_true]

theorem shortEscape?_of_mem_letters :
    ∀ pair ∈ letters, pair.2 ≠ 'u' ∧ shortEscape? pair.2 = some pair.1 := by
  decide

theorem escape_letter {c l : Char} (short : (c, l) ∈ letters) (rest : Text) :
    escape (l :: rest) = .ok (c, rest) := by
  obtain ⟨noUnit, back⟩ := shortEscape?_of_mem_letters (c, l) short
  unfold escape
  split
  · contradiction
  · next same => exact absurd (List.cons.inj same).1 noUnit
  · next same =>
    obtain ⟨rfl, rfl⟩ := List.cons.inj same
    rw [back]

theorem stringBody_raw {c : Char} (noQuote : c ≠ '"') (noBackslash : c ≠ '\\')
    (noControl : 0x20 ≤ c.toNat) (rest : Text) :
    stringBody (c :: rest) = (stringBody rest).map fun body => (c :: body.1, body.2) := by
  have printable : isControl c = false := by
    simpa only [isControl, decide_eq_false_iff_not, Nat.not_lt] using noControl
  rw [stringBody]
  · rw [printable]
    rfl
  · exact noQuote
  · exact noBackslash

theorem stringBody_escape {c : Char} {t rest : Text} (h : escape t = .ok (c, rest)) :
    stringBody ('\\' :: t) = (stringBody rest).map fun body => (c :: body.1, body.2) := by
  rw [stringBody]
  split
  · next found => rw [h] at found; cases found
  · next found =>
    rw [h] at found
    cases found
    rfl

/-- However a character is written, reading puts it before what the rest gives. -/
theorem stringBody_append {c : Char} {w : Text} (h : SpelledChar c w) (rest : Text) :
    stringBody (w ++ rest) = (stringBody rest).map fun body => (c :: body.1, body.2) := by
  cases h with
  | raw noQuote noBackslash noControl => exact stringBody_raw noQuote noBackslash noControl rest
  | letter short => exact stringBody_escape (escape_letter short rest)
  | unit written => exact stringBody_escape (unicodeEscape_unit written rest)
  | pair beyond leading trailing =>
    rw [List.cons_append, List.cons_append, List.append_assoc]
    exact stringBody_escape (unicodeEscape_pair beyond leading trailing rest)

/-- The string a text is written in gives the text back, whatever follows its closing quote. -/
theorem stringBody_of_spelled {t w : Text} (h : SpelledText t w) (rest : Text) :
    stringBody (w ++ '"' :: rest) = .ok (t, rest) := by
  induction h with
  | nil => rw [List.nil_append, stringBody]
  | cons head tail ih =>
    rw [List.append_assoc, stringBody_append head, ih]
    rfl

theorem spelledText_self {t : Text}
    (plain : ∀ c ∈ t, c ≠ '"' ∧ c ≠ '\\' ∧ 0x20 ≤ c.toNat) : SpelledText t t := by
  induction t with
  | nil => exact .nil
  | cons c t ih =>
    obtain ⟨⟨noQuote, noBackslash, noControl⟩, others⟩ := List.forall_mem_cons.1 plain
    exact .cons (.raw noQuote noBackslash noControl) (ih others)

theorem exists_spelledUnit {unit : Nat} (small : unit < 0x10000) :
    ∃ digits, SpelledUnit unit digits :=
  ⟨_, ⟨⟨by omega, .inl rfl⟩, ⟨by omega, .inl rfl⟩, ⟨by omega, .inl rfl⟩, ⟨by omega, .inl rfl⟩⟩⟩

theorem exists_spelledChar (c : Char) : ∃ w, SpelledChar c w := by
  have valid : c.toNat < 0xD800 ∨ 0xDFFF < c.toNat ∧ c.toNat < 0x110000 := c.valid
  by_cases small : c.toNat < 0x10000
  · obtain ⟨digits, written⟩ := exists_spelledUnit small
    exact ⟨_, .unit written⟩
  · obtain ⟨high, leading⟩ := exists_spelledUnit
      (show 0xD800 + (c.toNat - 0x10000) / 0x400 < 0x10000 by omega)
    obtain ⟨low, trailing⟩ := exists_spelledUnit
      (show 0xDC00 + (c.toNat - 0x10000) % 0x400 < 0x10000 by omega)
    exact ⟨_, .pair (by omega) leading trailing⟩

theorem exists_spelledText (t : Text) : ∃ w, SpelledText t w := by
  induction t with
  | nil => exact ⟨[], .nil⟩
  | cons c t ih =>
    obtain ⟨first, head⟩ := exists_spelledChar c
    obtain ⟨others, tail⟩ := ih
    exact ⟨first ++ others, .cons head tail⟩

end TokenTables.Json
