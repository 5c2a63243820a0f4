import TokenTables.Json.Fault

/-!
The characters of a JSON string, read up to its closing quote. A character stands for itself, or is
written with a short escape, or with four hexadecimal digits after `\u`; a character beyond U+FFFF is
then a pair of surrogates, the leading one first.
-/

namespace TokenTables.Json

def hexUnit? (a b c d : Char) : Option Nat := do
  let a ← Text.hexValue? a
  let b ← Text.hexValue? b
  let c ← Text.hexValue? c
  let d ← Text.hexValue? d
  pure (((a * 16 + b) * 16 + c) * 16 + d)

/-- Four hexadecimal digits. Fewer than four bytes are an unfinished string, and of any other four
bytes all count as read. -/
def hexUnit (t : Text) : Except Fault (Nat × Text) :=
  if Text.byteSize t < 4 then .error ⟨.stringUnfinished, 0⟩
  else
    match t with
    | a :: b :: c :: d :: rest =>
      match hexUnit? a b c d with
      | some unit => .ok (unit, rest)
      | none => .error ⟨.escape, Text.byteSize t - 4⟩
    | _ => .error ⟨.escape, Text.byteSize t - 4⟩

def isLeading (unit : Nat) : Bool := 0xD800 ≤ unit && unit ≤ 0xDBFF

def isTrailing (unit : Nat) : Bool := 0xDC00 ≤ unit && unit ≤ 0xDFFF

def combine (leading trailing : Nat) : Char :=
  Char.ofNat (0x10000 + (leading - 0xD800) * 0x400 + (trailing - 0xDC00))

/-- The trailing surrogate that has to follow a leading one. -/
def trailingUnit (t : Text) : Except Fault (Nat × Text) :=
  match t with
  | '\\' :: 'u' :: rest => do
    let (unit, rest) ← hexUnit rest
    if isTrailing unit then .ok (unit, rest) else .error (.before .loneSurrogate rest)
  | [] => .error ⟨.stringUnfinished, 0⟩
  | ['\\'] => .error ⟨.stringUnfinished, 0⟩
  | '\\' :: rest => .error (.at .surrogateUnpaired rest)
  | rest => .error (.at .surrogateUnpaired rest)

def unicodeEscape (t : Text) : Except Fault (Char × Text) := do
  let (unit, rest) ← hexUnit t
  if isTrailing unit then .error (.before .loneSurrogate rest)
  else if isLeading unit then do
    let (trailing, rest) ← trailingUnit rest
    .ok (combine unit trailing, rest)
  else .ok (Char.ofNat unit, rest)

def shortEscape? : Char → Option Char
  | '"' => some '"'
  | '\\' => some '\\'
  | '/' => some '/'
  | 'b' => some '\x08'
  | 'f' => some '\x0c'
  | 'n' => some '\n'
  | 'r' => some '\r'
  | 't' => some '\t'
  | _ => none

def escape : Text → Except Fault (Char × Text)
  | [] => .error ⟨.stringUnfinished, 0⟩
  | 'u' :: rest => unicodeEscape rest
  | c :: rest =>
    match shortEscape? c with
    | some char => .ok (char, rest)
    | none => .error (.at .escape (c :: rest))

theorem length_lt_of_hexUnit {t rest : Text} {unit : Nat} (h : hexUnit t = .ok (unit, rest)) :
    rest.length < t.length := by
  unfold hexUnit at h
  split at h
  · cases h
  · split at h
    · split at h
      · obtain ⟨-, rfl⟩ := Prod.mk.inj (Except.ok.inj h)
        simp only [List.length_cons]
        omega
      · cases h
    · cases h

theorem length_lt_of_trailingUnit {t rest : Text} {unit : Nat}
    (h : trailingUnit t = .ok (unit, rest)) : rest.length < t.length := by
  unfold trailingUnit at h
  split at h
  · rename_i after
    cases read : hexUnit after with
    | error f => rw [read] at h; cases h
    | ok pair =>
      have shorter : pair.2.length < after.length := length_lt_of_hexUnit read
      rw [read] at h
      dsimp only [bind, Except.bind] at h
      split at h
      · obtain ⟨-, rfl⟩ := Prod.mk.inj (Except.ok.inj h)
        simp only [List.length_cons]
        omega
      · cases h
  · cases h
  · cases h
  · cases h
  · cases h

theorem length_lt_of_unicodeEscape {t rest : Text} {c : Char}
    (h : unicodeEscape t = .ok (c, rest)) : rest.length < t.length := by
  unfold unicodeEscape at h
  cases read : hexUnit t with
  | error f => rw [read] at h; cases h
  | ok pair =>
    have first : pair.2.length < t.length := length_lt_of_hexUnit read
    rw [read] at h
    dsimp only [bind, Except.bind] at h
    split at h
    · cases h
    · split at h
      · cases second : trailingUnit pair.2 with
        | error f => rw [second] at h; cases h
        | ok last =>
          have next : last.2.length < pair.2.length := length_lt_of_trailingUnit second
          rw [second] at h
          obtain ⟨-, rfl⟩ := Prod.mk.inj (Except.ok.inj h)
          omega
      · obtain ⟨-, rfl⟩ := Prod.mk.inj (Except.ok.inj h)
        exact first

theorem length_lt_of_escape {t rest : Text} {c : Char} (h : escape t = .ok (c, rest)) :
    rest.length < t.length := by
  unfold escape at h
  split at h
  · simp at h
  · have := length_lt_of_unicodeEscape h
    simp; omega
  · split at h
    · simp only [Except.ok.injEq, Prod.mk.injEq] at h
      simp [← h.2]
    · simp at h

def isControl (c : Char) : Bool := c.toNat < 0x20

def stringBody (t : Text) : Except Fault (Text × Text) :=
  match t with
  | [] => .error ⟨.stringUnfinished, 0⟩
  | '"' :: rest => .ok ([], rest)
  | '\\' :: rest =>
    match _read : escape rest with
    | .error fault => .error fault
    | .ok (c, after) => (stringBody after).map fun body => (c :: body.1, body.2)
  | c :: rest =>
    if isControl c then .error (.at .controlInString (c :: rest))
    else (stringBody rest).map fun body => (c :: body.1, body.2)
termination_by t.length
decreasing_by
  · have := length_lt_of_escape _read
    simp; omega
  · simp

end TokenTables.Json
