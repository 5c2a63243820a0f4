import Mathlib.Data.List.Basic
import TokenTables.Proofs.Opcode.Numbering
import TokenTables.Proofs.Text.Lines

/-!
The enumeration read back. Names are not escaped and may look like the end of a row or like the closing
line, but a row has four blanks before its name and eight characters of fixed form after it, and no name
holds a line feed. So a reader that knows table and time accepts exactly the rendered texts and gives
their rows, and two headers make the same text only if they have the same survivors in the same order.
-/

namespace TokenTables

namespace Text

def before? (trail t : Text) : Option Text := (after? trail.reverse t.reverse).map List.reverse

theorem before?_eq_some_iff {trail t rest : Text} :
    before? trail t = some rest ↔ t = rest ++ trail := by
  rw [before?, Option.map_eq_some_iff]
  constructor
  · rintro ⟨back, found, rfl⟩
    rw [← List.reverse_inj, after?_eq_some_iff.1 found, List.reverse_append, List.reverse_reverse]
  · rintro rfl
    exact ⟨rest.reverse, after?_eq_some_iff.2 (List.reverse_append), List.reverse_reverse rest⟩

def endedLines? : Text → Option (List Text)
  | [] => some []
  | c :: t =>
    if c = '\n' then (endedLines? t).map ([] :: ·)
    else
      match endedLines? t with
      | some (line :: rest) => some ((c :: line) :: rest)
      | _ => none

theorem written_cons (line : Text) (ls : List Text) : written (line :: ls) = line ++ '\n' :: written ls := by
  simp [written]

theorem endedLines?_append_feed {line : Text} (plain : '\n' ∉ line) (t : Text) :
    endedLines? (line ++ '\n' :: t) = (endedLines? t).map (line :: ·) := by
  induction line with
  | nil => simp [endedLines?]
  | cons c line ih =>
    obtain ⟨other, rest⟩ := not_or.1 (mt List.mem_cons.2 plain)
    rw [List.cons_append, endedLines?, if_neg (Ne.symm other), ih rest]
    cases endedLines? t <;> rfl

theorem endedLines?_written {ls : List Text} (plain : ∀ line ∈ ls, '\n' ∉ line) :
    endedLines? (written ls) = some ls := by
  induction ls with
  | nil => rfl
  | cons line ls ih =>
    obtain ⟨first, rest⟩ := List.forall_mem_cons.1 plain
    rw [written_cons, endedLines?_append_feed first, ih rest, Option.map_some]

theorem written_of_endedLines? {t : Text} {ls : List Text} (h : endedLines? t = some ls) :
    (∀ line ∈ ls, '\n' ∉ line) ∧ t = written ls := by
  induction t generalizing ls with
  | nil =>
    obtain rfl := Option.some.inj h
    exact ⟨List.forall_mem_nil _, rfl⟩
  | cons c t ih =>
    rw [endedLines?] at h
    split at h
    · obtain ⟨rest, found, rfl⟩ := Option.map_eq_some_iff.1 h
      obtain ⟨plain, rfl⟩ := ih found
      subst c
      exact ⟨List.forall_mem_cons.2 ⟨List.not_mem_nil, plain⟩, rfl⟩
    · rename_i other
      split at h
      · rename_i line rest found
        obtain rfl := Option.some.inj h
        obtain ⟨plain, rfl⟩ := ih found
        obtain ⟨first, others⟩ := List.forall_mem_cons.1 plain
        refine ⟨List.forall_mem_cons.2 ⟨List.not_mem_cons_of_ne_of_not_mem (Ne.symm other) first, others⟩, ?_⟩
        rw [written_cons, written_cons, List.cons_append]
      · cases h

theorem endedLines?_eq_some_iff {t : Text} {ls : List Text} :
    endedLines? t = some ls ↔ (∀ line ∈ ls, '\n' ∉ line) ∧ t = written ls :=
  ⟨written_of_endedLines?, fun ⟨plain, same⟩ => same ▸ endedLines?_written plain⟩

def digitOfHex? (c : Char) : Option Nat := (List.range 16).find? fun n => hexByte.hexDigit n = c

theorem digitOfHex?_eq_some_iff {c : Char} {n : Nat} :
    digitOfHex? c = some n ↔ n < 16 ∧ hexByte.hexDigit n = c := by
  rw [digitOfHex?, List.find?_range_eq_some]
  simp only [decide_eq_true_eq, List.mem_range, Bool.not_eq_true', decide_eq_false_iff_not]
  constructor
  · rintro ⟨same, small, -⟩
    exact ⟨small, same⟩
  · rintro ⟨small, rfl⟩
    refine ⟨rfl, small, fun m below same => ?_⟩
    have := hexDigit_inj m (by omega) n small same
    omega

def byteOfHex? (high low : Char) : Option UInt8 := do
  let high ← digitOfHex? high
  let low ← digitOfHex? low
  pure (UInt8.ofNat (high * 16 + low))

theorem byteOfHex?_eq_some_iff {high low : Char} {b : UInt8} :
    byteOfHex? high low = some b ↔ [high, low] = hexByte b := by
  simp only [byteOfHex?, Option.bind_eq_bind, Option.pure_def, Option.bind_eq_some_iff, Option.some.injEq,
    digitOfHex?_eq_some_iff, hexByte, List.cons.injEq, and_true]
  constructor
  · rintro ⟨h, ⟨highSmall, rfl⟩, l, ⟨lowSmall, rfl⟩, rfl⟩
    have value : (UInt8.ofNat (h * 16 + l)).toNat = h * 16 + l :=
      UInt8.toNat_ofNat_of_lt' (by change h * 16 + l < 256; omega)
    rw [value]
    constructor <;> congr 1 <;> omega
  · rintro ⟨rfl, rfl⟩
    have small := b.toNat_lt
    refine ⟨_, ⟨by omega, rfl⟩, _, ⟨by omega, rfl⟩, ?_⟩
    rw [show b.toNat / 16 * 16 + b.toNat % 16 = b.toNat by omega, UInt8.ofNat_toNat]

theorem lineFeed_notMem_hexByte (b : UInt8) : '\n' ∉ hexByte b := by
  have digits : ∀ n < 16, hexByte.hexDigit n ≠ '\n' := by decide
  have small := b.toNat_lt
  simp only [hexByte, List.mem_cons, List.not_mem_nil, or_false, not_or]
  exact ⟨(digits _ (by omega)).symm, (digits _ (by omega)).symm⟩

end Text

namespace OpcodeRow

def lead : Text := "    "

def between : Text := " = 0x"

def body (e : OpcodeRow) : Text := lead ++ e.name ++ between ++ Text.hexByte e.value ++ [',']

theorem line_eq_body (e : OpcodeRow) : e.line = e.body ++ ['\n'] := by
  have ending : (",\n" : Text) = [','] ++ ['\n'] := by decide
  unfold line
  rw [ending, body, ← List.append_assoc]
  unfold lead between
  with_reducible rfl

theorem lineFeed_mem_body {e : OpcodeRow} : '\n' ∈ e.body ↔ '\n' ∈ e.name := by
  have fixed : '\n' ∉ lead ∧ '\n' ∉ between ∧ '\n' ∉ [','] := by decide
  have hex := Text.lineFeed_notMem_hexByte e.value
  simp only [body, List.mem_append, fixed, hex, or_false, false_or]

/-- The row that a line shows. The two digits and the comma are taken from the end, where they stand
whatever the name looks like. -/
def ofLine? (line : Text) : Option OpcodeRow := do
  let shown ← Text.after? lead line
  match shown.reverse with
  | ',' :: low :: high :: rest => do
    let value ← Text.byteOfHex? high low
    let name ← Text.before? between rest.reverse
    some ⟨name, value⟩
  | _ => none

theorem ofLine?_body (e : OpcodeRow) : ofLine? e.body = some e := by
  obtain ⟨high, low, digits⟩ : ∃ high low, Text.hexByte e.value = [high, low] := ⟨_, _, rfl⟩
  have shown : Text.after? lead e.body = some (e.name ++ between ++ [high, low] ++ [',']) := by
    simp [body, digits]
  have name : Text.before? between (e.name ++ between) = some e.name := Text.before?_eq_some_iff.2 rfl
  simp [ofLine?, shown, Text.byteOfHex?_eq_some_iff.2 digits.symm, name]

theorem body_of_ofLine? {line : Text} {e : OpcodeRow} (h : ofLine? line = some e) : line = e.body := by
  obtain ⟨shown, led, h⟩ := Option.bind_eq_some_iff.1 h
  split at h
  · rename_i low high rest back
    obtain ⟨value, digits, h⟩ := Option.bind_eq_some_iff.1 h
    obtain ⟨name, named, h⟩ := Option.bind_eq_some_iff.1 h
    obtain rfl := Option.some.inj h
    have tail : shown = rest.reverse ++ [high, low] ++ [','] := by
      rw [← List.reverse_inj, back]
      simp
    rw [Text.after?_eq_some_iff.1 led, tail, Text.before?_eq_some_iff.1 named,
      Text.byteOfHex?_eq_some_iff.1 digits]
    simp only [body, List.append_assoc]
  · cases h

theorem ofLine?_eq_some_iff {line : Text} {e : OpcodeRow} : ofLine? line = some e ↔ line = e.body :=
  ⟨body_of_ofLine?, fun same => same ▸ ofLine?_body e⟩

theorem mapM_ofLine?_eq_some_iff {lines : List Text} {rows : List OpcodeRow} :
    lines.mapM ofLine? = some rows ↔ lines = rows.map body := by
  induction lines generalizing rows with
  | nil => cases rows <;> simp
  | cons line lines ih =>
    cases rows with
    | nil => simp [Option.bind_eq_some_iff]
    | cons row rows => simp [Option.bind_eq_some_iff, ofLine?_eq_some_iff, ih]

def tokenOf (name : Text) : Token :=
  match Text.after? mark name with
  | some stem => Token.mark ++ stem
  | none => name

@[simp] theorem tokenOf_nameOf (stem : Text) :
    tokenOf (nameOf (Token.mark ++ stem)) = Token.mark ++ stem := by
  simp [tokenOf]

end OpcodeRow

namespace OpcodeTable

def read? (o : OpcodeTable) (time : Instant) (t : Text) : Option (List OpcodeRow) := do
  let rest ← Text.after? (o.opening time) t
  let shown ← Text.before? closing rest
  let lines ← Text.endedLines? shown
  lines.mapM OpcodeRow.ofLine?

theorem flatMap_line (rows : List OpcodeRow) :
    rows.flatMap OpcodeRow.line = Text.written (rows.map OpcodeRow.body) := by
  rw [Text.written, List.flatMap_map]
  congr 1
  funext row
  exact row.line_eq_body

/-- The reader accepts what the table renders and nothing else, and it gives the very rows. -/
theorem read?_eq_some_iff {o : OpcodeTable} {time : Instant} {t : Text} {rows : List OpcodeRow} :
    o.read? time t = some rows ↔ (∀ row ∈ rows, '\n' ∉ row.name) ∧ t = o.render rows time := by
  -- Each step of the reader inverts one of the writer, so the two sides become one equation.
  simp only [read?, Option.bind_eq_bind, Option.bind_eq_some_iff, Text.after?_eq_some_iff,
    Text.before?_eq_some_iff, Text.endedLines?_eq_some_iff, OpcodeRow.mapM_ofLine?_eq_some_iff]
  constructor
  · rintro ⟨_, rfl, _, rfl, _, ⟨plain, rfl⟩, rfl⟩
    rw [render, flatMap_line, List.append_assoc]
    refine ⟨fun row mem feed => ?_, rfl⟩
    exact plain _ (List.mem_map_of_mem mem) (OpcodeRow.lineFeed_mem_body.2 feed)
  · rintro ⟨plain, rfl⟩
    refine ⟨_, ?_, _, rfl, _, ⟨?_, rfl⟩, rfl⟩
    · rw [render, flatMap_line, List.append_assoc]
    · exact List.forall_mem_map.2 fun row mem feed => plain row mem (OpcodeRow.lineFeed_mem_body.1 feed)

theorem map_name_rowsFrom (first : UInt8) (tokens : List Token) :
    (rowsFrom first tokens).map OpcodeRow.name = tokens.map OpcodeRow.nameOf := by
  induction tokens generalizing first with
  | nil => rfl
  | cons token rest ih => simp only [rowsFrom, List.map_cons, ih]

theorem map_tokenOf_rowsFrom {tokens : List Token} (first : UInt8)
    (marked : ∀ token ∈ tokens, ∃ stem, token = Token.mark ++ stem) :
    (rowsFrom first tokens).map (fun row => OpcodeRow.tokenOf row.name) = tokens := by
  have names := congrArg (List.map OpcodeRow.tokenOf) (map_name_rowsFrom first tokens)
  rw [List.map_map, List.map_map] at names
  refine names.trans ((List.map_congr_left fun token mem => ?_).trans (List.map_id _))
  obtain ⟨stem, rfl⟩ := marked token mem
  exact OpcodeRow.tokenOf_nameOf stem

theorem exists_stem_of_mem_rowsFrom {tokens : List Token} {first : UInt8} {row : OpcodeRow}
    (marked : ∀ token ∈ tokens, ∃ stem, token = Token.mark ++ stem) (mem : row ∈ rowsFrom first tokens) :
    ∃ stem, Token.mark ++ stem ∈ tokens ∧ row.name = OpcodeRow.mark ++ stem := by
  have named : row.name ∈ tokens.map OpcodeRow.nameOf := by
    rw [← map_name_rowsFrom first]
    exact List.mem_map_of_mem mem
  obtain ⟨token, inside, same⟩ := List.mem_map.1 named
  obtain ⟨stem, rfl⟩ := marked token inside
  exact ⟨stem, inside, by rw [← same, OpcodeRow.nameOf_mark_append]⟩

theorem lineFeed_notMem_name {tokens : List Token} (first : UInt8)
    (marked : ∀ token ∈ tokens, ∃ stem, token = Token.mark ++ stem)
    (plain : ∀ token ∈ tokens, '\n' ∉ token) : ∀ row ∈ rowsFrom first tokens, '\n' ∉ row.name := by
  intro row mem feed
  obtain ⟨stem, inside, same⟩ := exists_stem_of_mem_rowsFrom marked mem
  rw [same, List.mem_append] at feed
  have unmarked : '\n' ∉ OpcodeRow.mark := by decide
  exact plain _ inside (List.mem_append_right _ (feed.resolve_left unmarked))

theorem read?_make {o : OpcodeTable} {header : Text} {time : Instant} {artifact : Artifact}
    (made : o.make (Text.lines header) time = .ok artifact) :
    ∃ rows, o.read? time artifact.text = some rows ∧ rows.length = artifact.count ∧
      rows.map (fun row => OpcodeRow.tokenOf row.name) =
        Token.survivors (Text.lines header) o.exclude := by
  obtain ⟨rows, numbered, rfl⟩ := make_eq_ok_iff.1 made
  obtain ⟨first, -, rfl⟩ := rows_eq_ok_iff.1 numbered
  have marked := Token.survivors_marked (Text.lines header) o.exclude
  have plain := Token.lineFeed_notMem_survivors header o.exclude
  exact ⟨_, read?_eq_some_iff.2 ⟨lineFeed_notMem_name first marked plain, rfl⟩,
    length_rowsFrom first _, map_tokenOf_rowsFrom first marked⟩

theorem make_congr {o : OpcodeTable} {a b : List Text} {time : Instant}
    (same : Token.survivors a o.exclude = Token.survivors b o.exclude) : o.make a time = o.make b time := by
  rw [make, make, same]

theorem exists_make_of_fits {o : OpcodeTable} {lines : List Text} (time : Instant)
    (fits : ((Token.survivors lines o.exclude).length : Int) ≤ o.range.room) :
    ∃ artifact, o.make lines time = .ok artifact :=
  exists_make_iff.2 (exists_rows_iff.2 fits)

/-- An enumeration is uniquely decodable. The reader gives back any list of rows whose names hold no line
feed, and accepts no other text. So of two headers that fit the range the texts are the same exactly if
the survivors are, in order and with repetitions, and each count is the number of rows that are read. -/
theorem make_text_eq_iff_survivors (o : OpcodeTable) (time : Instant) :
    (∀ t rows, o.read? time t = some rows ↔
      (∀ row ∈ rows, '\n' ∉ row.name) ∧ t = o.render rows time) ∧
    ∀ a b : Text,
      ((Token.survivors (Text.lines a) o.exclude).length : Int) ≤ o.range.room →
      ((Token.survivors (Text.lines b) o.exclude).length : Int) ≤ o.range.room →
      ∃ x y, o.make (Text.lines a) time = .ok x ∧ o.make (Text.lines b) time = .ok y ∧
        (x.text = y.text ↔
          Token.survivors (Text.lines a) o.exclude = Token.survivors (Text.lines b) o.exclude) ∧
        (∃ rows, o.read? time x.text = some rows ∧ x.count = rows.length) ∧
        ∃ rows, o.read? time y.text = some rows ∧ y.count = rows.length := by
  refine ⟨fun t rows => read?_eq_some_iff, fun a b fits_a fits_b => ?_⟩
  obtain ⟨x, made_x⟩ := exists_make_of_fits time fits_a
  obtain ⟨y, made_y⟩ := exists_make_of_fits time fits_b
  obtain ⟨rows_x, read_x, count_x, tokens_x⟩ := read?_make made_x
  obtain ⟨rows_y, read_y, count_y, tokens_y⟩ := read?_make made_y
  refine ⟨x, y, made_x, made_y, ?_, ⟨rows_x, read_x, count_x.symm⟩, ⟨rows_y, read_y, count_y.symm⟩⟩
  constructor
  · intro same
    rw [same, read_y] at read_x
    rw [← tokens_x, ← tokens_y, Option.some.inj read_x]
  · intro same
    have artifacts := made_x.symm.trans ((make_congr same).trans made_y)
    rw [Except.ok.inj artifacts]

/-- Tokens that look like the end of a row and like the closing line. -/
theorem make_text_eq_iff_survivors_lookalikes :
    let o : OpcodeTable := ofSettings {}
    let a : Text := "TOK_A = 0xFE,\nTOK_\x7d opcode_t;\n"
    let b : Text := "TOK_A\n"
    ((Token.survivors (Text.lines a) o.exclude).length : Int) ≤ o.range.room ∧
    ((Token.survivors (Text.lines b) o.exclude).length : Int) ≤ o.range.room ∧
    ∃ x y, o.make (Text.lines a) ⟨0, 0, 0⟩ = .ok x ∧ o.make (Text.lines b) ⟨0, 0, 0⟩ = .ok y ∧
      x.text ≠ y.text := by
  intro o a b
  have fits_a : ((Token.survivors (Text.lines a) o.exclude).length : Int) ≤ o.range.room := by decide
  have fits_b : ((Token.survivors (Text.lines b) o.exclude).length : Int) ≤ o.range.room := by decide
  obtain ⟨x, y, made_x, made_y, same, -⟩ :=
    (make_text_eq_iff_survivors o ⟨0, 0, 0⟩).2 a b fits_a fits_b
  have differ : Token.survivors (Text.lines a) o.exclude ≠ Token.survivors (Text.lines b) o.exclude := by
    decide
  exact ⟨fits_a, fits_b, x, y, made_x, made_y, fun text => differ (same.1 text)⟩

end OpcodeTable

end TokenTables
