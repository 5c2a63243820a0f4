import Mathlib.Data.List.Basic
import Mathlib.Data.List.Nodup
import TokenTables.Generator
import TokenTables.Proofs.Token.Survivors

/-!
How opcodes get their values, in exact integers. A range holds `max 0 (stop - start)` opcodes. If `n`
tokens fit, the first value is `stop - n` and every further one is higher by one, so the last is
`stop - 1` and the byte arithmetic never wraps. If they do not fit, nothing is numbered at all.
-/

namespace TokenTables

namespace ValueRange

/-- How many opcodes a range holds, in exact integers. -/
def room (r : ValueRange) : Int := max 0 ((r.stop.toNat : Int) - r.start.toNat)

theorem capacity_eq_room (r : ValueRange) : (r.capacity : Int) = r.room := by
  unfold capacity room
  omega

theorem lowest_of_le {r : ValueRange} {count : Nat} (fits : count ≤ r.capacity) :
    r.lowest count = .ok (r.stop - UInt8.ofNat count) := if_pos fits

theorem lowest_of_lt {r : ValueRange} {count : Nat} (tooMany : r.capacity < count) :
    r.lowest count = .error ⟨count, r.capacity⟩ := if_neg (Nat.not_le.2 tooMany)

/-- The first value of `count` opcodes in exact integers, or how many there are and how many fit. -/
def Places (r : ValueRange) (count : Nat) : Except ValueRange.Overflow UInt8 → Prop
  | .ok first => (count : Int) ≤ r.room ∧ (UInt8.ofNat count).toNat = count ∧
      (first.toNat : Int) = r.stop.toNat - count
  | .error overflow => r.room < count ∧ overflow.count = count ∧ (overflow.capacity : Int) = r.room

/-- A count is narrowed to a byte only after it was found to fit, so narrowing never turns a count
that is too large into one that fits. -/
theorem lowest_places (r : ValueRange) (count : Nat) : r.Places count (r.lowest count) := by
  have room := r.capacity_eq_room
  rcases Nat.lt_or_ge r.capacity count with tooMany | fits
  · rw [lowest_of_lt tooMany]
    exact ⟨by omega, rfl, room⟩
  · have found := lowest_of_le fits
    have sum := toNat_lowest found
    have capacity := r.capacity_le
    rw [found]
    refine ⟨by omega, UInt8.toNat_ofNat_of_lt' (by change count < 256; omega), by omega⟩

theorem le_capacity_of_lowest {r : ValueRange} {count : Nat} {first : UInt8}
    (h : r.lowest count = .ok first) : count ≤ r.capacity := by
  by_contra tooMany
  rw [lowest_of_lt (Nat.lt_of_not_le tooMany)] at h
  cases h

/-- The least value never falls below the range: either no opcode is asked for, or the range is not
inverted and has room for all of them. -/
theorem start_le_lowest {r : ValueRange} {count : Nat} {first : UInt8}
    (h : r.lowest count = .ok first) (some_asked : 0 < count) : r.start.toNat ≤ first.toNat := by
  have fits := le_capacity_of_lowest h
  have sum := toNat_lowest h
  unfold capacity at fits
  omega

end ValueRange

namespace OpcodeRow

@[simp] theorem nameOf_mark_append (stem : Text) : nameOf (Token.mark ++ stem) = mark ++ stem := by
  simp [nameOf]

end OpcodeRow

namespace OpcodeTable

theorem rowsFrom_eq_mapIdx (first : UInt8) (tokens : List Token) :
    rowsFrom first tokens =
      tokens.mapIdx fun i token => ⟨OpcodeRow.nameOf token, first + UInt8.ofNat i⟩ := by
  induction tokens generalizing first with
  | nil => rfl
  | cons token rest ih =>
    have shift : ∀ i, first + 1 + UInt8.ofNat i = first + UInt8.ofNat (i + 1) := by
      intro i
      rw [UInt8.ofNat_add, UInt8.add_assoc, UInt8.add_comm 1]
      rfl
    simp only [rowsFrom, List.mapIdx_cons, ih, shift]
    simp

theorem toNat_add_index {first : UInt8} {i n : Nat} (room : first.toNat + n ≤ 255) (h : i < n) :
    (UInt8.ofNat i).toNat = i ∧ (first + UInt8.ofNat i).toNat = first.toNat + i := by
  have small : (UInt8.ofNat i).toNat = i := UInt8.toNat_ofNat_of_lt' (by change i < 256; omega)
  refine ⟨small, ?_⟩
  rw [UInt8.toNat_add, small]
  omega

theorem rowsFrom_getElem? {first : UInt8} {tokens : List Token}
    (room : first.toNat + tokens.length ≤ 255) {i : Nat} {row : OpcodeRow}
    (h : (rowsFrom first tokens)[i]? = some row) :
    i < tokens.length ∧ row.value.toNat = first.toNat + i := by
  rw [rowsFrom_eq_mapIdx, List.getElem?_mapIdx, Option.map_eq_some_iff] at h
  obtain ⟨token, found, rfl⟩ := h
  have inside : i < tokens.length := (List.getElem?_eq_some_iff.1 found).1
  exact ⟨inside, (toNat_add_index room inside).2⟩

structure Numbered (r : ValueRange) (tokens : List Token) (rows : List OpcodeRow) : Prop where
  length : rows.length = tokens.length
  unwrapped : ∃ first, r.lowest tokens.length = .ok first ∧
    rows = tokens.mapIdx (fun i token => ⟨OpcodeRow.nameOf token, first + UInt8.ofNat i⟩) ∧
    ∀ i < tokens.length, (UInt8.ofNat i).toNat = i ∧
      (first + UInt8.ofNat i).toNat = first.toNat + i
  row : ∀ (i : Nat) (stem : Text), tokens[i]? = some (Token.mark ++ stem) →
    ∃ value, rows[i]? = some ⟨OpcodeRow.mark ++ stem, value⟩ ∧
      (value.toNat : Int) = r.stop.toNat - tokens.length + i
  distinct : (rows.map OpcodeRow.value).Nodup
  contiguous : ∀ (i : Nat) (a b : OpcodeRow), rows[i]? = some a → rows[i + 1]? = some b →
    b.value.toNat = a.value.toNat + 1
  bounds : ∀ row ∈ rows, r.start ≤ row.value ∧ row.value < r.stop
  last : ∀ row, rows.getLast? = some row → (row.value.toNat : Int) = r.stop.toNat - 1

theorem numbered_rowsFrom {r : ValueRange} {tokens : List Token} {first : UInt8}
    (h : r.lowest tokens.length = .ok first) : Numbered r tokens (rowsFrom first tokens) := by
  have sum := ValueRange.toNat_lowest h
  have small := r.stop.toNat_lt
  have room : first.toNat + tokens.length ≤ 255 := by omega
  have value : ∀ (i : Nat) (row : OpcodeRow), (rowsFrom first tokens)[i]? = some row →
      i < tokens.length ∧ row.value.toNat = first.toNat + i := by
    intro i row found
    exact rowsFrom_getElem? room found
  refine ⟨length_rowsFrom first tokens, ?_, ?_, ?_, ?_, ?_, ?_⟩
  · exact ⟨first, h, rowsFrom_eq_mapIdx first tokens, fun i => toNat_add_index room⟩
  · intro i stem found
    have inside : i < tokens.length := (List.getElem?_eq_some_iff.1 found).1
    refine ⟨first + UInt8.ofNat i, ?_, ?_⟩
    · simp only [rowsFrom_eq_mapIdx, List.getElem?_mapIdx, found, Option.map_some,
        OpcodeRow.nameOf_mark_append]
    · rw [(toNat_add_index room inside).2]
      omega
  -- No sum has wrapped, so two rows of one value would stand at one index.
  · rw [List.nodup_iff_getElem?_ne_getElem?]
    intro i j lt bound same
    rw [List.length_map] at bound
    have at_i := List.getElem?_eq_getElem (Nat.lt_trans lt bound)
    have at_j := List.getElem?_eq_getElem bound
    simp only [List.getElem?_map, at_i, at_j, Option.map_some, Option.some.injEq] at same
    have value_i := (value i _ at_i).2
    have value_j := (value j _ at_j).2
    rw [same] at value_i
    omega
  · intro i a b at_i at_next
    have low := (value i a at_i).2
    have high := (value (i + 1) b at_next).2
    omega
  · intro row mem
    obtain ⟨i, found⟩ := List.mem_iff_getElem?.1 mem
    obtain ⟨inside, exact_value⟩ := value i row found
    have start := ValueRange.start_le_lowest h (by omega)
    exact ⟨UInt8.le_iff_toNat_le.2 (by omega), UInt8.lt_iff_toNat_lt.2 (by omega)⟩
  · intro row found
    rw [List.getLast?_eq_getElem?, length_rowsFrom] at found
    obtain ⟨inside, exact_value⟩ := value _ row found
    omega

theorem rows_of_le {o : OpcodeTable} {tokens : List Token}
    (fits : tokens.length ≤ o.range.capacity) :
    o.rows tokens = .ok (rowsFrom (o.range.stop - UInt8.ofNat tokens.length) tokens) := by
  rw [rows, ValueRange.lowest_of_le fits]
  rfl

theorem rows_of_lt {o : OpcodeTable} {tokens : List Token}
    (tooMany : o.range.capacity < tokens.length) :
    o.rows tokens = .error ⟨tokens.length, o.range.capacity⟩ := by
  rw [rows, ValueRange.lowest_of_lt tooMany]
  rfl

theorem rows_eq_ok_iff {o : OpcodeTable} {tokens : List Token} {found : List OpcodeRow} :
    o.rows tokens = .ok found ↔
      ∃ first, o.range.lowest tokens.length = .ok first ∧ found = rowsFrom first tokens := by
  unfold rows
  cases o.range.lowest tokens.length with
  | error overflow => simp [Except.map]
  | ok first => simp [Except.map, eq_comm]

theorem exists_rows_iff {o : OpcodeTable} {tokens : List Token} :
    (∃ found, o.rows tokens = .ok found) ↔ (tokens.length : Int) ≤ o.range.room := by
  have room := o.range.capacity_eq_room
  rcases Nat.lt_or_ge o.range.capacity tokens.length with tooMany | fits
  · simp only [rows_of_lt tooMany, reduceCtorEq, exists_false, false_iff]
    omega
  · simp only [rows_of_le fits, Except.ok.injEq, exists_eq', true_iff]
    omega

theorem make_of_rows {o : OpcodeTable} {lines : List Text} {found : List OpcodeRow}
    (h : o.rows (Token.survivors lines o.exclude) = .ok found) (time : Instant) :
    o.make lines time =
      .ok ⟨o.render found time, (Token.survivors lines o.exclude).length⟩ := by
  obtain ⟨first, _, rfl⟩ := rows_eq_ok_iff.1 h
  simp [make, h, Except.map]

theorem make_of_rows_error {o : OpcodeTable} {lines : List Text} {overflow : ValueRange.Overflow}
    (h : o.rows (Token.survivors lines o.exclude) = .error overflow) (time : Instant) :
    o.make lines time = .error overflow := by
  rw [make, h, Except.map]

theorem make_eq_ok_iff {o : OpcodeTable} {lines : List Text} {time : Instant} {artifact : Artifact} :
    o.make lines time = .ok artifact ↔ ∃ found, o.rows (Token.survivors lines o.exclude) = .ok found ∧
      artifact = ⟨o.render found time, (Token.survivors lines o.exclude).length⟩ := by
  cases h : o.rows (Token.survivors lines o.exclude) with
  | error overflow => simp [make_of_rows_error h]
  | ok found => simp [make_of_rows h, eq_comm]

theorem exists_make_iff {o : OpcodeTable} {lines : List Text} {time : Instant} :
    (∃ artifact, o.make lines time = .ok artifact) ↔
      ∃ found, o.rows (Token.survivors lines o.exclude) = .ok found := by
  simp [make_eq_ok_iff]

/-- Whatever the header, the range and the exclusions are: the survivors are numbered if the range has
room for all of them, and otherwise the refusal tells how many there are and how many fit. -/
theorem make_numbers_survivors (o : OpcodeTable) (header : Text) (time : Instant) :
    let lines := Text.lines header
    let tokens := Token.survivors lines o.exclude
    ((∃ artifact, o.make lines time = .ok artifact) ↔ (tokens.length : Int) ≤ o.range.room) ∧
    ((∃ rows, o.rows tokens = .ok rows) ↔ (tokens.length : Int) ≤ o.range.room) ∧
    (o.range.room < tokens.length → ∃ overflow,
      o.make lines time = .error overflow ∧ o.rows tokens = .error overflow ∧
      overflow.count = tokens.length ∧ (overflow.capacity : Int) = o.range.room) ∧
    (∀ rows, o.rows tokens = .ok rows →
      o.make lines time = .ok ⟨o.render rows time, tokens.length⟩ ∧
      (∀ token ∈ tokens, ∃ stem, token = Token.mark ++ stem) ∧
      Numbered o.range tokens rows) ∧
    ∀ count : Nat, o.range.Places count (o.range.lowest count) := by
  intro lines tokens
  refine ⟨exists_make_iff.trans exists_rows_iff, exists_rows_iff, ?_, ?_, o.range.lowest_places⟩
  · intro tooMany
    have capacity := o.range.capacity_eq_room
    have refused : o.rows tokens = .error ⟨tokens.length, o.range.capacity⟩ :=
      rows_of_lt (by omega)
    exact ⟨_, make_of_rows_error refused time, refused, rfl, capacity⟩
  · intro rows numbered
    obtain ⟨first, found, rfl⟩ := rows_eq_ok_iff.1 numbered
    exact ⟨make_of_rows numbered time, Token.survivors_marked _ _, numbered_rowsFrom found⟩

end OpcodeTable

end TokenTables
