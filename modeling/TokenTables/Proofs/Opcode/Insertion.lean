import Mathlib.Data.List.Forall2
import TokenTables.Proofs.Opcode.Numbering
import TokenTables.Proofs.Token.Formatting

/-!
What a text put into a header does to the opcodes. Values are given downwards from the stop of the range,
so tokens behind others are numbered as if they stood alone, and tokens before them as if the range
stopped where the others begin. Text in the middle therefore lowers the values before it, all by its own
number of opcodes, and leaves those behind it as they are.
-/

namespace TokenTables

namespace ValueRange

/-- The range without its `n` highest values. -/
def below (r : ValueRange) (n : Nat) : ValueRange :=
  { r with stop := UInt8.ofNat (r.stop.toNat - n) }

@[simp] theorem toNat_stop_below (r : ValueRange) (n : Nat) :
    (r.below n).stop.toNat = r.stop.toNat - n := by
  have small := r.stop.toNat_lt
  exact UInt8.toNat_ofNat_of_lt' (by change r.stop.toNat - n < 256; omega)

@[simp] theorem capacity_below (r : ValueRange) (n : Nat) : (r.below n).capacity = r.capacity - n := by
  have start : (r.below n).start = r.start := rfl
  rw [capacity, toNat_stop_below, start, capacity]
  omega

@[simp] theorem room_below (r : ValueRange) (n : Nat) : (r.below n).room = max 0 (r.room - n) := by
  rw [← capacity_eq_room, ← capacity_eq_room, capacity_below]
  omega

@[simp] theorem below_below (r : ValueRange) (m n : Nat) : (r.below m).below n = r.below (m + n) := by
  have stop : (r.below m).stop.toNat - n = r.stop.toNat - (m + n) := by
    rw [toNat_stop_below]
    omega
  rw [below, stop]
  rfl

theorem lowest_eq_ok_iff {r : ValueRange} {count : Nat} {first : UInt8} :
    r.lowest count = .ok first ↔ count ≤ r.capacity ∧ first.toNat + count = r.stop.toNat := by
  constructor
  · intro found
    exact ⟨le_capacity_of_lowest found, toNat_lowest found⟩
  · rintro ⟨fits, sum⟩
    have found := lowest_of_le fits
    have exact_sum := toNat_lowest found
    have same : first = r.stop - UInt8.ofNat count := UInt8.toNat_inj.1 (by omega)
    rw [found, same]

theorem lowest_add_eq_ok_iff {r : ValueRange} {m n : Nat} {first : UInt8} :
    r.lowest (m + n) = .ok first ↔ (r.below n).lowest m = .ok first ∧ n ≤ r.capacity := by
  have capacity : r.capacity ≤ r.stop.toNat := Nat.sub_le _ _
  rw [lowest_eq_ok_iff, lowest_eq_ok_iff, capacity_below, toNat_stop_below]
  omega

theorem lowest_of_below {r : ValueRange} {m n : Nat} {first : UInt8}
    (below : (r.below n).lowest m = .ok first) (fits : n ≤ r.capacity) :
    r.lowest n = .ok (first + UInt8.ofNat m) := by
  have stop := r.stop.toNat_lt
  have capacity : r.capacity ≤ r.stop.toNat := Nat.sub_le _ _
  have sum : first.toNat + m = r.stop.toNat - n := by
    rw [toNat_lowest below, toNat_stop_below]
  have narrow : (UInt8.ofNat m).toNat = m := UInt8.toNat_ofNat_of_lt' (by change m < 256; omega)
  have unwrapped : (first + UInt8.ofNat m).toNat = first.toNat + m := by
    rw [UInt8.toNat_add, narrow]
    omega
  rw [lowest_eq_ok_iff, unwrapped]
  omega

end ValueRange

namespace OpcodeTable

theorem rowsFrom_append (first : UInt8) (a b : List Token) :
    rowsFrom first (a ++ b) = rowsFrom first a ++ rowsFrom (first + UInt8.ofNat a.length) b := by
  have shift : ∀ i, first + UInt8.ofNat (i + a.length) = first + UInt8.ofNat a.length + UInt8.ofNat i := by
    intro i
    rw [UInt8.ofNat_add, UInt8.add_comm (UInt8.ofNat i), UInt8.add_assoc]
  simp only [rowsFrom_eq_mapIdx, List.mapIdx_append, shift]

def below (o : OpcodeTable) (n : Nat) : OpcodeTable := { o with range := o.range.below n }

@[simp] theorem below_below (o : OpcodeTable) (m n : Nat) : (o.below m).below n = o.below (m + n) := by
  rw [below, below, below, ValueRange.below_below]

/-- Tokens behind others are numbered as if they stood alone, the others below them. -/
theorem rows_append_eq_ok_iff {o : OpcodeTable} {a b : List Token} {rows : List OpcodeRow} :
    o.rows (a ++ b) = .ok rows ↔ ∃ lower upper,
      (o.below b.length).rows a = .ok lower ∧ o.rows b = .ok upper ∧ rows = lower ++ upper := by
  simp only [rows_eq_ok_iff, List.length_append, ValueRange.lowest_add_eq_ok_iff]
  constructor
  · rintro ⟨first, ⟨below, fits⟩, rfl⟩
    have above := ValueRange.lowest_of_below below fits
    exact ⟨_, _, ⟨first, below, rfl⟩, ⟨_, above, rfl⟩, rowsFrom_append first a b⟩
  · rintro ⟨_, _, ⟨first, below, rfl⟩, ⟨next, above, rfl⟩, rfl⟩
    have fits := ValueRange.le_capacity_of_lowest above
    have meet := above.symm.trans (ValueRange.lowest_of_below below fits)
    rw [Except.ok.inj meet]
    exact ⟨first, ⟨below, fits⟩, (rowsFrom_append first a b).symm⟩

theorem rows_eq_error_iff {o : OpcodeTable} {tokens : List Token} :
    (∃ overflow, o.rows tokens = .error overflow) ↔ o.range.room < tokens.length := by
  rw [← Int.not_le, ← exists_rows_iff]
  cases o.rows tokens <;> simp

theorem rows_append_eq_error_iff {o : OpcodeTable} {a b : List Token} :
    (∃ overflow, o.rows (a ++ b) = .error overflow) ↔
      (∃ overflow, o.rows b = .error overflow) ∨
      ∃ overflow, (o.below b.length).rows a = .error overflow := by
  have room := o.range.room_below b.length
  simp only [rows_eq_error_iff, List.length_append]
  change _ ↔ _ ∨ (o.range.below b.length).room < a.length
  omega

/-- The same rows in the same order, every value higher by `n`. -/
def RaisedBy (n : Nat) (lower upper : List OpcodeRow) : Prop :=
  List.Forall₂ (fun low high => low.name = high.name ∧ low.value.toNat + n = high.value.toNat)
    lower upper

theorem raisedBy_rowsFrom {n : Nat} {low high : UInt8} {tokens : List Token}
    (apart : low.toNat + n = high.toNat) (room : high.toNat + tokens.length < 256) :
    RaisedBy n (rowsFrom low tokens) (rowsFrom high tokens) := by
  induction tokens generalizing low high with
  | nil => exact .nil
  | cons token rest ih =>
    rw [List.length_cons] at room
    have next_low : (low + 1).toNat = low.toNat + 1 := by
      rw [UInt8.toNat_add, UInt8.toNat_one]
      omega
    have next_high : (high + 1).toNat = high.toNat + 1 := by
      rw [UInt8.toNat_add, UInt8.toNat_one]
      omega
    exact .cons ⟨rfl, apart⟩ (ih (by omega) (by omega))

/-- Without its `n` highest values a range numbers the same tokens lower by `n`. -/
theorem exists_raised_of_rows_below {o : OpcodeTable} {n : Nat} {tokens : List Token}
    {lower : List OpcodeRow} (below : (o.below n).rows tokens = .ok lower) (fits : n ≤ o.range.capacity) :
    ∃ upper, o.rows tokens = .ok upper ∧ RaisedBy n lower upper := by
  obtain ⟨low, found, rfl⟩ := rows_eq_ok_iff.1 below
  have room := ValueRange.le_capacity_of_lowest found
  have sum := ValueRange.toNat_lowest found
  have stop := o.range.stop.toNat_lt
  have capacity : o.range.capacity ≤ o.range.stop.toNat := Nat.sub_le _ _
  change tokens.length ≤ (o.range.below n).capacity at room
  change _ = (o.range.below n).stop.toNat at sum
  rw [ValueRange.capacity_below] at room
  rw [ValueRange.toNat_stop_below] at sum
  have whole : tokens.length ≤ o.range.capacity := by omega
  have sum_above := ValueRange.toNat_lowest (ValueRange.lowest_of_le whole)
  exact ⟨_, rows_of_le whole, raisedBy_rowsFrom (by omega) (by omega)⟩

/-! ## Headers -/

def tokensOf (o : OpcodeTable) (header : Text) : List Token :=
  Token.survivors (Text.lines header) o.exclude

def rowsOf (o : OpcodeTable) (header : Text) : Except ValueRange.Overflow (List OpcodeRow) :=
  o.rows (o.tokensOf header)

theorem tokensOf_join_pair (o : OpcodeTable) (a b : Text) :
    o.tokensOf (Text.join ['\n'] [a, b]) = o.tokensOf a ++ o.tokensOf b := by
  have text : Text.join ['\n'] [a, b] = a ++ '\n' :: b := by simp [Text.join]
  rw [text]
  exact Token.survivors_lines_append a b o.exclude

theorem tokensOf_join_triple (o : OpcodeTable) (a m b : Text) :
    o.tokensOf (Text.join ['\n'] [a, m, b]) = (o.tokensOf a ++ o.tokensOf m) ++ o.tokensOf b := by
  have text : Text.join ['\n'] [a, m, b] = a ++ '\n' :: Text.join ['\n'] [m, b] := by
    simp [Text.join]
  rw [text, List.append_assoc, ← tokensOf_join_pair]
  exact Token.survivors_lines_append a _ o.exclude

/-- Text put into a header renumbers only what stands before it. The rows behind it stay, and are those
that the text behind it has alone; the rows before it keep their names and sink by the number of opcodes
put in. The longer header has rows exactly if the range has room for all its tokens, and it is refused
exactly if one of its parts does not fit below those behind it. -/
theorem rowsOf_insert (o : OpcodeTable) (a m b : Text) :
    let longer := Text.join ['\n'] [a, m, b]
    let shorter := Text.join ['\n'] [a, b]
    let before := (o.tokensOf a).length
    let putIn := (o.tokensOf m).length
    let behind := (o.tokensOf b).length
    ((∃ rows, o.rowsOf longer = .ok rows) ↔ (before + putIn + behind : Int) ≤ o.range.room) ∧
    (∀ rows, o.rowsOf longer = .ok rows → ∃ lowered raised inserted upper,
      rows = lowered ++ inserted ++ upper ∧ o.rowsOf shorter = .ok (raised ++ upper) ∧
      o.rowsOf b = .ok upper ∧
      (o.below behind).rowsOf a = .ok raised ∧ RaisedBy putIn lowered raised ∧
      (o.below behind).rowsOf m = .ok inserted ∧ inserted.length = putIn) ∧
    ((∃ overflow, o.rowsOf longer = .error overflow) ↔
      (∃ overflow, o.rowsOf b = .error overflow) ∨
      (∃ overflow, (o.below behind).rowsOf m = .error overflow) ∨
      ∃ overflow, (o.below (behind + putIn)).rowsOf a = .error overflow) ∧
    ((∃ overflow, o.rowsOf longer = .error overflow) ↔
      o.range.room < behind ∨ (o.range.below behind).room < putIn ∨
      (o.range.below (behind + putIn)).room < before) := by
  intro longer shorter before putIn behind
  have refused : (∃ overflow, o.rowsOf longer = .error overflow) ↔
      (∃ overflow, o.rowsOf b = .error overflow) ∨
      (∃ overflow, (o.below behind).rowsOf m = .error overflow) ∨
      ∃ overflow, (o.below (behind + putIn)).rowsOf a = .error overflow := by
    rw [rowsOf, tokensOf_join_triple, rows_append_eq_error_iff, rows_append_eq_error_iff, below_below]
    rfl
  refine ⟨?_, ?_, refused, ?_⟩
  · rw [rowsOf, tokensOf_join_triple, exists_rows_iff, List.length_append, List.length_append]
    push_cast
    rfl
  · intro rows numbered
    rw [rowsOf, tokensOf_join_triple, rows_append_eq_ok_iff] at numbered
    -- The rows in front of `b` are those of `a` and `m` in the range below, and are cut once more there.
    obtain ⟨before, upper, front, alone, rfl⟩ := numbered
    obtain ⟨lowered, inserted, low, middle, rfl⟩ := rows_append_eq_ok_iff.1 front
    obtain ⟨first, found, same⟩ := rows_eq_ok_iff.1 middle
    obtain ⟨raised, high, sunk⟩ :=
      exists_raised_of_rows_below low (ValueRange.le_capacity_of_lowest found)
    have short : o.rowsOf shorter = .ok (raised ++ upper) := by
      rw [rowsOf, tokensOf_join_pair]
      exact rows_append_eq_ok_iff.2 ⟨raised, upper, high, alone, rfl⟩
    have count : inserted.length = putIn := by
      rw [same, length_rowsFrom]
    exact ⟨lowered, raised, inserted, upper, rfl, short, alone, high, sunk, middle, count⟩
  · rw [refused]
    simp only [rowsOf, rows_eq_error_iff]
    rfl

end OpcodeTable

end TokenTables
