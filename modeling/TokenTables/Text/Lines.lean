import TokenTables.Text.Basic

/-!
Text as lines. Only a line feed ends a line; one carriage return right before it belongs to the
ending. A last line without a line feed is kept as it is, and a final line feed opens no further line.
-/

namespace TokenTables.Text

/-- Puts a character at the front of the first line, opening one if there is none. -/
def consLine (c : Char) : List Text → List Text
  | [] => [[c]]
  | line :: rest => (c :: line) :: rest

def lines : Text → List Text
  | [] => []
  | '\n' :: t => [] :: lines t
  | '\r' :: '\n' :: t => [] :: lines t
  | c :: t => consLine c (lines t)

@[simp] theorem lines_lineFeed (t : Text) : lines ('\n' :: t) = [] :: lines t := by
  simp [lines]

theorem lines_cons {c : Char} (t : Text) (feed : c ≠ '\n') (ret : c ≠ '\r') :
    lines (c :: t) = consLine c (lines t) := by
  rw [lines]
  · exact fun h => absurd h feed
  · exact fun _ h _ => absurd h ret

theorem lineFeed_notMem_lines (t : Text) : ∀ line ∈ lines t, '\n' ∉ line := by
  fun_induction lines t with
  | case1 => simp
  | case2 t ih => simpa using ih
  | case3 t ih => simpa using ih
  | case4 c t feed _ ih =>
    intro line mem
    have other : c ≠ '\n' := fun h => feed h
    cases found : lines t with
    | nil =>
      have : line = [c] := by simpa [found, consLine] using mem
      simpa [this] using Ne.symm other
    | cons first rest =>
      rw [found] at ih mem
      simp only [consLine, List.mem_cons] at mem
      rcases mem with rfl | mem
      · simpa [Ne.symm other] using ih first (by simp)
      · exact ih line (by simp [mem])

end TokenTables.Text
