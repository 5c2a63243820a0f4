import Mathlib.Data.List.Basic
import TokenTables.Text.Lines

/-!
Reading lines back. A line that was written with a line feed at its end is read as it is, unless it
holds a line feed itself or ends in a carriage return. So text written line by line is read back as
the same lines.
-/

namespace TokenTables.Text

/-- A line that reads back when a line feed is put after it. -/
structure IsLine (line : Text) : Prop where
  noFeed : '\n' ∉ line
  noReturn : line.getLast? ≠ some '\r'

theorem lines_return_cons {d : Char} (t : Text) (feed : d ≠ '\n') :
    lines ('\r' :: d :: t) = consLine '\r' (lines (d :: t)) := by
  rw [lines]
  · simp
  · intro t' _ same
    cases same
    exact feed rfl

theorem isLine_tail {c : Char} {line : Text} (h : IsLine (c :: line)) : IsLine line := by
  refine ⟨fun mem => h.noFeed (List.mem_cons_of_mem c mem), fun ends => h.noReturn ?_⟩
  rw [List.getLast?_cons, ends]
  rfl

theorem lines_append_feed {line : Text} (h : IsLine line) (t : Text) :
    lines (line ++ '\n' :: t) = line :: lines t := by
  induction line with
  | nil => simp
  | cons c line ih =>
    have rest := ih (isLine_tail h)
    have feed : c ≠ '\n' := by
      rintro rfl
      exact h.noFeed List.mem_cons_self
    by_cases ret : c = '\r'
    · subst ret
      cases line with
      | nil => exact absurd rfl h.noReturn
      | cons d line =>
        have other : d ≠ '\n' := by
          rintro rfl
          exact (isLine_tail h).noFeed List.mem_cons_self
        rw [List.cons_append, List.cons_append, lines_return_cons _ other, ← List.cons_append, rest]
        rfl
    · rw [List.cons_append, lines_cons _ feed ret, rest]
      rfl

def written (ls : List Text) : Text := ls.flatMap fun line => line ++ ['\n']

theorem lines_written {ls : List Text} (h : ∀ line ∈ ls, IsLine line) : lines (written ls) = ls := by
  induction ls with
  | nil => rfl
  | cons line ls ih =>
    have first := h line List.mem_cons_self
    have rest := ih fun other mem => h other (List.mem_cons_of_mem line mem)
    have split : written (line :: ls) = line ++ '\n' :: written ls := by
      simp [written]
    rw [split, lines_append_feed first, rest]

theorem written_inj {a b : List Text} (ha : ∀ line ∈ a, IsLine line) (hb : ∀ line ∈ b, IsLine line)
    (h : written a = written b) : a = b := by
  rw [← lines_written ha, h, lines_written hb]

end TokenTables.Text
