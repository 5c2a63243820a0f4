import TokenTables.Proofs.Text.Pieces

/-!
What the tokens of a header do not depend on. Blanks at the end of a line do not count, so neither does
the way in which a line ends; and the tokens of texts that are joined by line feeds are the tokens of
the one text after those of the other.
-/

namespace TokenTables.Token

theorem ofLine?_congr {a b : Text} (same : Text.trim a = Text.trim b) : ofLine? a = ofLine? b := by
  rw [ofLine?, ofLine?, same]

theorem ofLine?_trimEnd (line : Text) : ofLine? (Text.trimEnd line) = ofLine? line :=
  ofLine?_congr (Text.trim_trimEnd line)

theorem survivors_map_trimEnd (lines : List Text) (exclude : Exclusions) :
    survivors (lines.map Text.trimEnd) exclude = survivors lines exclude := by
  rw [survivors, survivors, List.filterMap_map]
  congr 2
  funext line
  exact ofLine?_trimEnd line

theorem survivors_sameButEnds {pieces lines : List Text} (h : Text.SameButEnds pieces lines)
    (exclude : Exclusions) : survivors pieces exclude = survivors lines exclude := by
  rw [← survivors_map_trimEnd pieces, ← survivors_map_trimEnd lines]
  rcases h with same | same
  · rw [same]
  · have nothing : survivors [[]] exclude = [] := rfl
    rw [same, survivors_append, nothing, List.append_nil]

theorem survivors_lines (text : Text) (exclude : Exclusions) :
    survivors (Text.lines text) exclude = survivors (Text.pieces '\n' text) exclude :=
  (survivors_sameButEnds (Text.pieces_sameButEnds_lines text) exclude).symm

theorem survivors_lines_append (a b : Text) (exclude : Exclusions) :
    survivors (Text.lines (a ++ '\n' :: b)) exclude =
      survivors (Text.lines a) exclude ++ survivors (Text.lines b) exclude := by
  simp only [survivors_lines, Text.pieces_append, survivors_append]

end TokenTables.Token
