import TokenTables.Proofs.Text.Trimming
import TokenTables.Text.Lines

/-!
Lines are the pieces between line feeds, but for blanks at their ends: the carriage return before a line
feed belongs to the piece, and the piece after a final line feed is empty. Pieces are easier to cut and
to join than lines, for a separator between two texts parts their pieces.
-/

namespace TokenTables.Text

theorem pieces_separator (sep : Char) (t : Text) : pieces sep (sep :: t) = [] :: pieces sep t := by
  rw [pieces, if_pos rfl]

theorem pieces_cons {sep c : Char} (other : c ≠ sep) (t : Text) :
    pieces sep (c :: t) = consLine c (pieces sep t) := by
  rw [pieces, if_neg other]
  cases pieces sep t with
  | nil => rfl
  | cons piece rest => rfl

theorem consLine_append (c : Char) {ls : List Text} (nonempty : ls ≠ []) (more : List Text) :
    consLine c (ls ++ more) = consLine c ls ++ more := by
  cases ls with
  | nil => contradiction
  | cons line rest => rfl

theorem pieces_append (sep : Char) (a b : Text) :
    pieces sep (a ++ sep :: b) = pieces sep a ++ pieces sep b := by
  induction a with
  | nil => rw [List.nil_append, pieces_separator, pieces, List.singleton_append]
  | cons c a ih =>
    rw [List.cons_append]
    by_cases same : c = sep
    · rw [same, pieces_separator, pieces_separator, ih, List.cons_append]
    · rw [pieces_cons same, pieces_cons same, ih, consLine_append c (pieces_ne_nil sep a)]

theorem pieces_of_notMem {sep : Char} {t : Text} (none : sep ∉ t) : pieces sep t = [t] := by
  induction t with
  | nil => rfl
  | cons c t ih =>
    obtain ⟨other, rest⟩ := List.ne_and_not_mem_of_not_mem_cons none
    rw [pieces_cons (Ne.symm other), ih rest]
    rfl

theorem notMem_pieces (sep : Char) (t : Text) : ∀ piece ∈ pieces sep t, sep ∉ piece := by
  induction t with
  | nil => simp [pieces]
  | cons c t ih =>
    by_cases same : c = sep
    · rw [same, pieces_separator]
      simpa using ih
    · rw [pieces_cons same]
      cases found : pieces sep t with
      | nil => simpa [consLine] using Ne.symm same
      | cons piece rest =>
        rw [found] at ih
        simpa [consLine, Ne.symm same] using ih

/-- Two lists of lines that differ in blanks at their ends, or in a last line that is empty. -/
def SameButEnds (pieces lines : List Text) : Prop :=
  pieces.map trimEnd = lines.map trimEnd ∨ pieces.map trimEnd = lines.map trimEnd ++ [[]]

theorem SameButEnds.cons {p l : Text} {ps ls : List Text} (first : trimEnd p = trimEnd l)
    (rest : SameButEnds ps ls) : SameButEnds (p :: ps) (l :: ls) := by
  refine rest.imp (fun same => ?_) (fun same => ?_)
  · rw [List.map_cons, List.map_cons, first, same]
  · rw [List.map_cons, List.map_cons, first, same, List.cons_append]

theorem SameButEnds.consLine (c : Char) {ps ls : List Text} (h : SameButEnds ps ls) :
    SameButEnds (consLine c ps) (consLine c ls) := by
  cases ls with
  | nil =>
    rcases h with same | same
    · obtain rfl : ps = [] := List.map_eq_nil_iff.1 same
      exact .inl rfl
    · obtain ⟨p, rfl, empty⟩ := List.map_eq_singleton_iff.1 same
      exact .inl (congrArg (fun t => [t]) (dropEndWhile_cons_congr c empty))
  | cons l ls =>
    cases ps with
    | nil => rcases h with same | same <;> simp at same
    | cons p ps =>
      have parts : trimEnd p = trimEnd l ∧ SameButEnds ps ls := by
        rcases h with same | same
        · exact ⟨(List.cons.inj same).1, .inl (List.cons.inj same).2⟩
        · exact ⟨(List.cons.inj same).1, .inr (List.cons.inj same).2⟩
      exact .cons (dropEndWhile_cons_congr c parts.1) parts.2

theorem pieces_sameButEnds_lines (t : Text) : SameButEnds (pieces '\n' t) (lines t) := by
  fun_induction lines t with
  | case1 => exact .inr rfl
  | case2 t ih =>
    rw [pieces_separator]
    exact .cons rfl ih
  | case3 t ih =>
    rw [pieces_cons (by decide), pieces_separator]
    exact .cons (by decide) ih
  | case4 c t feed _ ih =>
    rw [pieces_cons fun same => feed same]
    exact ih.consLine c

end TokenTables.Text
