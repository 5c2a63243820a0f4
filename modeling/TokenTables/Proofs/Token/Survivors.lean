import Mathlib.Data.List.Basic
import TokenTables.Text.Lines
import TokenTables.Token.Survivors

/-!
What is known of every surviving token: it begins with the mark, and it holds only characters of the
line that names it. So a token from the lines of a text never holds a line feed.
-/

namespace TokenTables

namespace Text

theorem dropEndWhile_append (p : Char → Bool) (a b : Text) :
    dropEndWhile p (a ++ b) =
      if dropEndWhile p b = [] then dropEndWhile p a else a ++ dropEndWhile p b := by
  induction a with
  | nil => by_cases h : dropEndWhile p b = [] <;> simp [h, dropEndWhile]
  | cons c a ih =>
    rw [List.cons_append, dropEndWhile, ih]
    by_cases h : dropEndWhile p b = []
    · simp only [h, if_true, dropEndWhile]
    · simp [h]

theorem dropEndWhile_leads (p : Char → Bool) (t : Text) : dropEndWhile p t <+: t := by
  rw [dropEndWhile_eq_reverse, ← List.reverse_suffix, List.reverse_reverse]
  exact List.dropWhile_suffix p

/-- A text that does not end in `p` stands at the front whatever follows it. -/
theorem beginsWith_dropEndWhile {p : Char → Bool} {lead t : Text}
    (kept : dropEndWhile p lead = lead) (h : beginsWith lead t = true) :
    beginsWith lead (dropEndWhile p t) = true := by
  obtain ⟨rest, rfl⟩ := beginsWith_iff.1 h
  rw [dropEndWhile_append, kept, beginsWith_iff]
  split
  · exact ⟨[], (List.append_nil lead).symm⟩
  · exact ⟨dropEndWhile p rest, rfl⟩

theorem mem_of_mem_trim {t : Text} {c : Char} (mem : c ∈ trim t) : c ∈ t :=
  (List.dropWhile_suffix isBlank).subset ((dropEndWhile_leads isBlank _).subset mem)

end Text

namespace Token

theorem ofLine?_eq_some_iff {line : Text} {token : Token} :
    ofLine? line = some token ↔ Text.beginsWith mark (Text.trim line) = true ∧
      token = Text.dropEndWhile (· = ',') (Text.trim line) := by
  unfold ofLine?
  by_cases marked : Text.beginsWith mark (Text.trim line) = true
  · simp only [marked, if_true, Option.some.injEq, true_and, eq_comm]
  · simp [marked]

theorem mark_of_ofLine? {line : Text} {token : Token} (h : ofLine? line = some token) :
    ∃ stem, token = mark ++ stem := by
  obtain ⟨marked, rfl⟩ := ofLine?_eq_some_iff.1 h
  exact Text.beginsWith_iff.1 (Text.beginsWith_dropEndWhile rfl marked)

theorem mem_line_of_mem_ofLine? {line : Text} {token : Token} (h : ofLine? line = some token)
    {c : Char} (mem : c ∈ token) : c ∈ line := by
  obtain ⟨_, rfl⟩ := ofLine?_eq_some_iff.1 h
  exact Text.mem_of_mem_trim ((Text.dropEndWhile_leads _ _).subset mem)

theorem mem_survivors {lines : List Text} {exclude : Exclusions} {token : Token} :
    token ∈ survivors lines exclude ↔
      (∃ line ∈ lines, ofLine? line = some token) ∧ token ∉ exclude := by
  rw [survivors, List.mem_filter, List.mem_filterMap, Exclusions.mem_iff]
  simp

theorem survivors_marked (lines : List Text) (exclude : Exclusions) :
    ∀ token ∈ survivors lines exclude, ∃ stem, token = mark ++ stem := by
  intro token mem
  obtain ⟨⟨_, _, named⟩, _⟩ := mem_survivors.1 mem
  exact mark_of_ofLine? named

theorem lineFeed_notMem_survivors (header : Text) (exclude : Exclusions) :
    ∀ token ∈ survivors (Text.lines header) exclude, '\n' ∉ token := by
  intro token mem feed
  obtain ⟨⟨line, inside, named⟩, _⟩ := mem_survivors.1 mem
  exact Text.lineFeed_notMem_lines header line inside (mem_line_of_mem_ofLine? named feed)

end Token

end TokenTables
