import TokenTables.Proofs.Token.Reformatting

/-!
Text that opens no line as a token does. Reading along a line it is enough to know whether more than
blanks has been read of it: only the first other character can open a token, and that is the first letter
of the mark. So text that is put in where a line is under way cannot make a token unless it holds a line
feed, whatever else it holds, and a layout is checked piece by piece.
-/

namespace TokenTables.Header

open Text Token

/-- One more character of a line of which more than blanks has been read, or not yet. A line is not read on
if it opens with the first letter of the mark. -/
def readOn (underWay : Bool) (c : Char) : Option Bool :=
  if c = '\n' then some false
  else if underWay || isBlank c then some underWay
  else if mark.head? = some c then none
  else some true

/-- The text is read from one state of the line to another. -/
def Carries (before after : Bool) (t : Text) : Prop := t.foldlM readOn before = some after

instance (before after : Bool) (t : Text) : Decidable (Carries before after t) :=
  inferInstanceAs (Decidable (_ = _))

variable {before between after : Bool} {t u line : Text}

theorem Carries.append (first : Carries before between t) (second : Carries between after u) :
    Carries before after (t ++ u) := by
  unfold Carries at first second ⊢
  rw [List.foldlM_append, first]
  exact second

theorem carries_cons_iff {c : Char} :
    Carries before after (c :: t) ↔ ∃ between, readOn before c = some between ∧ Carries between after t :=
  Option.bind_eq_some_iff

theorem carries_of_noFeed (noFeed : '\n' ∉ t) : Carries true true t := by
  induction t with
  | nil => rfl
  | cons c t ih =>
    obtain ⟨other, rest⟩ := List.ne_and_not_mem_of_not_mem_cons noFeed
    refine carries_cons_iff.2 ⟨true, ?_, ih rest⟩
    rw [readOn, if_neg (Ne.symm other)]
    rfl

theorem carries_flatMap {α : Type} {f : α → Text} {rows : List α}
    (each : ∀ row ∈ rows, Carries false false (f row)) : Carries false false (rows.flatMap f) := by
  induction rows with
  | nil => rfl
  | cons row rows ih =>
    obtain ⟨first, others⟩ := List.forall_mem_cons.1 each
    exact first.append (ih others)

/-- What a line may look like in either state. -/
inductive LineSoFar : Bool → Text → Prop where
  | blank {line : Text} : InlineBlanks line → LineSoFar false line
  | underWay {lead rest : Text} {c : Char} : InlineBlanks lead → isBlank c = false → mark.head? ≠ some c →
      '\n' ∉ rest → LineSoFar true (lead ++ c :: rest)

theorem LineSoFar.read {c : Char} (sofar : LineSoFar before line) (feed : c ≠ '\n')
    (reads : readOn before c = some after) : LineSoFar after (line ++ [c]) := by
  rw [readOn, if_neg feed] at reads
  cases sofar with
  | @blank line blanks =>
    by_cases blank : isBlank c = true
    · simp only [blank, Bool.or_true, if_true, Option.some.injEq] at reads
      subst reads
      refine .blank fun d mem => ?_
      rcases List.mem_append.1 mem with before | last
      · exact blanks d before
      · exact List.mem_singleton.1 last ▸ ⟨blank, feed⟩
    · simp only [blank, Bool.or_false, Bool.false_eq_true, if_false] at reads
      split at reads
      · cases reads
      · next other =>
        obtain rfl := Option.some.inj reads
        exact .underWay blanks (by simpa using blank) other (by simp)
  | @underWay lead rest d blanks notBlank other noFeed =>
    obtain rfl := Option.some.inj reads
    rw [List.append_assoc, List.cons_append]
    refine .underWay blanks notBlank other fun mem => ?_
    rcases List.mem_append.1 mem with inside | last
    · exact noFeed inside
    · exact feed (List.mem_singleton.1 last).symm

theorem unmarked_of_opening {c : Char} (rest : Text) (notBlank : isBlank c = false) (other : mark.head? ≠ some c) :
    beginsWith mark (trim (c :: rest)) = false := by
  rw [← Bool.not_eq_true, beginsWith_iff]
  rintro ⟨stem, trimmed⟩
  have leads : mark ++ stem <+: c :: rest := by
    rw [← trimmed, trim, trimStart, List.dropWhile_cons_of_neg (by simp [notBlank])]
    exact dropEndWhile_leads isBlank _
  exact other (congrArg some (List.cons_prefix_cons.1 leads).1)

theorem LineSoFar.survivors_eq_nil (sofar : LineSoFar before line) (exclude : Exclusions) :
    survivors line exclude = [] := by
  cases sofar with
  | blank blanks => rw [← List.append_nil line, survivors_blanks_append blanks, survivors_nil]
  | @underWay lead rest c blanks notBlank other noFeed =>
    have line : '\n' ∉ c :: rest := by
      refine List.not_mem_cons_of_ne_of_not_mem ?_ noFeed
      rintro rfl
      exact absurd notBlank (by decide)
    rw [survivors_blanks_append blanks, survivors_unmarked line (unmarked_of_opening rest notBlank other)]

theorem Carries.survivors_append (carries : Carries before after t) (sofar : LineSoFar before line)
    (exclude : Exclusions) : survivors (line ++ t) exclude = [] := by
  -- what has been read of the line is the invariant, and a line feed puts the empty line in its place
  induction t generalizing before line with
  | nil => rw [List.append_nil, sofar.survivors_eq_nil]
  | cons c t ih =>
    obtain ⟨between, reads, rest⟩ := carries_cons_iff.1 carries
    by_cases feed : c = '\n'
    · rw [readOn, if_pos feed, Option.some.injEq] at reads
      subst feed reads
      rw [survivors_append_feed, sofar.survivors_eq_nil, List.nil_append]
      exact ih rest (.blank inlineBlanks_nil)
    · rw [List.append_cons]
      exact ih rest (sofar.read feed reads)

theorem Carries.survivors_eq_nil (carries : Carries false after t) (exclude : Exclusions) :
    survivors t exclude = [] :=
  carries.survivors_append (.blank inlineBlanks_nil) exclude

end TokenTables.Header
