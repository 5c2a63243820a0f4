import Mathlib.Data.List.Induction
import TokenTables.Proofs.Token.Survivors

/-!
Text without certain characters at its end, and without blanks at both ends. A text stays as it is if
its last character may stay; so cutting twice is cutting once, and the two ends are cut independently.
-/

namespace TokenTables.Text

theorem dropEndWhile_cons_congr {p : Char → Bool} {a b : Text} (c : Char)
    (same : dropEndWhile p a = dropEndWhile p b) :
    dropEndWhile p (c :: a) = dropEndWhile p (c :: b) := by
  rw [dropEndWhile, dropEndWhile, same]

theorem dropEndWhile_append_singleton (p : Char → Bool) (t : Text) (c : Char) :
    dropEndWhile p (t ++ [c]) = if p c then dropEndWhile p t else t ++ [c] := by
  rw [dropEndWhile_append]
  by_cases cut : p c = true
  · have nothing : dropEndWhile p [c] = [] := by simp [dropEndWhile, cut]
    rw [if_pos nothing, if_pos cut]
  · have kept : dropEndWhile p [c] = [c] := by simp [dropEndWhile, cut]
    rw [kept, if_neg (List.cons_ne_nil c []), if_neg cut]

theorem getLast?_dropEndWhile (p : Char → Bool) (t : Text) :
    ∀ c ∈ (dropEndWhile p t).getLast?, p c = false := by
  induction t using List.reverseRecOn with
  | nil => simp [dropEndWhile]
  | append_singleton t c ih =>
    rw [dropEndWhile_append_singleton]
    by_cases cut : p c = true
    · simpa only [if_pos cut] using ih
    · simp [cut]

theorem dropEndWhile_eq_self_iff {p : Char → Bool} {t : Text} :
    dropEndWhile p t = t ↔ ∀ c ∈ t.getLast?, p c = false := by
  constructor
  · intro same
    rw [← same]
    exact getLast?_dropEndWhile p t
  · intro stays
    induction t using List.reverseRecOn with
    | nil => rfl
    | append_singleton t c _ =>
      have kept : p c = false := stays c (by simp)
      rw [dropEndWhile_append_singleton, kept]
      rfl

theorem dropEndWhile_dropEndWhile (p : Char → Bool) (t : Text) :
    dropEndWhile p (dropEndWhile p t) = dropEndWhile p t :=
  dropEndWhile_eq_self_iff.2 (getLast?_dropEndWhile p t)

theorem trimEnd_trimEnd (t : Text) : trimEnd (trimEnd t) = trimEnd t :=
  dropEndWhile_dropEndWhile isBlank t

/-- The two ends are cut independently of each other. -/
theorem trimStart_trimEnd (t : Text) : trimStart (trimEnd t) = trimEnd (trimStart t) := by
  induction t with
  | nil => rfl
  | cons c t ih =>
    unfold trimStart trimEnd at ih ⊢
    by_cases blank : isBlank c = true
    · rw [List.dropWhile_cons_of_pos blank, ← ih, dropEndWhile]
      split
      · next empty => simp [blank, empty]
      · next kept => rw [List.dropWhile_cons_of_pos blank]
    · rw [List.dropWhile_cons_of_neg blank, dropEndWhile]
      split
      · simp [blank]
      · rw [List.dropWhile_cons_of_neg blank]

theorem trim_trimEnd (t : Text) : trim (trimEnd t) = trim t := by
  rw [trim, trimStart_trimEnd, trimEnd_trimEnd, trim]

end TokenTables.Text
