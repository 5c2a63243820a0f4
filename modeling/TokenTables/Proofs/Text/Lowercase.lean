import Mathlib.Data.List.Basic
import TokenTables.Text.Lowercase

/-!
What lower-casing does to the letters of ASCII, and what it never does: it never shortens a text, and it
never makes a line feed. Since its length depends on the characters alone, a text followed by its
lower-case form can be read back, with any fixed text between the two.
-/

namespace TokenTables.Text

theorem le_first_of_mem_tail : ∀ run ∈ lowerRuns.tail, 128 ≤ run.first := by decide +kernel

theorem lowerCode_of_ascii {n : Nat} (ascii : n < 128) :
    lowerCode n = if 65 ≤ n ∧ n ≤ 90 then n + 32 else n := by
  -- Only the first run begins within ASCII.
  have split : lowerRuns = ⟨65, 90, 1, 97⟩ :: lowerRuns.tail := rfl
  have later : lowerRuns.tail.findSome? (·.image? n) = none := by
    refine List.findSome?_eq_none_iff.2 fun run mem => ?_
    have start := le_first_of_mem_tail run mem
    exact if_neg (by omega)
  rw [lowerCode, split, List.findSome?_cons, later, CaseRun.image?]
  by_cases capital : 65 ≤ n ∧ n ≤ 90
  · simp only [capital, Nat.mod_one, and_self, if_true, Option.getD_some]
    omega
  · simp only [capital, Nat.mod_one, and_true, if_false, Option.getD_none]

theorem toLower_of_ascii : ∀ n < 128,
    (Char.ofNat n).toLower = Char.ofNat (if 65 ≤ n ∧ n ≤ 90 then n + 32 else n) := by
  decide +kernel

theorem lowerAt_of_ascii (before after : Text) {c : Char} (ascii : c.toNat < 128) :
    lowerAt before c after = [c.toLower] := by
  have notDotted : c ≠ dottedCapitalI := by
    rintro rfl
    revert ascii
    decide
  have notSigma : c ≠ capitalSigma := by
    rintro rfl
    revert ascii
    decide
  rw [lowerAt, if_neg notDotted, if_neg notSigma, lowerCode_of_ascii ascii, ← toLower_of_ascii _ ascii,
    Char.ofNat_toNat]

/-- In the place of every character `lowered` has its image, which for an ASCII capital is the small
letter, and for any other ASCII character that character. -/
def Lowers (t lowered : Text) : Prop :=
  ∃ images : List Text, lowered = images.flatten ∧
    List.Forall₂ (fun c image => c.toNat < 128 → image = [c.toLower]) t images

theorem lowers_lowerFrom (before t : Text) : Lowers t (lowerFrom before t) := by
  induction t generalizing before with
  | nil => exact ⟨[], rfl, .nil⟩
  | cons c after ih =>
    obtain ⟨images, same, each⟩ := ih (c :: before)
    refine ⟨lowerAt before c after :: images, ?_, .cons (lowerAt_of_ascii before after) each⟩
    rw [lowerFrom, same, List.flatten_cons]

theorem lowers_lowercase (t : Text) : Lowers t (lowercase t) := lowers_lowerFrom [] t

theorem Lowers.eq_map {t lowered : Text} (h : Lowers t lowered) (ascii : ∀ c ∈ t, c.toNat < 128) :
    lowered = t.map Char.toLower := by
  obtain ⟨images, rfl, each⟩ := h
  induction each with
  | nil => rfl
  | cons image _ ih =>
    obtain ⟨head, tail⟩ := List.forall_mem_cons.1 ascii
    rw [List.flatten_cons, image head, ih tail]
    rfl

theorem lowerSize_append (a b : Text) : lowerSize (a ++ b) = lowerSize a + lowerSize b := by
  induction a with
  | nil => simp [lowerSize]
  | cons c a ih =>
    simp only [List.cons_append, lowerSize, ih]
    omega

theorem length_le_lowerSize (t : Text) : t.length ≤ lowerSize t := by
  induction t with
  | nil => exact Nat.le_refl 0
  | cons c t ih =>
    have one : 1 ≤ lowerWidth c := by
      unfold lowerWidth
      split <;> omega
    simp only [List.length_cons, lowerSize]
    omega

theorem lowerSize_lt_of_prefix {s t : Text} (lead : s <+: t) (shorter : s.length < t.length) :
    lowerSize s < lowerSize t := by
  obtain ⟨rest, rfl⟩ := lead
  have grown := length_le_lowerSize rest
  rw [List.length_append] at shorter
  rw [lowerSize_append]
  omega

private theorem not_shorter {s t sep : Text}
    (h : s ++ sep ++ lowercase s = t ++ sep ++ lowercase t) : ¬ s.length < t.length := by
  intro shorter
  have sizes := congrArg List.length h
  simp only [List.length_append, length_lowercase] at sizes
  have lead : s <+: t := by
    rw [List.append_assoc, List.append_assoc] at h
    exact List.prefix_of_prefix_length_le ⟨_, h⟩ ⟨_, rfl⟩ (Nat.le_of_lt shorter)
  -- The sizes on both sides add up to one sum, but here each is larger on the right.
  have grown := lowerSize_lt_of_prefix lead shorter
  omega

/-- A text can be read out of itself, a separator and its lower-case form. -/
theorem eq_of_append_lowercase {s t sep : Text}
    (h : s ++ sep ++ lowercase s = t ++ sep ++ lowercase t) : s = t := by
  have same : s.length = t.length :=
    Nat.le_antisymm (Nat.not_lt.1 (not_shorter h.symm)) (Nat.not_lt.1 (not_shorter h))
  rw [List.append_assoc, List.append_assoc] at h
  exact (List.append_inj h same).1

theorem image_le_of_lowerRuns : ∀ run ∈ lowerRuns, 97 ≤ run.image := by decide +kernel

/-- Images are letters, so a code point below `a` comes only from itself. -/
theorem lowerCode_of_lt {n : Nat} (h : lowerCode n < 97) : lowerCode n = n := by
  unfold lowerCode at h ⊢
  cases found : lowerRuns.findSome? (·.image? n) with
  | none => rfl
  | some m =>
    obtain ⟨run, mem, image⟩ := List.exists_of_findSome?_eq_some found
    have low := image_le_of_lowerRuns run mem
    unfold CaseRun.image? at image
    split at image
    · simp only [Option.some.injEq] at image
      simp only [found, Option.getD_some] at h
      omega
    · cases image

theorem eq_ten_of_ofNat {n : Nat} (h : Char.ofNat n = '\n') : n = 10 := by
  by_cases valid : n.isValidChar
  · have same : Char.ofNat n = Char.ofNatAux n valid := dif_pos valid
    exact congrArg Char.toNat (same.symm.trans h)
  · have same : Char.ofNat n = ⟨0, by decide⟩ := dif_neg valid
    exact absurd (same.symm.trans h) (by decide)

theorem lineFeed_of_mem_lowerAt {before after : Text} {c : Char}
    (mem : '\n' ∈ lowerAt before c after) : c = '\n' := by
  unfold lowerAt at mem
  split at mem
  · simp at mem
  · split at mem
    · split at mem <;> simp at mem
    · have made := eq_ten_of_ofNat (List.mem_singleton.1 mem).symm
      rw [lowerCode_of_lt (by omega)] at made
      exact Char.toNat_inj.1 made

theorem lineFeed_of_mem_lowerFrom {before t : Text} (mem : '\n' ∈ lowerFrom before t) :
    '\n' ∈ t := by
  induction t generalizing before with
  | nil => cases mem
  | cons c after ih =>
    rcases List.mem_append.1 mem with here | later
    · exact lineFeed_of_mem_lowerAt here ▸ List.mem_cons_self
    · exact List.mem_cons_of_mem c (ih later)

theorem lineFeed_of_mem_lowercase {t : Text} (mem : '\n' ∈ lowercase t) : '\n' ∈ t :=
  lineFeed_of_mem_lowerFrom mem

end TokenTables.Text
