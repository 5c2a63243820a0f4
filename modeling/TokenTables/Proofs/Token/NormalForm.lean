import TokenTables.Proofs.Text.Trimming

/-!
Taking tokens for lines. Blanks are cut off a line before the commas at its end are, so a blank that
stands right before these commas stays in the token, and only a second reading cuts it off. Tokens of
all other lines are in normal form, and where all are, reading them again changes nothing.
-/

namespace TokenTables

namespace Text

theorem dropEndWhile_eq_nil {p : Char → Bool} {t : Text} (all : ∀ c ∈ t, p c = true) :
    dropEndWhile p t = [] := by
  induction t with
  | nil => rfl
  | cons c t ih =>
    obtain ⟨first, others⟩ := List.forall_mem_cons.1 all
    simp only [dropEndWhile, ih others, first, if_true]

theorem exists_cut (p : Char → Bool) (t : Text) :
    ∃ cut, t = dropEndWhile p t ++ cut ∧ ∀ c ∈ cut, p c = true := by
  induction t using List.reverseRecOn with
  | nil => exact ⟨[], rfl, by simp⟩
  | append_singleton t c ih =>
    rw [dropEndWhile_append_singleton]
    by_cases dropped : p c = true
    · obtain ⟨cut, whole, all⟩ := ih
      refine ⟨cut ++ [c], ?_, ?_⟩
      · rw [if_pos dropped, ← List.append_assoc, ← whole]
      · simpa [or_imp, forall_and, dropped] using all
    · exact ⟨[], by rw [if_neg dropped, List.append_nil], by simp⟩

def EndsBlank (t : Text) : Prop := ∃ c ∈ t.getLast?, isBlank c = true

def BlankBeforeCommas (t : Text) : Prop :=
  ∃ body blank commas, t = body ++ blank :: commas ∧ isBlank blank = true ∧ ∀ c ∈ commas, c = ','

theorem blankBeforeCommas_iff {t : Text} :
    BlankBeforeCommas t ↔ EndsBlank (dropEndWhile (· = ',') t) := by
  constructor
  · rintro ⟨body, blank, commas, rfl, isBlank, all⟩
    have noComma : blank ≠ ',' := by
      rintro rfl
      exact absurd isBlank (by decide)
    have kept : dropEndWhile (· = ',') (body ++ blank :: commas) = body ++ [blank] := by
      have nothing : dropEndWhile (· = ',') commas = [] :=
        dropEndWhile_eq_nil fun c mem => decide_eq_true (all c mem)
      rw [List.append_cons, dropEndWhile_append, if_pos nothing,
        dropEndWhile_append_singleton, decide_eq_false noComma]
      rfl
    exact ⟨blank, by simp [kept], isBlank⟩
  · rintro ⟨blank, last, isBlank⟩
    obtain ⟨cut, whole, all⟩ := exists_cut (· = ',') t
    obtain ⟨body, kept⟩ := List.getLast?_eq_some_iff.1 last
    refine ⟨body, blank, cut, ?_, isBlank, fun c mem => of_decide_eq_true (all c mem)⟩
    rw [kept, List.append_assoc] at whole
    exact whole

theorem trimEnd_eq_self_iff {t : Text} : trimEnd t = t ↔ ¬ EndsBlank t := by
  rw [trimEnd, dropEndWhile_eq_self_iff, EndsBlank]
  simp

end Text

namespace Token

/-- Taken for a line, the token names itself. -/
def IsNormal (token : Token) : Prop := ofLine? token = some token

def again (token : Token) : Token := Text.dropEndWhile (· = ',') (Text.trimEnd token)

theorem trim_mark_append (stem : Text) : Text.trim (mark ++ stem) = Text.trimEnd (mark ++ stem) := rfl

theorem ofLine?_eq_again {token : Token} (marked : ∃ stem, token = mark ++ stem) :
    ofLine? token = some (again token) := by
  obtain ⟨stem, rfl⟩ := marked
  rw [ofLine?_eq_some_iff, trim_mark_append]
  have begins : Text.beginsWith mark (mark ++ stem) = true := Text.beginsWith_iff.2 ⟨stem, rfl⟩
  exact ⟨Text.beginsWith_dropEndWhile rfl begins, rfl⟩

theorem isNormal_iff_again {token : Token} (marked : ∃ stem, token = mark ++ stem) :
    IsNormal token ↔ again token = token := by
  rw [IsNormal, ofLine?_eq_again marked, Option.some.injEq]

/-- A token has no commas at its end, so only a blank there keeps it from being in normal form. -/
theorem isNormal_iff_of_ofLine? {line : Text} {token : Token} (named : ofLine? line = some token) :
    IsNormal token ↔ ¬ Text.EndsBlank token := by
  obtain ⟨-, cut⟩ := ofLine?_eq_some_iff.1 named
  have noCommas : Text.dropEndWhile (· = ',') token = token := by
    rw [cut, Text.dropEndWhile_dropEndWhile]
  rw [isNormal_iff_again (mark_of_ofLine? named), ← Text.trimEnd_eq_self_iff, again]
  constructor
  · intro same
    have shorter := (Text.dropEndWhile_leads (· = ',') (Text.trimEnd token)).length_le
    rw [same] at shorter
    exact (Text.dropEndWhile_leads _ token).eq_of_length_le shorter
  · intro same
    rw [same, noCommas]

theorem isNormal_iff_not_blankBeforeCommas {line : Text} {token : Token}
    (named : ofLine? line = some token) :
    IsNormal token ↔ ¬ Text.BlankBeforeCommas (Text.trim line) := by
  rw [isNormal_iff_of_ofLine? named, Text.blankBeforeCommas_iff, (ofLine?_eq_some_iff.1 named).2]

theorem survivors_of_marked {tokens : List Token} (marked : ∀ token ∈ tokens, ∃ stem, token = mark ++ stem)
    (exclude : Exclusions) :
    survivors tokens exclude = (tokens.map again).filter fun token => !exclude.contains token := by
  have named : tokens.filterMap ofLine? = tokens.map again := by
    rw [← List.filterMap_eq_map]
    exact List.filterMap_congr fun token mem => ofLine?_eq_again (marked token mem)
  rw [survivors, named]

theorem survivors_eq_self_iff {tokens : List Token} {exclude : Exclusions}
    (marked : ∀ token ∈ tokens, ∃ stem, token = mark ++ stem) (apart : ∀ token ∈ tokens, token ∉ exclude) :
    survivors tokens exclude = tokens ↔ ∀ token ∈ tokens, IsNormal token := by
  rw [survivors_of_marked marked]
  constructor
  · intro same token mem
    -- The filter keeps as many as there were, so it keeps all, and each token is its own second reading.
    have sublist := List.filter_sublist (l := tokens.map again) (p := fun token => !exclude.contains token)
    rw [same] at sublist
    have whole : tokens = tokens.map again := sublist.eq_of_length (by rw [List.length_map])
    have fixed := List.map_eq_map_iff.1 (whole.symm.trans (List.map_id tokens).symm) token mem
    exact (isNormal_iff_again (marked token mem)).2 fixed
  · intro normal
    have fixed : tokens.map again = tokens := by
      refine (List.map_congr_left fun token mem => ?_).trans (List.map_id tokens)
      exact (isNormal_iff_again (marked token mem)).1 (normal token mem)
    rw [fixed]
    refine List.filter_eq_self.2 fun token mem => ?_
    simpa [Exclusions.mem_iff] using apart token mem

/-- Reading the survivors again gives them back exactly if none of their lines has a blank right before
its commas. The tokens of such lines are those that are not in normal form; all others are, so none of
them names an excluded token. -/
theorem survivors_again_iff (lines : List Text) (exclude : Exclusions) :
    let tokens := survivors lines exclude
    (survivors tokens exclude = tokens ↔ ∀ line ∈ lines, ∀ token ∉ exclude,
      ofLine? line = some token → ¬ Text.BlankBeforeCommas (Text.trim line)) ∧
    (survivors tokens exclude = tokens ↔ ∀ token ∈ tokens, IsNormal token) ∧
    (∀ line token, ofLine? line = some token →
      (IsNormal token ↔ ¬ Text.BlankBeforeCommas (Text.trim line))) ∧
    ∀ token ∈ tokens, ∃ normal, ofLine? token = some normal ∧ (normal ∈ exclude → Text.EndsBlank token) := by
  intro tokens
  have again_iff : survivors tokens exclude = tokens ↔ ∀ token ∈ tokens, IsNormal token :=
    survivors_eq_self_iff (survivors_marked lines exclude) fun token mem => (mem_survivors.1 mem).2
  refine ⟨?_, again_iff, fun line token => isNormal_iff_not_blankBeforeCommas, ?_⟩
  · rw [again_iff]
    constructor
    · intro normal line inside token kept named
      exact (isNormal_iff_not_blankBeforeCommas named).1
        (normal token (mem_survivors.2 ⟨⟨line, inside, named⟩, kept⟩))
    · intro plain token mem
      obtain ⟨⟨line, inside, named⟩, kept⟩ := mem_survivors.1 mem
      exact (isNormal_iff_not_blankBeforeCommas named).2 (plain line inside token kept named)
  · intro token mem
    obtain ⟨⟨line, -, named⟩, kept⟩ := mem_survivors.1 mem
    refine ⟨again token, ofLine?_eq_again (mark_of_ofLine? named), fun excluded => ?_⟩
    by_contra noBlank
    have normal := (isNormal_iff_of_ofLine? named).2 noBlank
    exact kept ((isNormal_iff_again (mark_of_ofLine? named)).1 normal ▸ excluded)

/-- A blank before the comma is kept, so an excluded token survives, and a second reading cuts the blank. -/
theorem survivors_again_blank :
    let lines : List Text := ["TOK_ADD ,"]
    let exclude := Exclusions.ofList ["TOK_ADD"]
    survivors lines exclude = ["TOK_ADD "] ∧ survivors (survivors lines exclude) exclude = [] ∧
    ofLine? "TOK_ADD " = some "TOK_ADD" ∧ survivors (survivors lines ∅) ∅ ≠ survivors lines ∅ := by
  decide

end Token

end TokenTables
