import Mathlib.Data.List.Basic
import TokenTables.CommandLine.Basic

/-!
Options as they are written. An option with a value has five spellings, those with a short name only where
the option has one. A value that is an argument of its own must not look like an option, and one that
follows a short name directly must not be empty or begin with an equals sign; all spellings take any other
value. Classifying an argument finds its spelling again.
-/

namespace TokenTables.CommandLine

inductive Spelling (key : Key) where
  | short (c : Char) (named : key.short? = some c)
  | shortJoined (c : Char) (named : key.short? = some c)
  | shortEquals (c : Char) (named : key.short? = some c)
  | long
  | longEquals

/-- As an argument the value is no option: it has no dash in front, or is a dash only. -/
def StandsAlone (value : Text) : Prop := value.head? ≠ some '-' ∨ value = ['-']

namespace Spelling

variable {key : Key}

def args (value : Text) : Spelling key → List Text
  | short c _ => [['-', c], value]
  | shortJoined c _ => ['-' :: c :: value]
  | shortEquals c _ => ['-' :: c :: '=' :: value]
  | long => ["--" ++ key.long, value]
  | longEquals => ["--" ++ key.long ++ '=' :: value]

def Takes (value : Text) : Spelling key → Prop
  | short _ _ | long => StandsAlone value
  | shortJoined _ _ => value ≠ [] ∧ value.head? ≠ some '='
  | shortEquals _ _ | longEquals => True

end Spelling

structure Proper (value : Text) : Prop where
  nonempty : value ≠ []
  noDash : value.head? ≠ some '-'
  noEquals : value.head? ≠ some '='

theorem Proper.taken {value : Text} (h : Proper value) {key : Key} (spelling : Spelling key) :
    spelling.Takes value := by
  cases spelling with
  | short | long => exact .inl h.noDash
  | shortJoined => exact ⟨h.nonempty, h.noEquals⟩
  | shortEquals | longEquals => trivial

/-- The arguments write these options in this order, possibly with `--` after the last. -/
inductive Written : List Text → List (Key × Text) → Prop where
  | done : Written [] []
  | ended : Written ["--"] []
  | option {key : Key} {value : Text} {args : List Text} {pairs : List (Key × Text)}
      (spelling : Spelling key) (taken : spelling.Takes value) (rest : Written args pairs) :
      Written (spelling.args value ++ args) ((key, value) :: pairs)

/-- The arguments of these options, each in the spelling chosen for its key. -/
def line (spell : (key : Key) → Spelling key) (pairs : List (Key × Text)) : List Text :=
  pairs.flatMap fun pair => (spell pair.1).args pair.2

theorem Written.line_append {spell : (key : Key) → Spelling key} {pairs rest : List (Key × Text)}
    {args : List Text} (taken : ∀ pair ∈ pairs, (spell pair.1).Takes pair.2) (behind : Written args rest) :
    Written (line spell pairs ++ args) (pairs ++ rest) := by
  induction pairs with
  | nil => exact behind
  | cons pair pairs ih =>
    obtain ⟨first, others⟩ := List.forall_mem_cons.1 taken
    have option := Written.option (spell pair.1) first (ih others)
    rwa [← List.append_assoc] at option

theorem written_line {spell : (key : Key) → Spelling key} {pairs : List (Key × Text)}
    (taken : ∀ pair ∈ pairs, (spell pair.1).Takes pair.2) : Written (line spell pairs) pairs := by
  simpa using Written.line_append taken .done

/-! ## Single arguments -/

theorem ofShort?_eq_some_iff {key : Key} {c : Char} :
    Key.ofShort? c = some key ↔ key.short? = some c := by
  constructor
  · intro found
    simpa using List.find?_some (p := fun key : Key => decide (key.short? = some c)) found
  · intro named
    cases key with
    | infile | outfile =>
      obtain rfl := Option.some.inj named
      rfl
    | config => cases named

theorem ofLong?_eq_some_iff {key : Key} {name : Text} :
    Key.ofLong? name = some key ↔ name = key.long := by
  constructor
  · intro found
    simpa [eq_comm] using List.find?_some (p := fun key : Key => decide (key.long = name)) found
  · rintro rfl
    cases key <;> rfl

theorem short?_ne_dash {key : Key} {c : Char} (named : key.short? = some c) : c ≠ '-' := by
  rintro rfl
  cases key <;> cases named

theorem splitEquals_none {t name : Text} (h : splitEquals t = (name, none)) : t = name := by
  induction t generalizing name with
  | nil =>
    cases h
    rfl
  | cons c t ih =>
    rw [splitEquals] at h
    split at h
    · cases h
    · simp only [Prod.mk.injEq] at h
      obtain ⟨rfl, none⟩ := h
      have same : t = (splitEquals t).1 := ih (Prod.ext rfl none)
      rw [← same]

theorem longWord_eq_separate_iff {key : Key} {body : Text} :
    longWord body = .separate key ↔ body = key.long := by
  constructor
  · intro h
    unfold longWord at h
    split at h
    rename_i name value? parts
    split at h <;> cases h
    rename_i found
    rw [splitEquals_none parts, ofLong?_eq_some_iff.1 found]
  · rintro rfl
    cases key <;> rfl

theorem longWord_eq_attached_iff {key : Key} {body value : Text} :
    longWord body = .attached key value ↔ body = key.long ++ '=' :: value := by
  constructor
  · intro h
    unfold longWord at h
    split at h
    rename_i name value? parts
    split at h <;> cases h
    rename_i found
    rw [splitEquals_some parts, ofLong?_eq_some_iff.1 found]
  · rintro rfl
    cases key <;> rfl

theorem shortWord_eq_separate_iff {key : Key} {c : Char} {rest : Text} :
    shortWord c rest = .separate key ↔ key.short? = some c ∧ rest = [] := by
  rw [← ofShort?_eq_some_iff]
  unfold shortWord
  grind

/-- Right behind a short name an equals sign is not part of the value. -/
theorem shortWord_eq_attached_iff {key : Key} {c : Char} {rest value : Text} :
    shortWord c rest = .attached key value ↔ key.short? = some c ∧
      (rest = '=' :: value ∨ rest = value ∧ value ≠ [] ∧ value.head? ≠ some '=') := by
  rw [← ofShort?_eq_some_iff]
  unfold shortWord
  cases rest with
  | nil => grind
  | cons d rest => by_cases equals : d = '=' <;> grind

@[simp] theorem longWord_isOption (body : Text) :
    longWord body ≠ .plain ∧ longWord body ≠ .endOfOptions := by
  unfold longWord
  grind

@[simp] theorem shortWord_isOption (c : Char) (rest : Text) :
    shortWord c rest ≠ .plain ∧ shortWord c rest ≠ .endOfOptions := by
  unfold shortWord
  grind

theorem eq_of_endOfOptions {arg : Text} (h : classify arg = .endOfOptions) : arg = "--" := by
  unfold classify at h
  split at h
  case h_1 => rfl
  case h_2 body _ => exact absurd h (longWord_isOption body).2
  case h_3 c rest _ _ => exact absurd h (shortWord_isOption c rest).2
  case h_4 => cases h

theorem classify_eq_plain_iff {arg : Text} : classify arg = .plain ↔ StandsAlone arg := by
  unfold classify
  split
  case h_1 => simp [StandsAlone]
  case h_2 => simp [StandsAlone]
  case h_3 => simp [StandsAlone]
  case h_4 _ lone other =>
    refine iff_of_true rfl ?_
    cases arg with
    | nil => simp [StandsAlone]
    | cons c rest =>
      by_cases dash : c = '-'
      · subst dash
        cases rest with
        | nil => exact .inr rfl
        | cons d rest => exact absurd rfl (other d rest)
      · exact .inl (by simpa using dash)

theorem classify_long {body : Text} (nonempty : body ≠ []) :
    classify ('-' :: '-' :: body) = longWord body := by
  cases body with
  | nil => contradiction
  | cons c body => rfl

theorem classify_short {c : Char} (other : c ≠ '-') (rest : Text) :
    classify ('-' :: c :: rest) = shortWord c rest := by
  unfold classify
  split
  case h_1 => simp_all
  case h_2 => simp_all
  case h_3 same => cases same; rfl
  case h_4 none => exact absurd rfl (none _ _)

theorem long_ne_nil (key : Key) : key.long ≠ [] := by
  cases key <;> exact List.cons_ne_nil _ _

/-! ## Options -/

theorem classify_args {key : Key} {value : Text} (spelling : Spelling key)
    (taken : spelling.Takes value) :
    (∃ name, spelling.args value = [name, value] ∧ classify name = .separate key ∧
      classify value = .plain) ∨
    ∃ arg, spelling.args value = [arg] ∧ classify arg = .attached key value := by
  cases spelling with
  | short c named =>
    refine .inl ⟨_, rfl, ?_, classify_eq_plain_iff.2 taken⟩
    rw [classify_short (short?_ne_dash named), shortWord_eq_separate_iff]
    exact ⟨named, rfl⟩
  | shortJoined c named =>
    refine .inr ⟨_, rfl, ?_⟩
    rw [classify_short (short?_ne_dash named), shortWord_eq_attached_iff]
    exact ⟨named, .inr ⟨rfl, taken⟩⟩
  | shortEquals c named =>
    refine .inr ⟨_, rfl, ?_⟩
    rw [classify_short (short?_ne_dash named), shortWord_eq_attached_iff]
    exact ⟨named, .inl rfl⟩
  | long =>
    refine .inl ⟨_, rfl, ?_, classify_eq_plain_iff.2 taken⟩
    exact (classify_long (long_ne_nil key)).trans (longWord_eq_separate_iff.2 rfl)
  | longEquals =>
    refine .inr ⟨_, rfl, ?_⟩
    have nonempty : key.long ++ '=' :: value ≠ [] := by simp
    exact (classify_long nonempty).trans (longWord_eq_attached_iff.2 rfl)

theorem word_of_classify {arg : Text} {word : Word} (h : classify arg = word)
    (option : word ≠ .endOfOptions ∧ word ≠ .plain) :
    (∃ body, arg = '-' :: '-' :: body ∧ longWord body = word) ∨
    ∃ c rest, arg = '-' :: c :: rest ∧ shortWord c rest = word := by
  unfold classify at h
  split at h
  case h_1 => exact absurd h.symm option.1
  case h_2 body _ => exact .inl ⟨body, rfl, h⟩
  case h_3 c rest _ _ => exact .inr ⟨c, rest, rfl, h⟩
  case h_4 => exact absurd h.symm option.2

theorem Written.separate {key : Key} {name value : Text} {args : List Text} {pairs : List (Key × Text)}
    (named : classify name = .separate key) (alone : StandsAlone value) (rest : Written args pairs) :
    Written (name :: value :: args) ((key, value) :: pairs) := by
  rcases word_of_classify named ⟨nofun, nofun⟩ with ⟨body, rfl, word⟩ | ⟨c, tail, rfl, word⟩
  · obtain rfl := longWord_eq_separate_iff.1 word
    exact .option .long alone rest
  · obtain ⟨short, rfl⟩ := shortWord_eq_separate_iff.1 word
    exact .option (.short c short) alone rest

theorem Written.attached {key : Key} {arg value : Text} {args : List Text} {pairs : List (Key × Text)}
    (named : classify arg = .attached key value) (rest : Written args pairs) :
    Written (arg :: args) ((key, value) :: pairs) := by
  rcases word_of_classify named ⟨nofun, nofun⟩ with ⟨body, rfl, word⟩ | ⟨c, tail, rfl, word⟩
  · obtain rfl := longWord_eq_attached_iff.1 word
    exact .option .longEquals trivial rest
  · obtain ⟨short, rfl | ⟨rfl, taken⟩⟩ := shortWord_eq_attached_iff.1 word
    · exact .option (.shortEquals c short) trivial rest
    · exact .option (.shortJoined c short) taken rest

end TokenTables.CommandLine
