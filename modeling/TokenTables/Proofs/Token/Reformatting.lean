import Mathlib.Data.List.TakeWhile
import Mathlib.Logic.Relation
import TokenTables.Proofs.Text.Lines
import TokenTables.Proofs.Token.Formatting
import TokenTables.Proofs.Token.NormalForm

/-!
Headers that differ in their formatting. An edit changes how a line ends, puts blanks at its ends or
commas behind a token, or puts in a line that names no token; headers are reformatted into each other by
any number of such edits, made or undone. Reformatted headers have the same survivors for every exclusion
set, and nothing else does so: headers with the same tokens are reformatted into each other, since each
can be brought into a plain form that its tokens fix.
-/

namespace TokenTables

namespace Text

def InlineBlanks (t : Text) : Prop := ∀ c ∈ t, isBlank c = true ∧ c ≠ '\n'

def OpensLine (before : Text) : Prop := before = [] ∨ ∃ lines, before = lines ++ ['\n']

/-- A line ends before this text: at the end of all, at a line feed or at a carriage return with one. -/
inductive ClosesLine : Text → Prop where
  | none : ClosesLine []
  | feed (rest : Text) : ClosesLine ('\n' :: rest)
  | returnFeed (rest : Text) : ClosesLine ('\r' :: '\n' :: rest)

theorem opensLine_append_feed (before line : Text) : OpensLine (before ++ line ++ ['\n']) :=
  .inr ⟨before ++ line, rfl⟩

theorem written_pieces (t : Text) : written (pieces '\n' t) = t ++ ['\n'] := by
  induction t with
  | nil => rfl
  | cons c t ih =>
    by_cases feed : c = '\n'
    · rw [feed, pieces_separator, List.cons_append, ← ih]
      rfl
    · rw [pieces_cons feed, List.cons_append, ← ih]
      cases found : pieces '\n' t with
      | nil => exact absurd found (pieces_ne_nil _ _)
      | cons piece rest => rfl

theorem trimEnd_of_blanks {t : Text} (blanks : InlineBlanks t) : trimEnd t = [] :=
  dropEndWhile_eq_nil fun c mem => (blanks c mem).1

theorem inlineBlanks_nil : InlineBlanks [] := fun _ mem => nomatch mem

theorem inlineBlanks_return : InlineBlanks ['\r'] := by
  intro c mem
  rw [List.mem_singleton.1 mem]
  decide

theorem InlineBlanks.noFeed {t : Text} (blanks : InlineBlanks t) : '\n' ∉ t :=
  fun mem => (blanks _ mem).2 rfl

theorem pieces_append_blanks (t : Text) {blanks : Text} (h : InlineBlanks blanks) :
    SameButEnds (pieces '\n' (t ++ blanks)) (pieces '\n' t) := by
  induction t with
  | nil =>
    rw [List.nil_append, pieces_of_notMem h.noFeed, pieces]
    exact .cons (trimEnd_of_blanks h) (.inl rfl)
  | cons c t ih =>
    rw [List.cons_append]
    by_cases feed : c = '\n'
    · rw [feed, pieces_separator, pieces_separator]
      exact .cons rfl ih
    · rw [pieces_cons feed, pieces_cons feed]
      exact ih.consLine c

theorem trim_blank_cons {c : Char} (blank : isBlank c = true) (t : Text) : trim (c :: t) = trim t := by
  rw [trim, trim, trimStart, trimStart, List.dropWhile_cons_of_pos blank]

theorem exists_trim (t : Text) : ∃ lead trail, t = lead ++ trim t ++ trail ∧
    (∀ c ∈ lead, isBlank c = true) ∧ ∀ c ∈ trail, isBlank c = true := by
  obtain ⟨trail, whole, all⟩ := exists_cut isBlank (trimStart t)
  refine ⟨t.takeWhile isBlank, trail, ?_, fun c mem => List.mem_takeWhile_imp mem, all⟩
  calc t = t.takeWhile isBlank ++ trimStart t := List.takeWhile_append_dropWhile.symm
    _ = t.takeWhile isBlank ++ (trim t ++ trail) := congrArg _ whole
    _ = t.takeWhile isBlank ++ trim t ++ trail := (List.append_assoc _ _ _).symm

end Text

namespace Header

open Text Token

/-- One change of formatting. White space goes to either end of any line, commas go right behind the
trimmed content of a line that names a token, and whole lines that name none are put in anywhere. -/
inductive Edit : (header edited : Text) → Prop where
  | returnFeed (before after : Text) : Edit (before ++ '\n' :: after) (before ++ '\r' :: '\n' :: after)
  | lastFeed {header : Text} (nonempty : ¬ OpensLine header) : Edit header (header ++ ['\n'])
  | blanksInFront {before blanks after : Text} (opens : OpensLine before) (blank : InlineBlanks blanks) :
      Edit (before ++ after) (before ++ blanks ++ after)
  | blanksBehind {before blanks after : Text} (closes : ClosesLine after) (blank : InlineBlanks blanks) :
      Edit (before ++ after) (before ++ blanks ++ after)
  | commas {before lead content trail after : Text} (count : Nat) (opens : OpensLine before)
      (closes : ClosesLine after) (leading : InlineBlanks lead) (trailing : InlineBlanks trail)
      (noFeed : '\n' ∉ content) (trimmed : trim content = content)
      (marked : beginsWith mark content = true) :
      Edit (before ++ (lead ++ content ++ trail) ++ after)
        (before ++ (lead ++ (content ++ List.replicate count ',') ++ trail) ++ after)
  | line {before line after : Text} (opens : OpensLine before) (noFeed : '\n' ∉ line)
      (unmarked : beginsWith mark (trim line) = false) :
      Edit (before ++ after) (before ++ line ++ '\n' :: after)
  | lastLine {before line : Text} (opens : OpensLine before) (noFeed : '\n' ∉ line)
      (unmarked : beginsWith mark (trim line) = false) : Edit before (before ++ line)

def Reformatted : (a b : Text) → Prop := Relation.EqvGen Edit

def survivors (header : Text) (exclude : Exclusions) : List Token :=
  Token.survivors (lines header) exclude

variable {exclude : Exclusions}

theorem survivors_nil : survivors [] exclude = [] := rfl

theorem survivors_append_feed (a b : Text) :
    survivors (a ++ '\n' :: b) exclude = survivors a exclude ++ survivors b exclude :=
  survivors_lines_append a b exclude

theorem survivors_of_noFeed {line : Text} (noFeed : '\n' ∉ line) :
    survivors line exclude = Token.survivors [line] exclude := by
  rw [survivors, survivors_lines, pieces_of_notMem noFeed]

theorem survivors_unmarked {line : Text} (noFeed : '\n' ∉ line)
    (unmarked : beginsWith mark (trim line) = false) : survivors line exclude = [] := by
  have none : ofLine? line = none := by simp [ofLine?, unmarked]
  rw [survivors_of_noFeed noFeed, Token.survivors, List.filterMap_cons_none none]
  rfl

theorem survivors_append_blanks (header : Text) {blanks : Text} (blank : InlineBlanks blanks) :
    survivors (header ++ blanks) exclude = survivors header exclude := by
  rw [survivors, survivors, survivors_lines, survivors_lines]
  exact survivors_sameButEnds (pieces_append_blanks header blank) exclude

theorem survivors_blanks_append {blanks : Text} (blank : InlineBlanks blanks) (header : Text) :
    survivors (blanks ++ header) exclude = survivors header exclude := by
  induction blanks with
  | nil => rfl
  | cons c blanks ih =>
    obtain ⟨first, rest⟩ := List.forall_mem_cons.1 blank
    rw [← ih rest, List.cons_append, survivors, survivors, survivors_lines, survivors_lines,
      pieces_cons first.2]
    cases found : pieces '\n' (blanks ++ header) with
    | nil => exact absurd found (pieces_ne_nil _ _)
    | cons piece pieces =>
      have same : ofLine? (c :: piece) = ofLine? piece := ofLine?_congr (trim_blank_cons first.1 piece)
      rw [consLine, Token.survivors, Token.survivors, List.filterMap_cons, List.filterMap_cons, same]

/-! Where a line begins and where it ends, a header comes apart. -/

theorem survivors_opened {before : Text} (opens : OpensLine before) (after : Text) :
    survivors (before ++ after) exclude = survivors before exclude ++ survivors after exclude := by
  rcases opens with rfl | ⟨lines, rfl⟩
  · rfl
  · rw [List.append_assoc, List.singleton_append, survivors_append_feed, survivors_append_feed,
      survivors_nil, List.append_nil]

theorem survivors_closed {after : Text} (closes : ClosesLine after) (before : Text) :
    survivors (before ++ after) exclude = survivors before exclude ++ survivors after exclude := by
  have feed : ∀ rest, survivors ('\n' :: rest) exclude = survivors rest exclude :=
    fun rest => survivors_append_feed [] rest
  cases closes with
  | none => rw [List.append_nil, survivors_nil, List.append_nil]
  | feed rest => rw [survivors_append_feed, feed]
  | returnFeed rest =>
    rw [List.append_cons, survivors_append_feed, survivors_append_blanks before inlineBlanks_return]
    rw [← List.singleton_append, survivors_blanks_append inlineBlanks_return, feed]

/-! ## Edits keep the survivors -/

theorem beginsWith_append {lead t : Text} (begins : beginsWith lead t = true) (more : Text) :
    beginsWith lead (t ++ more) = true := by
  obtain ⟨rest, rfl⟩ := beginsWith_iff.1 begins
  exact beginsWith_iff.2 ⟨rest ++ more, List.append_assoc lead rest more⟩

theorem trim_append_comma {t : Text} (marked : beginsWith mark t = true) :
    trim (t ++ [',']) = t ++ [','] := by
  obtain ⟨stem, rfl⟩ := beginsWith_iff.1 marked
  have noBlank : isBlank ',' = false := by decide
  rw [List.append_assoc, trim_mark_append, trimEnd, ← List.append_assoc, dropEndWhile_append_singleton,
    noBlank]
  rfl

theorem ofLine?_append_commas {content : Text} (trimmed : trim content = content)
    (marked : beginsWith mark content = true) (count : Nat) :
    ofLine? (content ++ List.replicate count ',') = ofLine? content := by
  have onlyCommas : dropEndWhile (· = ',') (List.replicate count ',') = [] :=
    dropEndWhile_eq_nil fun c mem => decide_eq_true (List.eq_of_mem_replicate mem)
  have token : dropEndWhile (· = ',') (content ++ List.replicate count ',') =
      dropEndWhile (· = ',') content := by
    rw [dropEndWhile_append, if_pos onlyCommas]
  have kept : trim (content ++ List.replicate count ',') = content ++ List.replicate count ',' := by
    cases count with
    | zero => simpa using trimmed
    | succ count =>
      rw [List.replicate_succ', ← List.append_assoc]
      exact trim_append_comma (beginsWith_append marked _)
  simp only [ofLine?, kept, trimmed, marked, beginsWith_append marked _, token]

theorem survivors_commas {lead content trail : Text} (leading : InlineBlanks lead)
    (trailing : InlineBlanks trail) (noFeed : '\n' ∉ content) (trimmed : trim content = content)
    (marked : beginsWith mark content = true) (count : Nat) :
    survivors (lead ++ (content ++ List.replicate count ',') ++ trail) exclude =
      survivors (lead ++ content ++ trail) exclude := by
  have noFeedAfter : '\n' ∉ content ++ List.replicate count ',' := by
    simp [noFeed, List.mem_replicate]
  rw [survivors_append_blanks _ trailing, survivors_append_blanks _ trailing,
    survivors_blanks_append leading, survivors_blanks_append leading, survivors_of_noFeed noFeed,
    survivors_of_noFeed noFeedAfter, Token.survivors, Token.survivors, List.filterMap_cons,
    List.filterMap_cons, ofLine?_append_commas trimmed marked]

theorem Edit.survivors_eq {a b : Text} (edit : Edit a b) : survivors a exclude = survivors b exclude := by
  cases edit with
  | returnFeed before after =>
      rw [List.append_cons before '\r', survivors_append_feed, survivors_append_feed,
      survivors_append_blanks before inlineBlanks_return]
  | lastFeed nonempty => rw [survivors_append_feed, survivors_nil, List.append_nil]
  | blanksInFront opens blank =>
    rw [List.append_assoc, survivors_opened opens, survivors_opened opens, survivors_blanks_append blank]
  | blanksBehind closes blank =>
    rw [survivors_closed closes, survivors_closed closes, survivors_append_blanks _ blank]
  | commas count opens closes leading trailing noFeed trimmed marked =>
    rw [survivors_closed closes, survivors_closed closes, survivors_opened opens, survivors_opened opens,
      survivors_commas leading trailing noFeed trimmed marked]
  | line opens noFeed unmarked =>
    rw [survivors_append_feed, survivors_opened opens, survivors_opened opens,
      survivors_unmarked noFeed unmarked, List.append_nil]
  | lastLine opens noFeed unmarked =>
    rw [survivors_opened opens, survivors_unmarked noFeed unmarked, List.append_nil]

theorem Reformatted.survivors_eq {a b : Text} (same : Reformatted a b) :
    survivors a exclude = survivors b exclude := by
  induction same with
  | rel a b edit => exact edit.survivors_eq
  | refl a => rfl
  | symm a b _ ih => exact ih.symm
  | trans a b c _ _ first second => exact first.trans second

/-! ## Plain headers -/

/-- A token that ends in a blank needs a comma behind it to be read with its blank. -/
def plainLine (token : Token) : Text := if trimEnd token = token then token else token ++ [',']

def plain (tokens : List Token) : Text := written (tokens.map plainLine)

theorem plain_cons (token : Token) (tokens : List Token) :
    plain (token :: tokens) = plainLine token ++ '\n' :: plain tokens := by
  simp [plain, written]

theorem exists_plainLine {line : Text} {token : Token} (named : ofLine? line = some token) :
    ∃ count, trim line = plainLine token ++ List.replicate count ',' := by
  obtain ⟨-, cut⟩ := ofLine?_eq_some_iff.1 named
  obtain ⟨commas, whole, all⟩ := exists_cut (· = ',') (trim line)
  obtain ⟨count, rfl⟩ : ∃ count, commas = List.replicate count ',' :=
    ⟨commas.length, List.eq_replicate_iff.2 ⟨rfl, fun c mem => of_decide_eq_true (all c mem)⟩⟩
  rw [← cut] at whole
  by_cases ends : trimEnd token = token
  · exact ⟨count, by rw [plainLine, if_pos ends, ← whole]⟩
  · cases count with
    | zero =>
      have trimmed : trim line = token := by simpa using whole
      rw [← trimmed, trim, trimEnd_trimEnd] at ends
      exact absurd rfl ends
    | succ count =>
      refine ⟨count, ?_⟩
      rw [plainLine, if_neg ends, whole, List.replicate_succ, List.append_cons]

theorem beginsWith_plainLine {token : Token} (marked : beginsWith mark token = true) :
    beginsWith mark (plainLine token) = true := by
  rw [plainLine]
  split
  · exact marked
  · exact beginsWith_append marked _

theorem trim_plainLine {token : Token} (marked : beginsWith mark token = true) :
    trim (plainLine token) = plainLine token := by
  rw [plainLine]
  split
  case isTrue ends =>
    obtain ⟨stem, rfl⟩ := beginsWith_iff.1 marked
    rwa [trim_mark_append]
  case isFalse => exact trim_append_comma marked

theorem reformatted_blanks {before lead content trail after : Text} (opens : OpensLine before)
    (closes : ClosesLine after) (leading : InlineBlanks lead) (trailing : InlineBlanks trail) :
    Reformatted (before ++ content ++ after) (before ++ (lead ++ content ++ trail) ++ after) := by
  have front : Edit (before ++ (content ++ after)) (before ++ lead ++ (content ++ after)) :=
    .blanksInFront opens leading
  have behind : Edit (before ++ lead ++ content ++ after) (before ++ lead ++ content ++ trail ++ after) :=
    .blanksBehind closes trailing
  simp only [List.append_assoc] at front behind ⊢
  exact .trans _ _ _ (.rel _ _ front) (.rel _ _ behind)

theorem reformatted_plainLine {before line after : Text} {token : Token} (opens : OpensLine before)
    (closes : ClosesLine after) (noFeed : '\n' ∉ line) (named : ofLine? line = some token) :
    Reformatted (before ++ line ++ after) (before ++ plainLine token ++ after) := by
  obtain ⟨lead, trail, whole, leading, trailing⟩ := exists_trim line
  obtain ⟨count, commas⟩ := exists_plainLine named
  have marked : beginsWith mark token = true := beginsWith_iff.2 (mark_of_ofLine? named)
  have inline : ∀ part ⊆ line, (∀ c ∈ part, isBlank c = true) → InlineBlanks part := by
    intro part inside blank c mem
    refine ⟨blank c mem, ?_⟩
    rintro rfl
    exact noFeed (inside mem)
  have noFeedPlain : '\n' ∉ plainLine token := by
    intro mem
    refine noFeed (mem_of_mem_trim ?_)
    rw [commas]
    exact List.mem_append_left _ mem
  -- The line arises from its plain line by commas and then by blanks around them; both are undone.
  have blanks : Reformatted (before ++ trim line ++ after) (before ++ line ++ after) := by
    nth_rewrite 2 [whole]
    refine reformatted_blanks opens closes (inline lead ?_ leading) (inline trail ?_ trailing)
    · rw [whole]
      simp
    · rw [whole]
      simp
  have plain : Edit (before ++ plainLine token ++ after) (before ++ trim line ++ after) := by
    have edit : Edit (before ++ ([] ++ plainLine token ++ []) ++ after)
        (before ++ ([] ++ (plainLine token ++ List.replicate count ',') ++ []) ++ after) :=
      .commas count opens closes inlineBlanks_nil inlineBlanks_nil noFeedPlain (trim_plainLine marked)
        (beginsWith_plainLine marked)
    rw [commas]
    simpa only [List.nil_append, List.append_nil] using edit
  exact .trans _ _ _ (.symm _ _ blanks) (.symm _ _ (.rel _ _ plain))

theorem reformatted_written {ls : List Text} (noFeed : ∀ line ∈ ls, '\n' ∉ line) {before : Text}
    (opens : OpensLine before) :
    Reformatted (before ++ written ls) (before ++ plain (ls.filterMap ofLine?)) := by
  induction ls generalizing before with
  | nil => exact .refl _
  | cons line ls ih =>
    obtain ⟨first, others⟩ := List.forall_mem_cons.1 noFeed
    have split : before ++ written (line :: ls) = before ++ line ++ '\n' :: written ls := by
      simp [written]
    rw [split]
    -- What is in front ends with a line feed or is empty, whatever becomes of this line.
    cases named : ofLine? line with
    | none =>
      have unmarked : beginsWith mark (trim line) = false := by
        simpa [ofLine?] using named
      rw [List.filterMap_cons_none named]
      exact .trans _ _ _ (.symm _ _ (.rel _ _ (.line opens first unmarked))) (ih others opens)
    | some token =>
      have here := reformatted_plainLine opens (.feed (written ls)) first named
      have rest := ih others (opensLine_append_feed before (plainLine token))
      rw [List.filterMap_cons_some named, plain_cons]
      simp only [List.append_assoc, List.singleton_append] at here rest ⊢
      exact .trans _ _ _ here rest

theorem reformatted_plain_of_feed (header : Text) :
    Reformatted (header ++ ['\n']) (plain (survivors header ∅)) := by
  have tokens : survivors header ∅ = (pieces '\n' header).filterMap ofLine? := by
    rw [survivors, survivors_lines, survivors_empty]
  rw [tokens, ← written_pieces]
  exact reformatted_written (notMem_pieces '\n' header) (.inl rfl)

theorem reformatted_plain (header : Text) : Reformatted header (plain (survivors header ∅)) := by
  by_cases opens : OpensLine header
  · rcases opens with rfl | ⟨lines, rfl⟩
    · exact .refl _
    · rw [survivors_append_feed, survivors_nil, List.append_nil]
      exact reformatted_plain_of_feed lines
  · exact .trans _ _ _ (.rel _ _ (.lastFeed opens)) (reformatted_plain_of_feed header)

/-- Formatting does not count: reformatted headers have the same survivors, whatever is excluded, and
headers with the same tokens are reformatted into each other. The survivors of two texts that are joined
by a line feed are those of the one before those of the other. -/
theorem survivors_reformatted :
    (∀ a b exclude, Reformatted a b →
      Token.survivors (lines a) exclude = Token.survivors (lines b) exclude) ∧
    (∀ a b, Token.survivors (lines a) ∅ = Token.survivors (lines b) ∅ → Reformatted a b) ∧
    ∀ a b exclude, Token.survivors (lines (a ++ '\n' :: b)) exclude =
      Token.survivors (lines a) exclude ++ Token.survivors (lines b) exclude := by
  refine ⟨fun a b exclude same => same.survivors_eq, fun a b same => ?_,
    fun a b exclude => survivors_append_feed a b⟩
  have plain_b := reformatted_plain b
  rw [survivors, ← same] at plain_b
  exact .trans _ _ _ (reformatted_plain a) (.symm _ _ plain_b)

/-- The same tokens as another editor leaves them: another line ending, a no-break space, a comment, commas. -/
theorem survivors_reformatted_commented :
    let header : Text := "TOK_ADD\nTOK_SUB,\n"
    let edited : Text := "\u00a0TOK_ADD,\r\n// TOK_MUL\r\n\tTOK_SUB,,"
    Reformatted header edited ∧
    Token.survivors (lines edited) (.ofList ["TOK_ADD"]) = ["TOK_SUB"] := by
  intro header edited
  have same : Reformatted header edited := survivors_reformatted.2.1 header edited (by decide)
  refine ⟨same, ?_⟩
  rw [← survivors_reformatted.1 header edited _ same]
  decide

end Header

end TokenTables
