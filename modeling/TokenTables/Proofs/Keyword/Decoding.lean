import Mathlib.Data.List.Perm.Basic
import TokenTables.Generator
import TokenTables.Proofs.Text.ByteOrder
import TokenTables.Proofs.Text.Lines
import TokenTables.Proofs.Text.Lowercase
import TokenTables.Proofs.Token.Survivors

/-!
The keyword table as a picture of its tokens. A row escapes nothing, so a row of an arbitrary token and
an arbitrary keyword could be read in several ways; but here the keyword comes from the token, and
lower-casing never shortens. So a row gives its token back, and a whole table its tokens up to order.
-/

namespace TokenTables

namespace KeywordRow

def lead : Text := "    \x7b"

def between : Text := ", \""

def trail : Text := "\"\x7d,"

/-- The row of the token with this stem, without the line feed at its end. -/
def ofStem (stem : Text) : Text :=
  lead ++ (Token.mark ++ stem) ++ between ++ Text.lowercase stem ++ trail

theorem line_ofToken (stem : Text) :
    (ofToken (Token.mark ++ stem)).line = ofStem stem ++ ['\n'] := by
  have ending : ("\"\x7d,\n" : Text) = trail ++ ['\n'] := by decide
  unfold line ofToken
  dsimp only
  rw [Token.stem_mark_append, ending, ofStem, ← List.append_assoc]
  unfold lead between
  with_reducible rfl

theorem isLine_ofStem {stem : Text} (plain : '\n' ∉ stem) : Text.IsLine (ofStem stem) := by
  have lower : '\n' ∉ Text.lowercase stem := fun mem => plain (Text.lineFeed_of_mem_lowercase mem)
  have fixed : '\n' ∉ lead ∧ '\n' ∉ Token.mark ∧ '\n' ∉ between ∧ '\n' ∉ trail := by decide
  constructor
  · simp only [ofStem, List.mem_append, not_or]
    exact ⟨⟨⟨⟨fixed.1, fixed.2.1, plain⟩, fixed.2.2.1⟩, lower⟩, fixed.2.2.2⟩
  · rw [ofStem, List.getLast?_append_of_ne_nil _ (by decide)]
    decide

/-- A row gives the stem of its token back, whatever quotes, commas or braces the stem holds. -/
theorem ofStem_injective {s t : Text} (h : ofStem s = ofStem t) : s = t := by
  simp only [ofStem, List.append_assoc, List.append_cancel_left_eq] at h
  simp only [← List.append_assoc, List.append_cancel_right_eq] at h
  exact Text.eq_of_append_lowercase h

end KeywordRow

namespace KeywordTable

def textOf (k : KeywordTable) (time : Instant) (stems : List Text) : Text :=
  k.opening time ++ Text.written (stems.map KeywordRow.ofStem) ++ closing

theorem textOf_inj {k : KeywordTable} {time : Instant} {a b : List Text}
    (ha : ∀ stem ∈ a, '\n' ∉ stem) (hb : ∀ stem ∈ b, '\n' ∉ stem)
    (h : k.textOf time a = k.textOf time b) : a = b := by
  rw [textOf, textOf, List.append_cancel_right_eq, List.append_cancel_left_eq] at h
  have rows := Text.written_inj
    (List.forall_mem_map.2 fun stem mem => KeywordRow.isLine_ofStem (ha stem mem))
    (List.forall_mem_map.2 fun stem mem => KeywordRow.isLine_ofStem (hb stem mem)) h
  exact List.map_injective_iff.2 (fun _ _ => KeywordRow.ofStem_injective) rows

def stemsOf (tokens : List Token) : List Text := (Text.sort tokens).map Token.stem

theorem mem_sort {tokens : List Token} {token : Token} : token ∈ Text.sort tokens ↔ token ∈ tokens :=
  (Text.sort_perm tokens).mem_iff

theorem map_mark_stemsOf {tokens : List Token}
    (marked : ∀ token ∈ tokens, ∃ stem, token = Token.mark ++ stem) :
    (stemsOf tokens).map (Token.mark ++ ·) = Text.sort tokens := by
  rw [stemsOf, List.map_map]
  refine (List.map_congr_left fun token mem => ?_).trans (List.map_id _)
  obtain ⟨stem, rfl⟩ := marked token (mem_sort.1 mem)
  rw [Function.comp_apply, Token.stem_mark_append, id]

theorem lineFeed_notMem_stemsOf {tokens : List Token}
    (plain : ∀ token ∈ tokens, '\n' ∉ token)
    (marked : ∀ token ∈ tokens, ∃ stem, token = Token.mark ++ stem) :
    ∀ stem ∈ stemsOf tokens, '\n' ∉ stem := by
  intro stem mem feed
  have token : Token.mark ++ stem ∈ Text.sort tokens := by
    rw [← map_mark_stemsOf marked]
    exact List.mem_map_of_mem mem
  exact plain _ (mem_sort.1 token) (List.mem_append_right _ feed)

theorem flatMap_line_rows {tokens : List Token}
    (marked : ∀ token ∈ tokens, ∃ stem, token = Token.mark ++ stem) :
    (rows tokens).flatMap KeywordRow.line = Text.written ((stemsOf tokens).map KeywordRow.ofStem) := by
  rw [rows, ← map_mark_stemsOf marked, Text.written, List.map_map, List.flatMap_map,
    List.flatMap_map]
  congr 1
  funext stem
  exact KeywordRow.line_ofToken stem

theorem render_rows (k : KeywordTable) {tokens : List Token} (time : Instant)
    (marked : ∀ token ∈ tokens, ∃ stem, token = Token.mark ++ stem) :
    k.render (rows tokens) time = k.textOf time (stemsOf tokens) := by
  rw [render, flatMap_line_rows marked, textOf]

/-- What a table shows of `tokens`: a row for each, counted with multiplicity, in byte order. The keyword
of a row is the token's stem in small letters. -/
def Shows (k : KeywordTable) (time : Instant) (tokens : List Token) (artifact : Artifact) : Prop :=
  ∃ stems : List Text,
    (stems.map (Token.mark ++ ·)).Perm tokens ∧
    (stems.map (Token.mark ++ ·)).Pairwise (fun a b => Text.bytes a ≤ Text.bytes b) ∧
    (∀ stem ∈ stems, ∃ keyword,
      KeywordRow.ofStem stem =
        KeywordRow.lead ++ (Token.mark ++ stem) ++ KeywordRow.between ++ keyword ++ KeywordRow.trail ∧
      Text.Lowers stem keyword ∧
      ((∀ c ∈ stem, c.toNat < 128) → keyword = stem.map Char.toLower)) ∧
    artifact = ⟨k.textOf time stems, stems.length⟩

theorem make_shows (k : KeywordTable) (lines : List Text) (time : Instant) :
    k.Shows time (Token.survivors lines k.exclude) (k.make lines time) := by
  have marked := Token.survivors_marked lines k.exclude
  refine ⟨stemsOf (Token.survivors lines k.exclude), ?_, ?_, ?_, ?_⟩
  · rw [map_mark_stemsOf marked]
    exact Text.sort_perm _
  · rw [map_mark_stemsOf marked]
    exact Text.pairwise_bytes_sort _
  · intro stem _
    have lowers := Text.lowers_lowercase stem
    exact ⟨_, rfl, lowers, lowers.eq_map⟩
  · rw [make, render_rows k time marked]
    simp [rows, stemsOf]

theorem make_text_eq_iff (k : KeywordTable) (a b : Text) (time : Instant) :
    (k.make (Text.lines a) time).text = (k.make (Text.lines b) time).text ↔
      (Token.survivors (Text.lines a) k.exclude).Perm
        (Token.survivors (Text.lines b) k.exclude) := by
  have marked (header : Text) := Token.survivors_marked (Text.lines header) k.exclude
  have plain (header : Text) := Token.lineFeed_notMem_survivors header k.exclude
  constructor
  · intro same
    simp only [make, render_rows k time (marked _)] at same
    -- A text gives its stems back in order, and in that order they are the sorted tokens.
    have stems := textOf_inj (lineFeed_notMem_stemsOf (plain a) (marked a))
      (lineFeed_notMem_stemsOf (plain b) (marked b)) same
    rw [← Text.sort_eq_sort_iff, ← map_mark_stemsOf (marked a), ← map_mark_stemsOf (marked b), stems]
  · intro perm
    have sorted := Text.sort_eq_sort_iff.2 perm
    simp only [make, rows, sorted]

/-- The keyword table of a header never fails, shows the survivors in byte order, and is the same for
two headers exactly if they have the same survivors up to order. -/
theorem make_text_eq_iff_perm_survivors (s : Settings) (time : Instant) (a b : Text) :
    let k := ofSettings s
    ∃ x y, Generator.keyword.make s (Text.lines a) time = .ok x ∧
      Generator.keyword.make s (Text.lines b) time = .ok y ∧
      k.Shows time (Token.survivors (Text.lines a) k.exclude) x ∧
      k.Shows time (Token.survivors (Text.lines b) k.exclude) y ∧
      (x.text = y.text ↔ (Token.survivors (Text.lines a) k.exclude).Perm
        (Token.survivors (Text.lines b) k.exclude)) ∧
      ((Text.lines a).Perm (Text.lines b) → x.text = y.text) := by
  intro k
  have iff := k.make_text_eq_iff a b time
  refine ⟨_, _, rfl, rfl, k.make_shows _ time, k.make_shows _ time, iff, ?_⟩
  intro reordered
  exact iff.2 ((reordered.filterMap _).filter _)

end KeywordTable

end TokenTables
