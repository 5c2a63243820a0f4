import Mathlib.Data.List.Basic
import TokenTables.Proofs.Opcode.Decoding
import TokenTables.Proofs.Text.ByteOrder

/-!
The two generators on one header. Their exclusions differ only in the instructions' own: by default the
enumeration leaves out the non-instructions besides, and a list under `exclude` takes the place of both
defaults. So the enumeration, named back, is the keyword table without these tokens, in the order of the
header.
-/

namespace TokenTables

/-- The tokens that are no instructions, as far as they are excluded: a list under `exclude` takes the
place of these exclusions too. -/
def Settings.nonInstructions (s : Settings) : List Token :=
  match s.exclude with
  | some _ => []
  | none => OpcodeTable.nonInstructions

namespace OpcodeTable

theorem mem_exclude_ofSettings {s : Settings} {token : Token} :
    token ∈ (ofSettings s).exclude ↔
      token ∈ (KeywordTable.ofSettings s).exclude ∨ token ∈ s.nonInstructions := by
  have own : token ∈ nonOpcodes ↔
      token ∈ Exclusions.ofList KeywordTable.nonKeywords ∨ token ∈ nonInstructions :=
    Exclusions.mem_insertMany
  unfold ofSettings KeywordTable.ofSettings Settings.nonInstructions
  rw [Settings.mem_exclusionsFor, Settings.mem_exclusionsFor]
  cases s.exclude with
  | some list => simp
  | none => simp only [own, or_right_comm]

theorem survivors_ofSettings (s : Settings) (lines : List Text) :
    Token.survivors lines (ofSettings s).exclude =
      (Token.survivors lines (KeywordTable.ofSettings s).exclude).filter (· ∉ s.nonInstructions) := by
  rw [Token.survivors, Token.survivors, List.filter_filter]
  refine List.filter_congr fun token _ => ?_
  have excluded := @mem_exclude_ofSettings s token
  simp only [Exclusions.mem_iff] at excluded
  rw [Bool.eq_iff_iff]
  simp [← Bool.not_eq_true, excluded, and_comm]

end OpcodeTable

namespace KeywordTable

theorem map_token_rows (tokens : List Token) :
    (rows tokens).map KeywordRow.token = Text.sort tokens := by
  rw [rows, List.map_map]
  exact List.map_id _

end KeywordTable

namespace OpcodeRow

def token (e : OpcodeRow) : Token := tokenOf e.name

theorem token_of_name {e : OpcodeRow} {stem : Text} (name : e.name = mark ++ stem) :
    e.token = Token.mark ++ stem := by
  rw [token, name, ← nameOf_mark_append, tokenOf_nameOf]

end OpcodeRow

namespace Generator

/-- How the rows of the two tables of a header with the tokens `tokens`, in its order, go together if the
enumeration leaves out `removed` besides. -/
structure Agree (removed tokens : List Token) (opcodes : List OpcodeRow) (keywords : List KeywordRow) :
    Prop where
  byteOrder : (keywords.map KeywordRow.token).Pairwise fun a b => Text.bytes a ≤ Text.bytes b
  inOrder : opcodes.map OpcodeRow.token = tokens.filter (· ∉ removed)
  named : ∀ opcode ∈ opcodes, ∃ stem, opcode.name = OpcodeRow.mark ++ stem ∧
    opcode.token = Token.mark ++ stem
  perm : (opcodes.map OpcodeRow.token).Perm ((keywords.map KeywordRow.token).filter (· ∉ removed))
  sorted : Text.sort (opcodes.map OpcodeRow.token) = (keywords.map KeywordRow.token).filter (· ∉ removed)
  hasKeyword : ∀ opcode ∈ opcodes, ∃ keyword ∈ keywords, keyword.token = opcode.token
  count : opcodes.length + keywords.countP (fun keyword => keyword.token ∈ removed) = keywords.length

theorem agree_rows (removed : List Token) {tokens : List Token} (first : UInt8)
    (marked : ∀ token ∈ tokens, ∃ stem, token = Token.mark ++ stem) :
    Agree removed tokens (OpcodeTable.rowsFrom first (tokens.filter (· ∉ removed)))
      (KeywordTable.rows tokens) := by
  have kept : (OpcodeTable.rowsFrom first (tokens.filter (· ∉ removed))).map OpcodeRow.token =
      tokens.filter (· ∉ removed) := by
    refine OpcodeTable.map_tokenOf_rowsFrom first fun token mem => ?_
    exact marked token (List.mem_of_mem_filter mem)
  have sorted : Text.sort (tokens.filter (· ∉ removed)) =
      ((KeywordTable.rows tokens).map KeywordRow.token).filter (· ∉ removed) := by
    rw [KeywordTable.map_token_rows, Text.sort_filter]
  refine ⟨?_, kept, ?_, ?_, ?_, ?_, ?_⟩
  · rw [KeywordTable.map_token_rows]
    exact Text.pairwise_bytes_sort tokens
  · intro opcode mem
    obtain ⟨stem, -, name⟩ := OpcodeTable.exists_stem_of_mem_rowsFrom
      (fun token mem => marked token (List.mem_of_mem_filter mem)) mem
    exact ⟨stem, name, OpcodeRow.token_of_name name⟩
  · rw [kept, ← sorted]
    exact (Text.sort_perm _).symm
  · rw [kept, sorted]
  · intro opcode mem
    have inside : opcode.token ∈ tokens.filter (· ∉ removed) := kept ▸ List.mem_map_of_mem mem
    have token : opcode.token ∈ (KeywordTable.rows tokens).map KeywordRow.token := by
      rw [KeywordTable.map_token_rows]
      exact (Text.sort_perm tokens).mem_iff.2 (List.mem_of_mem_filter inside)
    exact List.mem_map.1 token
  -- The keywords are those with an opcode and those whose tokens are left out.
  · have kept_length : (OpcodeTable.rowsFrom first (tokens.filter (· ∉ removed))).length =
        (KeywordTable.rows tokens).countP (fun keyword => keyword.token ∉ removed) := by
      have lengths := congrArg List.length sorted
      rw [← List.countP_eq_length_filter, List.countP_map] at lengths
      rw [OpcodeTable.length_rowsFrom, ← (Text.sort_perm _).length_eq, lengths]
      rfl
    rw [kept_length, List.length_eq_countP_add_countP (fun keyword => keyword.token ∈ removed),
      Nat.add_comm]
    simp only [decide_eq_true_eq]

/-- On every header that does not have too many opcodes the two generators agree. Named back and in the
order of the header, the opcodes are the tokens of the keyword table without the non-instructions. A list
under `exclude` puts these out of force, and then both tables have the same tokens. So every opcode has
its keyword, and the counts differ by the number of keywords whose tokens are left out. -/
theorem opcodes_agree_with_keywords (s : Settings) (header : Text) (time : Instant)
    (enumeration : Artifact) (made : opcode.make s (Text.lines header) time = .ok enumeration) :
    ∃ opcodes keywords table,
      let o := OpcodeTable.ofSettings s
      let k := KeywordTable.ofSettings s
      let lines := Text.lines header
      o.rows (Token.survivors lines o.exclude) = .ok opcodes ∧
      enumeration = ⟨o.render opcodes time, opcodes.length⟩ ∧
      keyword.make s lines time = .ok table ∧
      keywords = KeywordTable.rows (Token.survivors lines k.exclude) ∧
      table = ⟨k.render keywords time, keywords.length⟩ ∧
      Agree s.nonInstructions (Token.survivors lines k.exclude) opcodes keywords ∧
      match s.exclude with
      | none => s.nonInstructions = OpcodeTable.nonInstructions
      | some _ =>
        (opcodes.map OpcodeRow.token).Perm (keywords.map KeywordRow.token) ∧
        Text.sort (opcodes.map OpcodeRow.token) = keywords.map KeywordRow.token ∧
        enumeration.count = table.count := by
  obtain ⟨opcodes, numbered, rfl⟩ := OpcodeTable.make_eq_ok_iff.1 made
  obtain ⟨first, -, same⟩ := OpcodeTable.rows_eq_ok_iff.1 numbered
  have agree := agree_rows s.nonInstructions first
    (Token.survivors_marked (Text.lines header) (KeywordTable.ofSettings s).exclude)
  rw [← OpcodeTable.survivors_ofSettings, ← same] at agree
  have length : (Token.survivors (Text.lines header) (OpcodeTable.ofSettings s).exclude).length =
      opcodes.length := by
    simp [same]
  refine ⟨opcodes, _, _, numbered, by rw [length], rfl, rfl, rfl, agree, ?_⟩
  cases given : s.exclude with
  | none => simp only [Settings.nonInstructions, given]
  | some list =>
    have nothing : s.nonInstructions = [] := by simp only [Settings.nonInstructions, given]
    rw [nothing] at agree
    have perm := agree.perm
    have sorted := agree.sorted
    have count := agree.count
    simp only [List.not_mem_nil, not_false_eq_true, decide_true, List.filter_true] at perm sorted
    simp only [List.not_mem_nil, decide_false, List.countP_false] at count
    exact ⟨perm, sorted, length.trans count⟩

example : OpcodeTable.nonInstructions.length = 44 := rfl

/-- A register has a keyword but no opcode. -/
theorem opcodes_agree_with_keywords_register :
    let header : Text := "TOK_R1,\nTOK_SUB,\nTOK_ADD,\n"
    ∃ enumeration, opcode.make {} (Text.lines header) ⟨0, 0, 0⟩ = .ok enumeration ∧
      ∃ opcodes keywords, Agree OpcodeTable.nonInstructions ["TOK_R1", "TOK_SUB", "TOK_ADD"] opcodes keywords ∧
        opcodes.map OpcodeRow.token = ["TOK_SUB", "TOK_ADD"] := by
  intro header
  have fits : ((Token.survivors (Text.lines header) (OpcodeTable.ofSettings {}).exclude).length : Int) ≤
      (OpcodeTable.ofSettings {}).range.room := by decide
  obtain ⟨enumeration, made⟩ := OpcodeTable.exists_make_of_fits ⟨0, 0, 0⟩ fits
  obtain ⟨opcodes, keywords, -, -, -, -, -, -, agree, -⟩ :=
    opcodes_agree_with_keywords {} header ⟨0, 0, 0⟩ enumeration made
  have tokens : Token.survivors (Text.lines header) (KeywordTable.ofSettings {}).exclude =
      ["TOK_R1", "TOK_SUB", "TOK_ADD"] := by decide
  rw [tokens] at agree
  exact ⟨enumeration, made, opcodes, keywords, agree, agree.inOrder.trans (by decide)⟩

end Generator

end TokenTables
