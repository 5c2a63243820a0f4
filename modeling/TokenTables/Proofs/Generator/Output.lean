import TokenTables.Proofs.Calendar.Stamp
import TokenTables.Proofs.Generator.Repetition
import TokenTables.Proofs.Keyword.Decoding
import TokenTables.Proofs.Opcode.Decoding
import TokenTables.Proofs.Token.LineOpenings
import TokenTables.Proofs.Tree.ReadBack

/-!
A generated file taken for a header. Every line of either layout opens with a character of its own, or with
the `O` of an opcode: tokens and settings are put in where a line is under way, and none of them holds a
line feed. So a generated file names no token, and a generator that is run over it makes an empty table.
-/

namespace TokenTables

open Header

/-- The texts that a table takes over from its settings stay in their lines. -/
structure Settings.OneLine (s : Settings) : Prop where
  tokensHeader : '\n' ∉ s.tokensHeader
  mapHeader : '\n' ∉ s.mapHeader
  guard : '\n' ∉ s.guard

theorem carries_heading {source : Text} (noFeed : '\n' ∉ source) (time : Instant) :
    Carries false false (heading source time) := by
  have lead : Carries false true "\n// This file is generated from " := by decide +kernel
  have middle : Carries true true ".\n// DO NOT EDIT\n// Generated: " := by decide +kernel
  have trail : Carries true false "\n" := by decide
  exact (((lead.append (carries_of_noFeed noFeed)).append middle).append
    (carries_of_noFeed time.lineFeed_notMem_stamp)).append trail

namespace KeywordRow

theorem carries_line {e : KeywordRow} (token : '\n' ∉ e.token) (keyword : '\n' ∉ e.keyword) :
    Carries false false e.line := by
  have lead : Carries false true "    \x7b" := by decide
  have between : Carries true true ", \"" := by decide
  have trail : Carries true false "\"\x7d,\n" := by decide
  exact (((lead.append (carries_of_noFeed token)).append between).append
    (carries_of_noFeed keyword)).append trail

end KeywordRow

namespace KeywordTable

theorem carries_opening {k : KeywordTable} (tokensHeader : '\n' ∉ k.tokensHeader)
    (mapHeader : '\n' ∉ k.mapHeader) (time : Instant) : Carries false false (k.opening time) := by
  have library : Carries false false "\n#include <stdlib.h>\n\n" := by decide +kernel
  have own : Carries false true "\n#include \"" := by decide +kernel
  have quote : Carries true false "\"\n\n" := by decide
  have declaration : Carries false false "keyword_map_t keyword_map[] = \x7b\n" := by decide +kernel
  exact ((((((((carries_heading tokensHeader time).append library).append own).append
    (carries_of_noFeed tokensHeader)).append quote).append own).append
    (carries_of_noFeed mapHeader)).append quote).append declaration

theorem carries_closing : Carries false false closing := by decide +kernel

theorem carries_render {k : KeywordTable} (tokensHeader : '\n' ∉ k.tokensHeader)
    (mapHeader : '\n' ∉ k.mapHeader) {tokens : List Token}
    (marked : ∀ token ∈ tokens, ∃ stem, token = Token.mark ++ stem)
    (plain : ∀ token ∈ tokens, '\n' ∉ token) (time : Instant) :
    Carries false false (k.render (rows tokens) time) := by
  refine ((carries_opening tokensHeader mapHeader time).append ?_).append carries_closing
  refine carries_flatMap fun row mem => ?_
  obtain ⟨token, inside, rfl⟩ := List.mem_map.1 mem
  have noFeed := plain token (mem_sort.1 inside)
  obtain ⟨stem, rfl⟩ := marked token (mem_sort.1 inside)
  refine KeywordRow.carries_line noFeed fun feed => noFeed (List.mem_append_right _ ?_)
  rw [KeywordRow.ofToken, Token.stem_mark_append] at feed
  exact Text.lineFeed_of_mem_lowercase feed

end KeywordTable

namespace OpcodeRow

theorem carries_line {e : OpcodeRow} {stem : Text} (name : e.name = mark ++ stem)
    (plain : '\n' ∉ stem) : Carries false false e.line := by
  have lead : Carries false false "    " := by decide
  have opening : Carries false true mark := by decide
  have between : Carries true true " = 0x" := by decide
  have trail : Carries true false ",\n" := by decide
  have shown : Carries false true e.name := by
    rw [name]
    exact opening.append (carries_of_noFeed plain)
  exact (((lead.append shown).append between).append
    (carries_of_noFeed (Text.lineFeed_notMem_hexByte e.value))).append trail

end OpcodeRow

namespace OpcodeTable

theorem carries_opening {o : OpcodeTable} (tokensHeader : '\n' ∉ o.tokensHeader) (guard : '\n' ∉ o.guard)
    (time : Instant) : Carries false false (o.opening time) := by
  have condition : Carries false true "\n#ifndef " := by decide
  have define : Carries true true "\n#define " := by decide
  have blankLine : Carries true false "\n\n" := by decide
  have declaration : Carries false false "typedef enum \x7b\n" := by decide +kernel
  exact ((((((carries_heading tokensHeader time).append condition).append (carries_of_noFeed guard)).append
    define).append (carries_of_noFeed guard)).append blankLine).append declaration

theorem carries_closing : Carries false false closing := by decide +kernel

theorem carries_render {o : OpcodeTable} (tokensHeader : '\n' ∉ o.tokensHeader) (guard : '\n' ∉ o.guard)
    {tokens : List Token} (marked : ∀ token ∈ tokens, ∃ stem, token = Token.mark ++ stem)
    (plain : ∀ token ∈ tokens, '\n' ∉ token) (first : UInt8) (time : Instant) :
    Carries false false (o.render (rowsFrom first tokens) time) := by
  refine ((carries_opening tokensHeader guard time).append ?_).append carries_closing
  refine carries_flatMap fun row mem => ?_
  obtain ⟨stem, inside, name⟩ := exists_stem_of_mem_rowsFrom marked mem
  exact OpcodeRow.carries_line name fun feed => plain _ inside (List.mem_append_right _ feed)

end OpcodeTable

namespace Generator

open TokenTables.Tree

variable {g : Generator} {s : Settings} {d : Disk} {infile outfile : Text} {time : Instant}

theorem carries_make {header : Text} {artifact : Artifact} (plain : s.OneLine)
    (made : g.make s (Text.lines header) time = .ok artifact) : Carries false false artifact.text := by
  cases g with
  | keyword =>
    obtain rfl := Except.ok.inj made
    exact KeywordTable.carries_render plain.tokensHeader plain.mapHeader (Token.survivors_marked _ _)
      (Token.lineFeed_notMem_survivors header _) time
  | opcode =>
    obtain ⟨rows, numbered, rfl⟩ := OpcodeTable.make_eq_ok_iff.1 made
    obtain ⟨first, -, rfl⟩ := OpcodeTable.rows_eq_ok_iff.1 numbered
    exact OpcodeTable.carries_render plain.tokensHeader plain.guard (Token.survivors_marked _ _)
      (Token.lineFeed_notMem_survivors header _) first time

theorem survivors_make {header : Text} {artifact : Artifact} (plain : s.OneLine)
    (made : g.make s (Text.lines header) time = .ok artifact) (exclude : Exclusions) :
    Token.survivors (Text.lines artifact.text) exclude = [] :=
  (carries_make plain made).survivors_eq_nil exclude

theorem exists_make_of_no_survivors (g : Generator) (s : Settings) {lines : List Text}
    (none : ∀ exclude, Token.survivors lines exclude = []) (time : Instant) :
    ∃ text, g.make s lines time = .ok ⟨text, 0⟩ := by
  obtain ⟨artifact, made⟩ : ∃ artifact, g.make s lines time = .ok artifact := by
    cases g with
    | keyword => exact ⟨_, rfl⟩
    | opcode =>
      refine OpcodeTable.exists_make_of_fits time ?_
      rw [none]
      exact le_max_left 0 _
  have count := count_of_make made
  rw [none, List.length_nil] at count
  exact ⟨artifact.text, by rw [made, ← count]⟩

theorem run_of_no_survivors (g : Generator) (s : Settings) {header : Text}
    (none : ∀ exclude, Token.survivors (Text.lines header) exclude = [])
    (read : d.headerText infile = .ok header) (time : Instant) :
    (g.run s d infile outfile time).1 = .ok 0 ↔
      ∃ bytes, (d.writeWhole noFailures outfile bytes).1 = .ok () := by
  obtain ⟨text, made⟩ := exists_make_of_no_survivors g s none time
  constructor
  · intro succeeded
    obtain ⟨-, artifact, -, -, -, wrote⟩ := run_eq_ok_iff.1 (Prod.ext succeeded rfl)
    exact ⟨_, by rw [wrote]⟩
  · rintro ⟨bytes, writable⟩
    rcases wrote : d.writeWhole noFailures outfile (Text.utf8 text) with ⟨fault | _, after⟩
    · have refused := Disk.writeWhole_error_congr (Text.utf8 text) bytes (by rw [wrote])
      rw [refused] at writable
      cases writable
    · rw [run_eq_ok_iff.2 ⟨header, _, read, made, rfl, wrote⟩]

theorem exists_make_of_run_over {once : Disk} {count : Nat} (itself : d.OverItself infile outfile)
    (first : g.run s d infile outfile time = (.ok count, once)) :
    ∃ header artifact, g.make s (Text.lines header) time = .ok artifact ∧
      once.headerText infile = .ok artifact.text ∧
      ∃ bytes, (once.writeWhole noFailures outfile bytes).1 = .ok () := by
  obtain ⟨header, artifact, read, made, -, wrote⟩ := run_eq_ok_iff.1 first
  obtain ⟨place, mode, named, notDir, temporary, rfl⟩ := Disk.placed_of_writeWhole wrote
  obtain ⟨bytes, readable, -⟩ := readText_eq_ok_iff.1 (Disk.headerText_eq_ok_iff.1 read)
  obtain ⟨reread, around⟩ := Disk.readBytes_placed itself readable named notDir (Text.utf8 artifact.text) mode
  refine ⟨header, artifact, made, Disk.headerText_eq_ok_iff.2 (readText_eq_ok_iff.2 ⟨_, reread, ?_⟩),
    Text.utf8 artifact.text, ?_⟩
  · exact Text.ofUtf8?_utf8 artifact.text
  · rw [Disk.writeWhole_placed_of_around _ _ mode named temporary around]

/-- A generated file is never taken for a header, as long as no name in the settings holds a line feed. It
names no token, whatever is excluded, so either generator makes an empty table of it under any settings. A
run that reads it succeeds with count 0 exactly if its output can be written. After a run that has written
over its own header it can be, so a second run over that header succeeds with count 0. -/
theorem generated_names_no_tokens (g : Generator) (s : Settings) (plain : s.OneLine) :
    (∀ header time artifact, g.make s (Text.lines header) time = .ok artifact →
      (∀ exclude, Token.survivors (Text.lines artifact.text) exclude = []) ∧
      ∀ (other : Generator) (settings : Settings) (later : Instant),
        (∃ text, other.make settings (Text.lines artifact.text) later = .ok ⟨text, 0⟩) ∧
        ∀ d infile outfile, d.headerText infile = .ok artifact.text →
          ((other.run settings d infile outfile later).1 = .ok 0 ↔
            ∃ bytes, (d.writeWhole noFailures outfile bytes).1 = .ok ())) ∧
    ∀ d once infile outfile time count, d.OverItself infile outfile →
      g.run s d infile outfile time = (.ok count, once) →
      ∀ (other : Generator) (settings : Settings) (later : Instant),
        (other.run settings once infile outfile later).1 = .ok 0 := by
  constructor
  · intro header time artifact made
    have none := survivors_make plain made
    exact ⟨none, fun other settings later => ⟨exists_make_of_no_survivors other settings none later,
      fun d infile outfile read => run_of_no_survivors other settings none read later⟩⟩
  · intro d once infile outfile time count itself first other settings later
    obtain ⟨header, artifact, made, reread, writable⟩ := exists_make_of_run_over itself first
    exact (run_of_no_survivors other settings (survivors_make plain made) reread later).2 writable

/-- Tokens that hold what could end a line elsewhere, settings that begin like tokens, and a header that is
written over by another path. -/
theorem generated_names_no_tokens_lookalikes :
    let s : Settings := { tokensHeader := "TOK_A\r", mapHeader := "TOK_B", guard := "\u2028TOK_C" }
    let header : Text := "TOK_A\rTOK_B,\nTOK_\"\x7d,\u0085TOK_C\n"
    s.OneLine ∧
    (∃ artifact, opcode.make s (Text.lines header) ⟨0, 0, 0⟩ = .ok artifact ∧ artifact.count = 2 ∧
      Token.survivors (Text.lines artifact.text) ∅ = []) ∧
    ∃ once, keyword.run s linked "t.h" "./t.h" ⟨0, 0, 0⟩ = (.ok 1, once) ∧
      (opcode.run s once "t.h" "./t.h" ⟨86400, 0, 0⟩).1 = .ok 0 := by
  intro s header
  have plain : s.OneLine := ⟨by decide, by decide, by decide⟩
  have fits : ((Token.survivors (Text.lines header) (OpcodeTable.ofSettings s).exclude).length : Int) ≤
      (OpcodeTable.ofSettings s).range.room := by decide
  obtain ⟨artifact, made⟩ := OpcodeTable.exists_make_of_fits ⟨0, 0, 0⟩ fits
  have count : artifact.count = 2 := (count_of_make (g := opcode) made).trans (by decide)
  have first : keyword.run s linked "t.h" "./t.h" ⟨0, 0, 0⟩ =
      (.ok 1, (keyword.run s linked "t.h" "./t.h" ⟨0, 0, 0⟩).2) := Prod.ext (by decide +kernel) rfl
  have itself : linked.OverItself "t.h" "./t.h" := .inl rfl
  exact ⟨plain, ⟨artifact, made, count, ((generated_names_no_tokens opcode s plain).1 _ _ _ made).1 ∅⟩, _, first,
    (generated_names_no_tokens keyword s plain).2 _ _ _ _ _ _ itself first opcode s ⟨86400, 0, 0⟩⟩

/-- A line feed in a setting does open a line. -/
example : Token.survivors (Text.lines ((OpcodeTable.ofSettings { guard := "G\nTOK_A" }).render [] ⟨0, 0, 0⟩)) ∅ =
    ["TOK_A", "TOK_A"] := by
  decide +kernel

end Generator

end TokenTables
