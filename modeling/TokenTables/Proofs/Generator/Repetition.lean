import Mathlib.Data.List.Basic
import TokenTables.Proofs.Command.Outcome
import TokenTables.Proofs.Tree.Repetition

/-!
Running a generator again. The time reaches a file in one place only, its heading, and the header is read
as before unless the first run changed it. So a second run ends in the same disk but for the time stamp,
as long as the path of the output still leads to its entry.
-/

namespace TokenTables

def headingLead (source : Text) : Text :=
  "\n// This file is generated from " ++ source ++ ".\n// DO NOT EDIT\n// Generated: "

theorem heading_eq (source : Text) (time : Instant) :
    heading source time = headingLead source ++ time.stamp ++ "\n" := by
  unfold heading headingLead
  with_reducible rfl

theorem headingLead_ends (source : Text) :
    ∃ front : Text, headingLead source = front ++ "// Generated: " := by
  have ending : (".\n// DO NOT EDIT\n// Generated: " : Text) =
      ".\n// DO NOT EDIT\n" ++ "// Generated: " := by
    decide +kernel
  exact ⟨_, (congrArg (_ ++ ·) ending).trans (List.append_assoc _ _ _).symm⟩

theorem KeywordTable.render_stamped (k : KeywordTable) (rows : List KeywordRow) :
    ∃ rest, ∀ time, k.render rows time = headingLead k.tokensHeader ++ time.stamp ++ rest := by
  refine ⟨?_, fun time => ?_⟩
  rotate_left
  · simp only [render, opening, heading_eq, List.append_assoc]
    with_reducible rfl

theorem OpcodeTable.render_stamped (o : OpcodeTable) (rows : List OpcodeRow) :
    ∃ rest, ∀ time, o.render rows time = headingLead o.tokensHeader ++ time.stamp ++ rest := by
  refine ⟨?_, fun time => ?_⟩
  rotate_left
  · simp only [render, opening, heading_eq, List.append_assoc]
    with_reducible rfl

namespace Generator

theorem make_stamped (g : Generator) (s : Settings) (lines : List Text) :
    (∃ overflow, ∀ time, g.make s lines time = .error overflow) ∨
    ∃ rest count, ∀ time,
      g.make s lines time = .ok ⟨headingLead s.tokensHeader ++ time.stamp ++ rest, count⟩ := by
  cases g with
  | keyword =>
    let rows := KeywordTable.rows (Token.survivors lines (KeywordTable.ofSettings s).exclude)
    obtain ⟨rest, stamped⟩ := (KeywordTable.ofSettings s).render_stamped rows
    refine .inr ⟨rest, rows.length, fun time => ?_⟩
    exact congrArg (fun text => Except.ok (Artifact.mk text rows.length)) (stamped time)
  | opcode =>
    let tokens := Token.survivors lines (OpcodeTable.ofSettings s).exclude
    cases numbered : (OpcodeTable.ofSettings s).rows tokens with
    | error overflow => exact .inl ⟨overflow, OpcodeTable.make_of_rows_error numbered⟩
    | ok rows =>
      obtain ⟨rest, stamped⟩ := (OpcodeTable.ofSettings s).render_stamped rows
      refine .inr ⟨rest, tokens.length, fun time => ?_⟩
      refine (OpcodeTable.make_of_rows numbered time).trans ?_
      exact congrArg (fun text => Except.ok (Artifact.mk text tokens.length)) (stamped time)

variable {g : Generator} {s : Settings} {d once : Disk} {infile outfile : Text} {time : Instant} {count : Nat}

theorem run_of_writeWhole_error {header : Text} {artifact : Artifact} {fault : FileFault} {after : Disk}
    (read : d.headerText infile = .ok header) (made : g.make s (Text.lines header) time = .ok artifact)
    (wrote : d.writeWhole Tree.noFailures outfile (Text.utf8 artifact.text) = (.error fault, after)) :
    g.run s d infile outfile time = (.error (.outputUnwritable outfile fault.message), after) :=
  (Runs.unwritten read made wrote).run_eq

theorem headerText_congr (kept : once.tree.readBytes infile = d.tree.readBytes infile) :
    once.headerText infile = d.headerText infile := by
  unfold Disk.headerText Tree.readText
  rw [kept]

theorem exists_rest_of_make (g : Generator) (s : Settings) (header : Text) :
    ∃ rest, ∀ time artifact, g.make s (Text.lines header) time = .ok artifact →
      artifact.text = headingLead s.tokensHeader ++ time.stamp ++ rest ∧
      ∀ later, ∃ again, g.make s (Text.lines header) later = .ok again ∧
        again.count = artifact.count := by
  rcases g.make_stamped s (Text.lines header) with ⟨overflow, refused⟩ | ⟨rest, count, made⟩
  · refine ⟨[], fun time artifact ok => ?_⟩
    rw [refused] at ok
    cases ok
  · refine ⟨rest, fun time artifact ok => ?_⟩
    obtain rfl := Except.ok.inj ((made time).symm.trans ok)
    exact ⟨rfl, fun later => ⟨_, made later, rfl⟩⟩

/-- A file as a first run left it, run over at another time. The way of the output's path may have gone
through the very link that the first run replaced; then the path leads nowhere, and the disk stays as it
is. Otherwise the second run succeeds with the same count, and the disk is the same but for the one time
stamp in the output's heading. -/
theorem run_again_up_to_stamp (g : Generator) (s : Settings) :
    ∃ (lead : Text) (rest : Text → Text), (∃ front : Text, lead = front ++ "// Generated: ") ∧
    ∀ (d once : Disk) (infile outfile : Text) (time later : Instant) (count : Nat),
      g.run s d infile outfile time = (.ok count, once) →
      once.tree.readBytes infile = d.tree.readBytes infile →
      ∃ header place mode, d.headerText infile = .ok header ∧ d.tree.entryOf outfile = .ok place ∧
        once.tree.find? place = some (.file (Text.utf8 (lead ++ time.stamp ++ rest header)) mode) ∧
        (¬ d.tree.ThroughItself outfile → ∃ twice,
          g.run s once infile outfile later = (.ok count, twice) ∧
          twice.umask = once.umask ∧ twice.home = once.home ∧
          (∀ other, other ≠ place → twice.tree.find? other = once.tree.find? other) ∧
          twice.tree.find? place =
            some (.file (Text.utf8 (lead ++ later.stamp ++ rest header)) mode)) ∧
        (d.tree.ThroughItself outfile → ∃ fault,
          g.run s once infile outfile later = (.error (.outputUnwritable outfile fault), once)) := by
  -- The text around the stamp depends on the header alone, and so it is chosen before any run.
  choose rest stamped using exists_rest_of_make g s
  refine ⟨headingLead s.tokensHeader, rest, headingLead_ends _, ?_⟩
  intro d once infile outfile time later count first kept
  obtain ⟨header, artifact, read, made, rfl, wrote⟩ := run_eq_ok_iff.1 first
  obtain ⟨text, anytime⟩ := stamped header time artifact made
  obtain ⟨again, remade, same_count⟩ := anytime later
  obtain ⟨later_text, -⟩ := stamped header later again remade
  obtain ⟨place, mode, named, notDir, temporary, rfl⟩ := Disk.placed_of_writeWhole wrote
  have below := Tree.ne_root_of_entryOf named
  have reread := (headerText_congr kept).trans read
  refine ⟨header, place, mode, read, named, text ▸ d.find?_placed_self below _ _, ?_, ?_⟩
  · intro notThrough
    rw [Tree.throughItself_iff named notDir, not_not] at notThrough
    have rewrote := Disk.writeWhole_placed_of_around (Text.utf8 artifact.text) (Text.utf8 again.text) mode
      named temporary notThrough
    refine ⟨_, run_eq_ok_iff.2 ⟨header, again, reread, remade, same_count, rewrote⟩, rfl, rfl, ?_, ?_⟩
    · intro other ne
      rw [d.find?_placed_of_ne ne, d.find?_placed_of_ne ne]
    · exact later_text ▸ d.find?_placed_self below _ _
  · intro through
    have lost := (Tree.throughItself_iff named notDir).1 through
    obtain ⟨fault, failed⟩ := Disk.writeWhole_placed_of_through (Text.utf8 artifact.text)
      (Text.utf8 again.text) mode named lost
    exact ⟨_, run_of_writeWhole_error reread remade failed⟩

def linked : Disk where
  tree := ((Tree.empty.insert ["t.h"] (.file (Text.utf8 "TOK_ADD,\n") 0o644)).insert ["old"]
    (.file ByteArray.empty 0o600)).insert ["o.h"] (.link "old")
  umask := 0o022
  home := "/work"

/-- The mode of the link's target goes over to the output, and stays. -/
theorem run_again_up_to_stamp_linked :
    ∃ once twice text, keyword.run {} linked "t.h" "o.h" ⟨0, 0, 0⟩ = (.ok 1, once) ∧
      once.tree.readBytes "t.h" = linked.tree.readBytes "t.h" ∧
      keyword.run {} once "t.h" "o.h" ⟨86400, 0, 0⟩ = (.ok 1, twice) ∧
      once.tree.modeAt? "o.h" = some 0o600 ∧
      ∃ mode, twice.tree.find? ["o.h"] = some (.file text mode) := by
  obtain ⟨lead, rest, -, again⟩ := run_again_up_to_stamp keyword {}
  have first : keyword.run {} linked "t.h" "o.h" ⟨0, 0, 0⟩ =
      (.ok 1, (keyword.run {} linked "t.h" "o.h" ⟨0, 0, 0⟩).2) := Prod.ext (by decide +kernel) rfl
  have kept : (keyword.run {} linked "t.h" "o.h" ⟨0, 0, 0⟩).2.tree.readBytes "t.h" =
      linked.tree.readBytes "t.h" := by decide +kernel
  have named : linked.tree.entryOf "o.h" = .ok ["o.h"] := rfl
  have around : ¬ linked.tree.ThroughItself "o.h" := by
    rw [Tree.throughItself_iff named rfl, not_not]
    rfl
  obtain ⟨header, place, mode, -, placed, -, works, -⟩ :=
    again _ _ _ _ _ ⟨86400, 0, 0⟩ _ first kept
  obtain ⟨twice, second, -, -, -, there⟩ := works around
  obtain rfl := Except.ok.inj (named.symm.trans placed)
  exact ⟨_, twice, _, first, kept, second, by decide +kernel, mode, there⟩

/-- The path of a link through the link itself, as often as links may be followed on one way. So what the
path leads to is not found, and the link is replaced without its mode being asked for. -/
def roundabout : Text := Text.join ['/'] (List.replicate (Tree.mostLinks + 1) "l")

/-- After a first run that succeeds a second one does not: its path went through the link that is gone. -/
theorem run_again_fails_roundabout :
    let first := keyword.run {} selfLinked "t.h" roundabout ⟨0, 0, 0⟩
    let second := keyword.run {} first.2 "t.h" roundabout ⟨0, 0, 0⟩
    first.1 = .ok 1 ∧ first.2.tree.readBytes "t.h" = selfLinked.tree.readBytes "t.h" ∧
    second.1 = .error (.outputUnwritable roundabout FileFault.notDirectory.message) := by
  decide +kernel

end Generator

end TokenTables
