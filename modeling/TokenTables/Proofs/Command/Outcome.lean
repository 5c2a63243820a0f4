import Mathlib.Data.List.Basic
import TokenTables.Proofs.Command.StandardOutput
import TokenTables.Proofs.Generator.Run
import TokenTables.Proofs.Opcode.Numbering
import TokenTables.Proofs.Tree.Kinds

/-!
The outcome of a command. Five stages can refuse, each for its own reason, and the first that does is the
one reported. A refusal leaves the tree alone, with one exception: an output path that spoils itself has
its new file in place when the mode is set, and that fails. If no stage refuses, the output holds the
artifact of the header that was there at the start.
-/

namespace TokenTables.Generator

inductive Stage where
  | commandLine
  | config
  | input
  | overflow
  | output
deriving DecidableEq, Repr

def Stage.position : Stage → Nat
  | commandLine => 0
  | config => 1
  | input => 2
  | overflow => 3
  | output => 4

/-- The stage refuses, whatever the others do. An overflow takes settings and a header; whether an output
can be written does not depend on what is written. -/
inductive Refuses (g : Generator) (args : List Text) (d : Disk) (time : Instant) :
    Stage → Refusal → Prop
  | commandLine {stop : CommandLine.Stop} : CommandLine.read args = .error stop →
      Refuses g args d time .commandLine (.commandLine stop)
  | config {r : CommandLine.Request} {e : Error} : CommandLine.read args = .ok r →
      r.settings = .error e → Refuses g args d time .config (.failure e)
  | input {r : CommandLine.Request} {e : Error} : CommandLine.read args = .ok r →
      d.headerText r.infile = .error e → Refuses g args d time .input (.failure e)
  | overflow {r : CommandLine.Request} {s : Settings} {header : Text} {o : ValueRange.Overflow} :
      CommandLine.read args = .ok r → r.settings = .ok s → d.headerText r.infile = .ok header →
      g.make s (Text.lines header) time = .error o →
      Refuses g args d time .overflow (.failure (.stage g.name r.infile (.tooManyOpcodes o)))
  | output {r : CommandLine.Request} {e : Error} : CommandLine.read args = .ok r →
      (∀ text, (d.writeArtifact Tree.noFailures r.outfile text).1 = .error e) →
      Refuses g args d time .output (.failure e)

/-- Everything that a command can do, with its result and the disk after it. -/
inductive Course (g : Generator) (args : List Text) (d : Disk) (time : Instant) :
    Except Refusal Nat × Disk → Prop
  | commandLine {stop : CommandLine.Stop} : CommandLine.read args = .error stop →
      Course g args d time (.error (.commandLine stop), d)
  | config {r : CommandLine.Request} {e : Error} : CommandLine.read args = .ok r →
      r.settings = .error e → Course g args d time (.error (.failure e), d)
  | input {r : CommandLine.Request} {s : Settings} {e : Error} : CommandLine.read args = .ok r →
      r.settings = .ok s → d.headerText r.infile = .error e →
      Course g args d time (.error (.failure e), d)
  | overflow {r : CommandLine.Request} {s : Settings} {header : Text} {o : ValueRange.Overflow} :
      CommandLine.read args = .ok r → r.settings = .ok s → d.headerText r.infile = .ok header →
      g.make s (Text.lines header) time = .error o →
      Course g args d time (.error (.failure (.stage g.name r.infile (.tooManyOpcodes o))), d)
  | unwritten {r : CommandLine.Request} {s : Settings} {header : Text} {artifact : Artifact}
      {fault : FileFault} {after : Disk} :
      CommandLine.read args = .ok r → r.settings = .ok s → d.headerText r.infile = .ok header →
      g.make s (Text.lines header) time = .ok artifact →
      d.writeWhole Tree.noFailures r.outfile (Text.utf8 artifact.text) = (.error fault, after) →
      Course g args d time (.error (.failure (.outputUnwritable r.outfile fault.message)), after)
  | written {r : CommandLine.Request} {s : Settings} {header : Text} {artifact : Artifact}
      {after : Disk} :
      CommandLine.read args = .ok r → r.settings = .ok s → d.headerText r.infile = .ok header →
      g.make s (Text.lines header) time = .ok artifact →
      d.writeWhole Tree.noFailures r.outfile (Text.utf8 artifact.text) = (.ok (), after) →
      Course g args d time (.ok artifact.count, after)

variable {g : Generator} {args : List Text} {d after : Disk} {time : Instant} {refusal : Refusal}

theorem course_command (g : Generator) (args : List Text) (d : Disk) (time : Instant) :
    Course g args d time (g.command args d time) := by
  rw [command_eq]
  cases read : CommandLine.read args with
  | error stop => exact .commandLine read
  | ok r =>
    simp only [perform_eq]
    cases set : r.settings with
    | error e => exact .config read set
    | ok s =>
      -- A run has four ways, and each is the way of one command.
      have runs := runs_run g s d r.infile r.outfile time
      simp only
      generalize g.run s d r.infile r.outfile time = outcome at runs ⊢
      cases runs with
      | unread header => exact .input read set header
      | overflow header made => exact .overflow read set header made
      | unwritten header made wrote => exact .unwritten read set header made wrote
      | written header made wrote => exact .written read set header made wrote

theorem count_of_make {s : Settings} {lines : List Text} {artifact : Artifact}
    (made : g.make s lines time = .ok artifact) :
    artifact.count = (Token.survivors lines (g.exclusions s)).length := by
  cases g with
  | keyword =>
    rw [← Except.ok.inj made]
    exact KeywordTable.length_rows _
  | opcode =>
    obtain ⟨found, -, rfl⟩ := OpcodeTable.make_eq_ok_iff.1 made
    rfl

theorem writeArtifact_error_iff {path text : Text} {e : Error} :
    (d.writeArtifact Tree.noFailures path text).1 = .error e ↔
      ∃ fault, (d.writeWhole Tree.noFailures path (Text.utf8 text)).1 = .error fault ∧
        e = .outputUnwritable path fault.message := by
  unfold Disk.writeArtifact
  rcases d.writeWhole Tree.noFailures path (Text.utf8 text) with ⟨fault | _, after⟩
  · simp [eq_comm]
  · simp

theorem refuses_output {r : CommandLine.Request} {text : Text} {fault : FileFault}
    (read : CommandLine.read args = .ok r)
    (wrote : d.writeWhole Tree.noFailures r.outfile (Text.utf8 text) = (.error fault, after)) :
    Refuses g args d time .output (.failure (.outputUnwritable r.outfile fault.message)) := by
  refine .output read fun other => writeArtifact_error_iff.2 ⟨fault, ?_, rfl⟩
  exact Disk.writeWhole_error_congr (Text.utf8 text) (Text.utf8 other) (by rw [wrote])

theorem Course.refused (course : Course g args d time (.error refusal, after)) :
    ∃ stage, Refuses g args d time stage refusal ∧
      (∀ earlier other, Refuses g args d time earlier other → stage.position ≤ earlier.position) ∧
      (after.tree = d.tree ↔
        ¬ (stage = .output ∧ ∃ r, CommandLine.read args = .ok r ∧ d.Spoils r.outfile)) := by
  cases course with
  | commandLine read =>
    refine ⟨.commandLine, .commandLine read, fun earlier other _ => Nat.zero_le _, ?_⟩
    simp
  | config read set =>
    refine ⟨.config, .config read set, fun earlier other refused => ?_, by simp⟩
    cases refused <;> simp_all [Stage.position]
  | input read set header =>
    refine ⟨.input, .input read header, fun earlier other refused => ?_, by simp⟩
    cases refused <;> simp_all [Stage.position]
  | overflow read set header made =>
    refine ⟨.overflow, .overflow read set header made, fun earlier other refused => ?_, by simp⟩
    cases refused <;> simp_all [Stage.position]
  | unwritten read set header made wrote =>
    refine ⟨.output, refuses_output read wrote, fun earlier other refused => ?_, ?_⟩
    · cases refused <;> simp_all [Stage.position]
    · rw [Disk.writeWhole_tree_eq_iff wrote]
      simp [read]

theorem Course.not_refused {count : Nat} (course : Course g args d time (.ok count, after)) :
    ∀ stage refusal, ¬ Refuses g args d time stage refusal := by
  cases course with
  | written read set header made wrote =>
    intro stage refusal refused
    cases refused with
    | commandLine other =>
      rw [read] at other
      cases other
    | config other unset =>
      obtain rfl := Except.ok.inj (read.symm.trans other)
      rw [set] at unset
      cases unset
    | input other missing =>
      obtain rfl := Except.ok.inj (read.symm.trans other)
      rw [header] at missing
      cases missing
    | overflow other again headed tooMany =>
      obtain rfl := Except.ok.inj (read.symm.trans other)
      obtain rfl := Except.ok.inj (set.symm.trans again)
      obtain rfl := Except.ok.inj (header.symm.trans headed)
      rw [made] at tooMany
      cases tooMany
    | output other unwritable =>
      obtain rfl := Except.ok.inj (read.symm.trans other)
      obtain ⟨fault, failed, -⟩ := writeArtifact_error_iff.1 (unwritable _)
      rw [wrote] at failed
      cases failed

theorem Course.finished {count : Nat} (course : Course g args d time (.ok count, after)) :
    ∃ r s header artifact place mode, CommandLine.read args = .ok r ∧ r.settings = .ok s ∧
      d.headerText r.infile = .ok header ∧ g.make s (Text.lines header) time = .ok artifact ∧
      count = (Token.survivors (Text.lines header) (g.exclusions s)).length ∧
      d.tree.entryOf r.outfile = .ok place ∧ after = d.placed place (Text.utf8 artifact.text) mode := by
  cases course with
  | @written r s header artifact after read set head made wrote =>
    cases moved : d.moved Tree.noFailures r.outfile (Text.utf8 artifact.text) with
    | error fault =>
      rw [Disk.writeWhole_of_moved_error moved] at wrote
      cases wrote
    | ok renamed =>
      obtain ⟨place, mode, named, -, same, -⟩ := Disk.writeWhole_of_moved_ok moved
      rw [wrote] at same
      exact ⟨r, s, header, artifact, place, mode, read, set, head, made, count_of_make made, named, same⟩

/-- A command that fails reports the first stage that refuses, and prints no line about having finished.
The tree is then as it was, unless the output was the first to refuse and its path spoils itself. A
command that succeeds has no stage that refuses. Its count is the number of surviving tokens, its output
holds the artifact of the header as it was before, every other entry is as it was, and it prints one
line. -/
theorem command_outcome (g : Generator) (args : List Text) (d : Disk) (time : Instant) :
    match g.command args d time with
    | (.error refusal, after) =>
      (∃ stage, Refuses g args d time stage refusal ∧
        (∀ earlier other, Refuses g args d time earlier other → stage.position ≤ earlier.position) ∧
        (after.tree = d.tree ↔
          ¬ (stage = .output ∧ ∃ r, CommandLine.read args = .ok r ∧ d.Spoils r.outfile))) ∧
      ∀ line ∈ Text.lines (g.standardOutput (.error refusal)), Text.beginsWith "Finished" line = false
    | (.ok count, after) =>
      (∀ stage refusal, ¬ Refuses g args d time stage refusal) ∧
      g.standardOutput (.ok count) = "Finished: Processed " ++ Text.decimal count ++ " tokens\n" ∧
      ∃ r s header artifact place mode, CommandLine.read args = .ok r ∧ r.settings = .ok s ∧
        d.headerText r.infile = .ok header ∧ g.make s (Text.lines header) time = .ok artifact ∧
        count = (Token.survivors (Text.lines header) (g.exclusions s)).length ∧
        d.tree.entryOf r.outfile = .ok place ∧
        after.tree.find? place = some (.file (Text.utf8 artifact.text) mode) ∧
        ∀ other, other ≠ place → after.tree.find? other = d.tree.find? other := by
  have course := course_command g args d time
  generalize g.command args d time = outcome at course
  rcases outcome with ⟨refusal | count, after⟩
  · exact ⟨course.refused, g.not_beginsWith_finished refusal⟩
  · obtain ⟨r, s, header, artifact, place, mode, read, set, head, made, counted, named, rfl⟩ :=
      course.finished
    have below := Tree.ne_root_of_entryOf named
    exact ⟨course.not_refused, rfl, r, s, header, artifact, place, mode, read, set, head, made, counted,
      named, d.find?_placed_self below _ _, fun other ne => d.find?_placed_of_ne ne _ _⟩

def selfLinked : Disk where
  tree := (Tree.empty.insert ["t.h"] (.file (Text.utf8 "TOK_ADD,\n") 0o644)).insert ["l"] (.link ".")
  umask := 0o022
  home := "/work"

/-- A path through the link to the link itself: the command fails, and the link has become a file. -/
theorem command_replaces_selfLink :
    let (result, after) := keyword.command ["-i", "t.h", "-o", "l/l"] selfLinked ⟨0, 0, 0⟩
    result = .error (.failure (.outputUnwritable "l/l" FileFault.notDirectory.message)) ∧
    selfLinked.tree.find? ["l"] = some (.link ".") ∧
    ∃ bytes, after.tree.find? ["l"] = some (.file bytes 0o755) :=
  ⟨rfl, rfl, _, rfl⟩

end TokenTables.Generator
