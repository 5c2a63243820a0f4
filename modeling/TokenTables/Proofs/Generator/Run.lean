import TokenTables.Run

/-!
What a run does. It reads, makes and writes, and ends where the first of these fails. All that is known of
runs is a case analysis of the four ways in which one can go.
-/

namespace TokenTables

namespace Disk

variable {d : Disk} {infile header : Text} {e : Error}

theorem headerText_eq_ok_iff : d.headerText infile = .ok header ↔ d.tree.readText infile = .ok header := by
  unfold headerText
  cases d.tree.readText infile with
  | ok text => simp
  | error fault => cases fault <;> simp

theorem headerText_eq_error_iff : d.headerText infile = .error e ↔
    ∃ fault, d.tree.readText infile = .error fault ∧
      e = if fault = .notFound then .inputNotFound infile else .inputUnreadable infile fault.message := by
  unfold headerText
  cases d.tree.readText infile with
  | ok text => simp
  | error fault => cases fault <;> simp [eq_comm (a := e)]

end Disk

namespace Generator

/-- The ways of a run, each with its result and the disk after it. -/
inductive Runs (g : Generator) (s : Settings) (d : Disk) (infile outfile : Text) (time : Instant) :
    Except Error Nat × Disk → Prop
  | unread {e : Error} : d.headerText infile = .error e → Runs g s d infile outfile time (.error e, d)
  | overflow {header : Text} {o : ValueRange.Overflow} : d.headerText infile = .ok header →
      g.make s (Text.lines header) time = .error o →
      Runs g s d infile outfile time (.error (.stage g.name infile (.tooManyOpcodes o)), d)
  | unwritten {header : Text} {artifact : Artifact} {fault : FileFault} {after : Disk} :
      d.headerText infile = .ok header → g.make s (Text.lines header) time = .ok artifact →
      d.writeWhole Tree.noFailures outfile (Text.utf8 artifact.text) = (.error fault, after) →
      Runs g s d infile outfile time (.error (.outputUnwritable outfile fault.message), after)
  | written {header : Text} {artifact : Artifact} {after : Disk} :
      d.headerText infile = .ok header → g.make s (Text.lines header) time = .ok artifact →
      d.writeWhole Tree.noFailures outfile (Text.utf8 artifact.text) = (.ok (), after) →
      Runs g s d infile outfile time (.ok artifact.count, after)

variable {g : Generator} {s : Settings} {d : Disk} {infile outfile : Text} {time : Instant}
  {outcome : Except Error Nat × Disk}

theorem runs_run (g : Generator) (s : Settings) (d : Disk) (infile outfile : Text) (time : Instant) :
    g.Runs s d infile outfile time (g.run s d infile outfile time) := by
  rw [run_eq]
  cases read : d.headerText infile with
  | error e => exact .unread read
  | ok header =>
    cases made : g.make s (Text.lines header) time with
    | error o =>
      simp only [made, staged]
      exact .overflow read made
    | ok artifact =>
      simp only [made, staged, Disk.writeArtifact]
      rcases wrote : d.writeWhole Tree.noFailures outfile (Text.utf8 artifact.text) with ⟨fault | _, after⟩
      · exact .unwritten read made wrote
      · exact .written read made wrote

theorem Runs.run_eq (runs : g.Runs s d infile outfile time outcome) :
    g.run s d infile outfile time = outcome := by
  cases runs with
  | unread read => simp only [run_eq, read]
  | overflow read made => simp only [run_eq, read, made, staged]
  | unwritten read made wrote => simp only [run_eq, read, made, staged, Disk.writeArtifact, wrote, Except.map]
  | written read made wrote => simp only [run_eq, read, made, staged, Disk.writeArtifact, wrote, Except.map]

theorem run_eq_iff : g.run s d infile outfile time = outcome ↔ g.Runs s d infile outfile time outcome :=
  ⟨fun same => same ▸ runs_run g s d infile outfile time, Runs.run_eq⟩

theorem run_eq_ok_iff {count : Nat} {after : Disk} : g.run s d infile outfile time = (.ok count, after) ↔
    ∃ header artifact, d.headerText infile = .ok header ∧
      g.make s (Text.lines header) time = .ok artifact ∧ artifact.count = count ∧
      d.writeWhole Tree.noFailures outfile (Text.utf8 artifact.text) = (.ok (), after) := by
  rw [run_eq_iff]
  constructor
  · rintro (_ | _ | _ | ⟨read, made, wrote⟩)
    exact ⟨_, _, read, made, rfl, wrote⟩
  · rintro ⟨header, artifact, read, made, rfl, wrote⟩
    exact .written read made wrote

end Generator

end TokenTables
