import TokenTables.Journal.Records
import TokenTables.Text.Lines
import TokenTables.Tree.AtomicWrite

/-!
A generator run from one file to another. The header is read whole, the artifact is made in full, and
only then is the output written. The course is written once, over what it asks of its surroundings; these
may be a disk, where every directory can be searched and written, or the system that a program runs on. A
run that fails before the output's rename leaves the disk as it was.
-/

namespace TokenTables

/-- What a generator asks for: headers, a place for its output, the time, and a journal. -/
structure Surroundings (m : Type → Type) where
  header : Text → m (Except Error Text)
  writeArtifact : (path text : Text) → m (Except Error Unit)
  now : m Instant
  tell : List Journal.Record → m Unit

namespace Disk

def headerText (d : Disk) (path : Text) : Except Error Text :=
  match d.tree.readText path with
  | .ok text => .ok text
  | .error .notFound => .error (.inputNotFound path)
  | .error fault => .error (.inputUnreadable path fault.message)

def writeArtifact (d : Disk) (fails : Tree.Failures) (path text : Text) : Except Error Unit × Disk :=
  match d.writeWhole fails path (Text.utf8 text) with
  | (.ok (), after) => (.ok (), after)
  | (.error fault, after) => (.error (.outputUnwritable path fault.message), after)

/-- A disk at a time. The journal is not kept. -/
def surroundings (time : Instant) : Surroundings (StateM Disk) where
  header path := return (← get).headerText path
  writeArtifact path text := modifyGet fun d => d.writeArtifact Tree.noFailures path text
  now := return time
  tell _ := return ()

end Disk

namespace Generator

def staged (g : Generator) (infile : Text) : Except ValueRange.Overflow Artifact → Except Error Artifact
  | .ok artifact => .ok artifact
  | .error overflow => .error (.stage g.name infile (.tooManyOpcodes overflow))

def runIn {m : Type → Type} [Monad m] (around : Surroundings m) (g : Generator) (s : Settings)
    (infile outfile : Text) : m (Except Error Nat) := do
  let header ← around.header infile
  around.tell (Journal.ofReading g infile header)
  match header with
  | .error e => return .error e
  | .ok text =>
    let made := g.make s (Text.lines text) (← around.now)
    around.tell (Journal.ofMaking (g.exclusions s) (Text.lines text) made)
    match g.staged infile made with
    | .error e => return .error e
    | .ok artifact =>
      let written ← around.writeArtifact outfile artifact.text
      around.tell (Journal.ofWriting g outfile artifact written)
      return written.map fun _ => artifact.count

def run (g : Generator) (s : Settings) (d : Disk) (infile outfile : Text) (time : Instant) :
    Except Error Nat × Disk :=
  (g.runIn (Disk.surroundings time) s infile outfile).run d

theorem run_eq (g : Generator) (s : Settings) (d : Disk) (infile outfile : Text) (time : Instant) :
    g.run s d infile outfile time =
      match d.headerText infile with
      | .error e => (.error e, d)
      | .ok header =>
        match g.staged infile (g.make s (Text.lines header) time) with
        | .error e => (.error e, d)
        | .ok artifact =>
          let (written, after) := d.writeArtifact Tree.noFailures outfile artifact.text
          (written.map fun _ => artifact.count, after) := by
  change StateT.run (match d.headerText infile with
    | .error e => return .error e
    | .ok header =>
      match g.staged infile (g.make s (Text.lines header) time) with
      | .error e => return .error e
      | .ok artifact => do
        let written ← (Disk.surroundings time).writeArtifact outfile artifact.text
        return written.map fun _ => artifact.count) d = _
  cases d.headerText infile with
  | error e => rfl
  | ok header =>
    simp only
    cases g.staged infile (g.make s (Text.lines header) time) <;> rfl

end Generator

end TokenTables
