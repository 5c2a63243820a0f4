import TokenTables.Command
import TokenTables.Journal.Filter

/-!
The journal of a command on a disk: the records in the order in which the command gets to them, and what
a filter shows of them.
-/

namespace TokenTables.Journal

def kept {m : Type → Type} [Monad m] (around : Surroundings m) :
    Surroundings (StateT (List Record) m) where
  header path := around.header path
  writeArtifact path text := around.writeArtifact path text
  now := around.now
  tell records := modify (· ++ records)

def ofCommand (g : Generator) (args : List Text) (d : Disk) (time : Instant) : List Record :=
  let course := (g.commandIn (kept (Disk.surroundings time)) args).run []
  (course.run d).1.2

def lines (f : Filter) (clock : Text) (records : List Record) : Text :=
  (records.filter f.admits).flatMap (·.line clock)

/-- All that is shown of the records: the warnings about the filter come first. -/
def shown (filter : Option Text) (clock : Text) (records : List Record) : Text :=
  let (f, warnings) := Filter.orUsual filter
  warnings.flatten ++ lines f clock records

end TokenTables.Journal
