import TokenTables.Tree.Walk

/-!
Writing a file in one step as seen from outside. The bytes go into a temporary file in the directory of
the destination, and only a rename puts them in place. The rename acts on the destination's own entry:
a link there is replaced and not followed. A file that was there lends its mode to the new one; otherwise
the mode is 0666 less the umask.

The course is written once, over the calls that it makes. On a disk each call either takes effect or
fails without effect, and besides the failures that the tree causes, a call may be made to fail by
`fails`. Whatever fails before the rename leaves the tree as it was. The mode is set after the rename and
through the path, so it can fail with the new file in place: a path such as `l/l`, with `l` a link to its
own directory, leads nowhere once `l` is replaced.

No call is refused for want of access rights: every directory can be searched and written. Paths are walked
from the working directory, which is taken for the root of the tree.
-/

namespace TokenTables

/-- The calls that writing a file makes, each with its effect in `m`, where a failure is thrown. -/
structure FileCalls (m : Type → Type) (Temporary : Type) where
  modeAt? : Text → m (Option Mode)
  create : Text → Mode → m Temporary
  write : Temporary → ByteArray → m Unit
  flush : Temporary → m Unit
  rename : Temporary → Text → m Unit
  remove : Temporary → m Unit
  setMode : Text → Mode → m Unit

def FileCalls.writeWhole {ε : Type} {m : Type → Type} {Temporary : Type} [Monad m] [MonadExcept ε m]
    (calls : FileCalls m Temporary) (path : Text) (bytes : ByteArray) : m Unit := do
  let old ← calls.modeAt? path
  let temporary ← calls.create path (old.getD 0o666)
  try
    calls.write temporary bytes
    calls.flush temporary
    calls.rename temporary path
  catch fault =>
    -- A temporary file that was not moved into place does not outlast the failure.
    calls.remove temporary
    throw fault
  match old with
  | none => return ()
  | some mode => calls.setMode path mode

namespace Tree

inductive Call where
  | create
  | write
  | flush
  | rename
  | setMode
deriving DecidableEq, Repr

abbrev Failures := Call → Option FileFault

def noFailures : Failures := fun _ => none

/-- The effect of a call that has not been made to fail. -/
def attempt {α : Type} (fails : Failures) (call : Call) (effect : Except FileFault α) :
    Except FileFault α :=
  match fails call with
  | some fault => .error fault
  | none => effect

def blanked (names : List Text) : Text := names.flatMap fun name => name.map fun _ => 'x'

theorem length_le_length_blanked {name : Text} {names : List Text} (h : name ∈ names) :
    name.length ≤ (blanked names).length := by
  induction names with
  | nil => cases h
  | cons first rest ih =>
    rw [blanked, List.flatMap_cons, List.length_append, List.length_map, ← blanked]
    rcases List.mem_cons.1 h with rfl | h
    · omega
    · have := ih h
      omega

/-- A name that no entry has, since it is longer than every name. -/
def freshName (t : Tree) : Text := ".tmp" ++ blanked (t.entries.flatMap Prod.fst)

theorem freshName_notMem {t : Tree} {entry : Place × Node} (mem : entry ∈ t.entries) :
    t.freshName ∉ entry.1 := fun inside => by
  have short := length_le_length_blanked (List.mem_flatMap.2 ⟨entry, mem, inside⟩)
  rw [freshName, List.length_append] at short
  have : (".tmp" : Text).length = 4 := rfl
  omega

def createTemporary (t : Tree) (names : List Text) (mode : Mode) : Except FileFault (Place × Tree) := do
  let dir ← t.directory names
  let place := dir ++ [t.freshName]
  .ok (place, t.insert place (.file ByteArray.empty mode))

def setBytes (t : Tree) (place : Place) (bytes : ByteArray) : Tree :=
  match t.find? place with
  | some (.file _ mode) => t.insert place (.file bytes mode)
  | _ => t

def changeMode (t : Tree) (path : Text) (mode : Mode) : Except FileFault Tree := do
  let place ← t.resolve path
  match t.find? place with
  | some node => .ok (t.insert place (node.withMode mode))
  | none => .error .notFound

/-- The entry that a path names, its last name taken as it stands: a link there is not followed. -/
def entryOf (t : Tree) (path : Text) : Except FileFault Place := do
  if Path.hasNul path then .error .invalidArgument
  Path.check path
  let names := Path.names path
  let dir ← t.directory names.dropLast
  match names.getLast? with
  | none => .error .busy
  | some name =>
    if name = Path.here ∨ name = Path.up then .error .busy
    else if Path.longestName < Text.byteSize name then .error .nameTooLong
    else if Path.endsInSlash path then .error .notDirectory
    else .ok (dir ++ [name])

def rename (t : Tree) (source : Place) (path : Text) : Except FileFault Tree := do
  let place ← t.entryOf path
  match t.find? place, t.find? source with
  | some (.dir _), _ => .error .isDirectory
  | _, some node => .ok ((t.erase source).insert place node)
  | _, none => .error .notFound

end Tree

namespace Disk

open TokenTables.Tree

def temporaryFor (d : Disk) (path : Text) (mode : Mode) : Except FileFault (Place × Tree) := do
  if Path.hasNul (Path.parent path) then .error .nulInPath
  if Path.longestPath < Path.temporarySize d.home path then .error .nameTooLong
  d.tree.createTemporary (Path.parentNames path) (d.masked mode)

/-- What a course of calls does on a disk: its result, or the fault that ended it, and the disk after it. -/
abbrev Act := ExceptT FileFault (StateM Disk)

def Act.on {α : Type} (act : Act α) (d : Disk) : Except FileFault α × Disk := act.run.run d

@[simp] theorem Act.on_pure {α : Type} (a : α) (d : Disk) : Act.on (pure a) d = (.ok a, d) := rfl

@[simp] theorem Act.on_throw {α : Type} (fault : FileFault) (d : Disk) :
    Act.on (throw fault : Act α) d = (.error fault, d) := rfl

@[simp] theorem Act.on_get (d : Disk) : Act.on get d = (.ok d, d) := rfl

@[simp] theorem Act.on_modify (f : Disk → Disk) (d : Disk) : Act.on (modify f) d = (.ok (), f d) := rfl

@[simp] theorem Act.on_bind {α β : Type} (act : Act α) (next : α → Act β) (d : Disk) :
    Act.on (act >>= next) d =
      match act.on d with
      | (.ok a, after) => (next a).on after
      | (.error fault, after) => (.error fault, after) := by
  rw [on, on, ExceptT.run_bind, StateT.run_bind]
  rcases act.run.run d with ⟨_ | _, _⟩ <;> rfl

@[simp] theorem Act.on_tryCatch {α : Type} (act : Act α) (handler : FileFault → Act α) (d : Disk) :
    Act.on (tryCatch act handler) d =
      match act.on d with
      | (.ok a, after) => (.ok a, after)
      | (.error fault, after) => (handler fault).on after := by
  rw [on, on, ExceptT.run_tryCatch, StateT.run_bind]
  rcases act.run.run d with ⟨_ | _, _⟩ <;> rfl

/-- A call finds its answer on the disk, unless it has been made to fail. -/
def answered {α : Type} (fails : Failures) (call : Call) (effect : Disk → Except FileFault α) : Act α :=
  ExceptT.mk fun d => (attempt fails call (effect d), d)

@[simp] theorem on_answered {α : Type} (fails : Failures) (call : Call)
    (effect : Disk → Except FileFault α) (d : Disk) :
    Act.on (answered fails call effect) d = (attempt fails call (effect d), d) := rfl

def become (t : Tree) : Act Unit := modify fun d => { d with tree := t }

def calls (fails : Failures) : FileCalls Act Place where
  modeAt? path := return (← get).tree.modeAt? path
  create path mode := do
    let (temporary, created) ← answered fails .create fun d => d.temporaryFor path mode
    become created
    return temporary
  write temporary bytes := do
    become (← answered fails .write fun d => .ok (d.tree.setBytes temporary bytes))
  flush _ := answered fails .flush fun _ => .ok ()
  rename temporary path := do
    become (← answered fails .rename fun d => d.tree.rename temporary path)
  remove temporary := modify fun d => { d with tree := d.tree.erase temporary }
  setMode path mode := do
    become (← answered fails .setMode fun d => d.tree.changeMode path mode)

def writeWhole (d : Disk) (fails : Failures) (path : Text) (bytes : ByteArray) :
    Except FileFault Unit × Disk :=
  Act.on ((calls fails).writeWhole path bytes) d

end Disk

end TokenTables
