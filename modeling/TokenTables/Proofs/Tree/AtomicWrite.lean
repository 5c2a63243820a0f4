import Mathlib.Data.List.Basic
import TokenTables.Proofs.Tree.Entry

/-!
A write is all or nothing. Up to and including the rename it works on a temporary file, whose place no
entry has, so a failure there takes the file away and leaves the very disk there was. The rename puts
the whole bytes at the entry that the path names. What comes after can only set the mode there.
-/

namespace TokenTables

namespace Tree

variable {t : Tree} {fails : Failures} {call : Call} {path : Text} {place : Place}

theorem attempt_eq_ok_iff {α : Type} {effect : Except FileFault α} {a : α} :
    attempt fails call effect = .ok a ↔ fails call = none ∧ effect = .ok a := by
  unfold attempt
  cases fails call <;> simp

theorem freshPlace_free (dir : Place) :
    ∀ entry ∈ t.entries, entry.1 ≠ dir ++ [t.freshName] := by
  intro entry mem same
  apply freshName_notMem mem
  rw [same]
  exact List.mem_append_right dir (List.mem_singleton_self _)

theorem find?_freshPlace (dir : Place) : t.find? (dir ++ [t.freshName]) = none := by
  unfold find?
  rw [if_neg (by simp), List.find?_eq_none.2 fun entry mem => by simpa using freshPlace_free dir entry mem,
    Option.map_none]

theorem rename_insert_file_iff {source : Place} {bytes : ByteArray} {mode : Mode} {moved : Tree}
    (below : source ≠ []) (free : ∀ entry ∈ t.entries, entry.1 ≠ source)
    (missing : t.find? source = none) :
    (t.insert source (.file bytes mode)).rename source path = .ok moved ↔
      ∃ place, t.entryOf path = .ok place ∧ t.isDir place = false ∧
        moved = t.insert place (.file bytes mode) := by
  have blocked : Blocked t source (t.insert source (.file bytes mode)) := blocked_insert_file below
  have notDir : t.isDir source = false := by simp [isDir, missing]
  have entries : ∀ place, (t.insert source (.file bytes mode)).entryOf path = .ok place ↔
      t.entryOf path = .ok place := fun place =>
    blocked.entryOf_iff_of_free notDir (by simp [missing])
  have dirs : ∀ q, (t.insert source (.file bytes mode)).isDir q = t.isDir q := by
    intro q
    rw [Bool.eq_iff_iff, blocked.dirs]
    refine and_iff_right_of_imp fun isDir same => ?_
    rw [same, notDir] at isDir
    cases isDir
  unfold rename
  rw [bind_eq_ok_iff]
  refine exists_congr fun place => ?_
  rw [entries, ← dirs, find?_insert_self t below, erase_insert t _ free, isDir]
  refine and_congr_right fun _ => ?_
  cases (t.insert source (.file bytes mode)).find? place with
  | none => simp [eq_comm]
  | some node => cases node <;> simp [Node.isDir, eq_comm]

theorem insert_file_ne {p : Place} {target : Text} {bytes : ByteArray} {mode : Mode} (below : p ≠ [])
    (link : t.find? p = some (.link target)) : t.insert p (.file bytes mode) ≠ t := by
  intro same
  have there := find?_insert_self t below (.file bytes mode)
  rw [same, link] at there
  cases there

end Tree

namespace Disk

open TokenTables.Tree

variable {d : Disk} {fails : Failures} {path : Text} {bytes : ByteArray}

def askedMode (d : Disk) (path : Text) : Mode := (d.tree.modeAt? path).getD 0o666

/-- The tree after a write's calls up to and including the rename, or the fault of the first of them
that fails. -/
def moved (d : Disk) (fails : Failures) (path : Text) (bytes : ByteArray) : Except FileFault Tree := do
  let (temporary, created) ← attempt fails .create (d.temporaryFor path (d.askedMode path))
  let written ← attempt fails .write (.ok (created.setBytes temporary bytes))
  attempt fails .flush (.ok ())
  attempt fails .rename (written.rename temporary path)

theorem temporaryFor_eq_ok {mode : Mode} {temporary : Place} {created : Tree}
    (h : d.temporaryFor path mode = .ok (temporary, created)) :
    ∃ dir, temporary = dir ++ [d.tree.freshName] ∧
      created = d.tree.insert temporary (.file ByteArray.empty (d.masked mode)) := by
  unfold temporaryFor at h
  by_cases nul : Path.hasNul (Path.parent path) = true
  · rw [if_pos nul] at h
    cases h
  by_cases long : Path.longestPath < Path.temporarySize d.home path
  · rw [if_neg nul, if_pos long] at h
    cases h
  rw [if_neg nul, if_neg long] at h
  obtain ⟨dir, -, made⟩ := bind_eq_ok_iff.1 h
  obtain ⟨rfl, rfl⟩ := Prod.mk.inj (Except.ok.inj made)
  exact ⟨dir, rfl, rfl⟩

theorem find?_temporary {mode : Mode} {temporary : Place} {created : Tree}
    (h : d.temporaryFor path mode = .ok (temporary, created)) : d.tree.find? temporary = none := by
  obtain ⟨dir, rfl, -⟩ := temporaryFor_eq_ok h
  exact find?_freshPlace dir

theorem setBytes_created (bytes : ByteArray) {mode : Mode} {temporary : Place} {created : Tree}
    (made : d.temporaryFor path mode = .ok (temporary, created)) :
    created.setBytes temporary bytes = d.tree.insert temporary (.file bytes (d.masked mode)) := by
  obtain ⟨dir, place, rfl⟩ := temporaryFor_eq_ok made
  simp [setBytes, place]

def settled (d : Disk) (fails : Failures) (path : Text) (renamed : Tree) : Except FileFault Unit × Disk :=
  match d.tree.modeAt? path with
  | none => (.ok (), { d with tree := renamed })
  | some mode =>
    match attempt fails .setMode (renamed.changeMode path mode) with
    | .error fault => (.error fault, { d with tree := renamed })
    | .ok done => (.ok (), { d with tree := done })

theorem writeWhole_eq : d.writeWhole fails path bytes =
    match d.moved fails path bytes with
    | .error fault => (.error fault, d)
    | .ok renamed => d.settled fails path renamed := by
  unfold moved askedMode
  simp only [writeWhole, FileCalls.writeWhole, calls, become, Act.on_bind, Act.on_get, Act.on_pure,
    Act.on_modify, Act.on_tryCatch, on_answered]
  cases made : attempt fails .create (d.temporaryFor path ((d.tree.modeAt? path).getD 0o666)) with
  | error fault => rfl
  | ok pair =>
    obtain ⟨temporary, created⟩ := pair
    -- The temporary file got a place that was free, so taking it away restores the very tree.
    have written := setBytes_created bytes (attempt_eq_ok_iff.1 made).2
    obtain ⟨dir, place, rfl⟩ := temporaryFor_eq_ok (attempt_eq_ok_iff.1 made).2
    have free : ∀ entry ∈ d.tree.entries, entry.1 ≠ temporary := place ▸ freshPlace_free dir
    simp only [ok_bind, written]
    cases wrote : attempt fails .write (.ok (d.tree.insert temporary (.file bytes
        (d.masked ((d.tree.modeAt? path).getD 0o666))))) with
    | error fault => simp only [error_bind, erase_insert d.tree _ free, Act.on_throw]
    | ok written =>
      obtain rfl := Except.ok.inj (attempt_eq_ok_iff.1 wrote).2
      simp only [ok_bind]
      cases attempt fails .flush (.ok ()) with
      | error fault => simp only [error_bind, erase_insert d.tree _ free, Act.on_throw]
      | ok =>
        simp only [ok_bind]
        cases attempt fails .rename ((d.tree.insert temporary (.file bytes
            (d.masked ((d.tree.modeAt? path).getD 0o666)))).rename temporary path) with
        | error fault => simp only [erase_insert d.tree _ free, Act.on_throw]
        | ok renamed =>
          simp only [settled]
          cases d.tree.modeAt? path with
          | none => rfl
          | some mode =>
            simp only [Act.on_bind, on_answered]
            cases attempt fails .setMode (renamed.changeMode path mode) <;> rfl

theorem moved_eq_ok_iff {renamed : Tree} : d.moved fails path bytes = .ok renamed ↔
    (∀ call, call ≠ .setMode → fails call = none) ∧
    (∃ made, d.temporaryFor path (d.askedMode path) = .ok made) ∧
    ∃ place, d.tree.entryOf path = .ok place ∧ d.tree.isDir place = false ∧
      renamed = d.tree.insert place (.file bytes (d.masked (d.askedMode path))) := by
  -- The temporary file stands in no path's way, so the path names the entry that it named before.
  have renames : ∀ {temporary created},
      d.temporaryFor path (d.askedMode path) = .ok (temporary, created) →
      ((created.setBytes temporary bytes).rename temporary path = .ok renamed ↔
        ∃ place, d.tree.entryOf path = .ok place ∧ d.tree.isDir place = false ∧
          renamed = d.tree.insert place (.file bytes (d.masked (d.askedMode path)))) := by
    intro temporary created made
    obtain ⟨dir, place, -⟩ := temporaryFor_eq_ok made
    rw [setBytes_created bytes made]
    exact rename_insert_file_iff (by simp [place]) (place ▸ freshPlace_free dir)
      (find?_temporary made)
  unfold moved
  simp only [bind_eq_ok_iff, attempt_eq_ok_iff, Except.ok.injEq]
  constructor
  · rintro ⟨⟨temporary, created⟩, ⟨noCreate, made⟩, written, ⟨noWrite, rfl⟩, _, ⟨noFlush, -⟩, noRename,
      h⟩
    refine ⟨fun call other => ?_, ⟨_, made⟩, (renames made).1 h⟩
    cases call with
    | setMode => exact absurd rfl other
    | _ => assumption
  · rintro ⟨works, ⟨⟨temporary, created⟩, made⟩, entry⟩
    exact ⟨_, ⟨works _ nofun, made⟩, _, ⟨works _ nofun, rfl⟩, (), ⟨works _ nofun, trivial⟩, works _ nofun,
      (renames made).2 entry⟩

def placed (d : Disk) (place : Place) (bytes : ByteArray) (mode : Mode) : Disk :=
  { d with tree := d.tree.insert place (.file bytes mode) }

@[simp] theorem find?_placed_self (d : Disk) {place : Place} (below : place ≠ []) (bytes : ByteArray)
    (mode : Mode) : (d.placed place bytes mode).tree.find? place = some (.file bytes mode) :=
  find?_insert_self d.tree below _

@[simp] theorem find?_placed_of_ne (d : Disk) {place q : Place} (other : q ≠ place) (bytes : ByteArray)
    (mode : Mode) : (d.placed place bytes mode).tree.find? q = d.tree.find? q :=
  find?_insert_of_ne d.tree _ other

theorem writeWhole_of_moved_error {fault : FileFault} (h : d.moved fails path bytes = .error fault) :
    d.writeWhole fails path bytes = (.error fault, d) := by
  rw [writeWhole_eq, h]

theorem writeWhole_of_moved_ok {renamed : Tree} (h : d.moved fails path bytes = .ok renamed) :
    ∃ place mode, d.tree.entryOf path = .ok place ∧ d.tree.isDir place = false ∧
      (d.writeWhole fails path bytes).2 = d.placed place bytes mode ∧
      ((d.writeWhole fails path bytes).1 = .ok () →
        mode = (d.tree.modeAt? path).getD (d.masked 0o666)) := by
  obtain ⟨-, -, place, named, notDir, rfl⟩ := moved_eq_ok_iff.1 h
  simp only [writeWhole_eq, h, settled]
  cases old : d.tree.modeAt? path with
  | none =>
    refine ⟨place, _, named, notDir, rfl, fun _ => ?_⟩
    rw [askedMode, old, Option.getD_none, Option.getD_none]
  | some mode =>
    cases set : attempt fails .setMode
        ((d.tree.insert place (.file bytes (d.masked (d.askedMode path)))).changeMode path mode) with
    | error fault =>
      simp only [set]
      exact ⟨place, d.masked (d.askedMode path), named, notDir, rfl, nofun⟩
    | ok done =>
      obtain ⟨-, rfl⟩ := (changeMode_insert_file_iff named).1 (attempt_eq_ok_iff.1 set).2
      simp only [set]
      exact ⟨place, mode, named, notDir, rfl, fun _ => rfl⟩

theorem settled_eq_ok_iff {place : Place} {mode : Mode} (named : d.tree.entryOf path = .ok place) :
    (d.settled fails path (d.tree.insert place (.file bytes mode))).1 = .ok () ↔
      ∀ old, d.tree.modeAt? path = some old →
        fails .setMode = none ∧ (d.tree.erase place).entryOf path = .ok place := by
  unfold settled
  cases d.tree.modeAt? path with
  | none => simp
  | some old =>
    simp only [Option.some.injEq, forall_eq']
    cases set : attempt fails .setMode ((d.tree.insert place (.file bytes mode)).changeMode path old) with
    | error fault =>
      refine iff_of_false nofun fun ⟨works, around⟩ => ?_
      rw [attempt_eq_ok_iff.2 ⟨works, (changeMode_insert_file_iff named).2 ⟨around, rfl⟩⟩] at set
      cases set
    | ok done =>
      obtain ⟨works, changed⟩ := attempt_eq_ok_iff.1 set
      exact iff_of_true rfl ⟨works, ((changeMode_insert_file_iff named).1 changed).1⟩

theorem writeWhole_eq_ok_iff : (d.writeWhole fails path bytes).1 = .ok () ↔
    (∀ call, call ≠ .setMode → fails call = none) ∧
    (∃ made, d.temporaryFor path (d.askedMode path) = .ok made) ∧
    ∃ place, d.tree.entryOf path = .ok place ∧ d.tree.isDir place = false ∧
      ∀ old, d.tree.modeAt? path = some old →
        fails .setMode = none ∧ (d.tree.erase place).entryOf path = .ok place := by
  rw [writeWhole_eq]
  cases moved : d.moved fails path bytes with
  | error fault =>
    refine iff_of_false nofun fun ⟨works, made, place, named, notDir, _⟩ => ?_
    rw [moved_eq_ok_iff.2 ⟨works, made, place, named, notDir, rfl⟩] at moved
    cases moved
  | ok renamed =>
    obtain ⟨works, made, place, named, notDir, rfl⟩ := moved_eq_ok_iff.1 moved
    simp only
    rw [settled_eq_ok_iff named]
    constructor
    · intro settles
      exact ⟨works, made, place, named, notDir, settles⟩
    · rintro ⟨-, -, other, again, -, settles⟩
      rwa [Except.ok.inj (named.symm.trans again)]

/-- Whatever calls fail, a write leaves no temporary file and touches no entry but the one that the path
names, a link there being replaced and not followed. A fault up to the rename leaves the disk itself;
later ones leave the whole text in place. A write that succeeds gives the new file the mode of what the
path led to, whatever the umask, and otherwise 0666 less the umask. It succeeds exactly if no call that it
makes is made to fail, a temporary file has its place, and the path names an entry that is no directory;
where the path led to something, it must lead to its entry still once the entry is replaced. -/
theorem writeWhole_atomic (d : Disk) (fails : Failures) (path text : Text) :
    let (result, after) := d.writeWhole fails path (Text.utf8 text)
    after.umask = d.umask ∧ after.home = d.home ∧
    (∀ place, d.tree.entryOf path ≠ .ok place → after.tree.find? place = d.tree.find? place) ∧
    (∀ temporary created, d.temporaryFor path (d.askedMode path) = .ok (temporary, created) →
      d.tree.entryOf path ≠ .ok temporary → after.tree.find? temporary = none) ∧
    (∀ place, d.tree.entryOf path = .ok place →
      after.tree.find? place = d.tree.find? place ∨
      ∃ mode, after.tree.find? place = some (.file (Text.utf8 text) mode)) ∧
    (∀ fault, d.moved fails path (Text.utf8 text) = .error fault →
      result = .error fault ∧ after = d) ∧
    (result = .ok () → ∃ place, d.tree.entryOf path = .ok place ∧
      after.tree.find? place =
        some (.file (Text.utf8 text) ((d.tree.modeAt? path).getD (d.masked 0o666)))) ∧
    (result = .ok () ↔
      (∀ call, call ≠ .setMode → fails call = none) ∧
      (∃ made, d.temporaryFor path (d.askedMode path) = .ok made) ∧
      ∃ place, d.tree.entryOf path = .ok place ∧ d.tree.isDir place = false ∧
        ∀ old, d.tree.modeAt? path = some old →
          fails .setMode = none ∧ (d.tree.erase place).entryOf path = .ok place) := by
  have succeeds := @writeWhole_eq_ok_iff d fails path (Text.utf8 text)
  cases moved : d.moved fails path (Text.utf8 text) with
  | error fault =>
    rw [writeWhole_of_moved_error moved] at succeeds ⊢
    refine ⟨rfl, rfl, fun _ _ => rfl, fun temporary created made _ => find?_temporary made,
      fun _ _ => .inl rfl, fun other same => ?_, nofun, succeeds⟩
    exact ⟨congrArg _ (Except.error.inj same), rfl⟩
  | ok renamed =>
    obtain ⟨place, mode, named, -, after, modes⟩ := writeWhole_of_moved_ok moved
    have below := ne_root_of_entryOf named
    have elsewhere : ∀ q, d.tree.entryOf path ≠ .ok q →
        (d.placed place (Text.utf8 text) mode).tree.find? q = d.tree.find? q := by
      intro q other
      refine d.find?_placed_of_ne (fun same => other ?_) _ _
      rw [named, same]
    have there := d.find?_placed_self below (Text.utf8 text) mode
    simp only [after]
    refine ⟨rfl, rfl, elsewhere, fun temporary created made other => ?_, fun q same => .inr ⟨mode, ?_⟩,
      nofun, fun succeeded => ⟨place, named, ?_⟩, succeeds⟩
    · rw [elsewhere temporary other, find?_temporary made]
    · rw [named] at same
      rw [← Except.ok.inj same, there]
    · rw [← modes succeeded, there]

/-- A link is replaced by a file with the mode of the file that it led to. -/
example :
    let d : Disk := ⟨(Tree.empty.insert ["t"] (.file ByteArray.empty 0o666)).insert ["l"] (.link "t"),
      0o022, "/work"⟩
    let (result, after) := d.writeWhole noFailures "l" (Text.utf8 "new")
    result = .ok () ∧ after.tree.find? ["l"] = some (.file (Text.utf8 "new") 0o666) ∧
      after.tree.find? ["t"] = some (.file ByteArray.empty 0o666) :=
  ⟨rfl, rfl, rfl⟩

/-- The path names a link, and its way goes through that very link. So the path leads somewhere now, but
nowhere once a file is in the link's place. -/
structure Spoils (d : Disk) (path : Text) : Prop where
  temporary : ∃ made, d.temporaryFor path (d.askedMode path) = .ok made
  leads : ∃ mode, d.tree.modeAt? path = some mode
  through : ∃ place target, d.tree.entryOf path = .ok place ∧
    d.tree.find? place = some (.link target) ∧ (d.tree.erase place).entryOf path ≠ .ok place

theorem moved_of_spoils (spoils : d.Spoils path) : ∃ renamed, d.moved noFailures path bytes = .ok renamed := by
  obtain ⟨place, target, named, link, -⟩ := spoils.through
  exact ⟨_, moved_eq_ok_iff.2 ⟨fun _ _ => rfl, spoils.temporary, place, named, by simp [isDir, link, Node.isDir],
    rfl⟩⟩

/-- A write that fails though every call works as it should has changed the tree just when its path spoils
itself. -/
theorem writeWhole_tree_eq_iff {fault : FileFault} {after : Disk}
    (h : d.writeWhole noFailures path bytes = (.error fault, after)) :
    after.tree = d.tree ↔ ¬ d.Spoils path := by
  cases moved : d.moved noFailures path bytes with
  | error other =>
    rw [writeWhole_of_moved_error moved] at h
    obtain ⟨-, rfl⟩ := Prod.mk.inj h
    refine iff_of_true rfl fun spoils => ?_
    obtain ⟨renamed, ok⟩ := moved_of_spoils spoils
    rw [moved] at ok
    cases ok
  | ok renamed =>
    obtain ⟨-, made, place, named, notDir, rfl⟩ := moved_eq_ok_iff.1 moved
    have below := ne_root_of_entryOf named
    simp only [writeWhole_eq, moved, settled] at h
    cases old : d.tree.modeAt? path with
    | none =>
      rw [old] at h
      cases h
    | some mode =>
      simp only [old, attempt, noFailures] at h
      cases set : (d.tree.insert place (.file bytes (d.masked (d.askedMode path)))).changeMode path mode with
      | ok done =>
        rw [set] at h
        cases h
      | error other =>
        rw [set] at h
        obtain ⟨-, rfl⟩ := Prod.mk.inj h
        -- No call is made to fail, so the mode was refused because the path leads to its entry no more.
        have through : (d.tree.erase place).entryOf path ≠ .ok place := by
          intro around
          rw [(changeMode_insert_file_iff named).2 ⟨around, rfl⟩] at set
          cases set
        obtain ⟨target, found⟩ := link_of_entryOf_erase named notDir through
        exact iff_of_false (insert_file_ne below found)
          (not_not_intro ⟨made, ⟨mode, old⟩, place, target, named, found, through⟩)

end Disk

end TokenTables
