import Mathlib.Data.List.Basic
import TokenTables.Proofs.Tree.Kinds
import TokenTables.Proofs.Tree.Repetition

/-!
Writing over the file that was read. A path that can be read ends at a file, so its way does not go on
through what stands at the entry that it names: a link there leads to no directory. So with a new file in
the place of that entry the path leads to the new file, and it can be read and written again.
-/

namespace TokenTables

namespace Tree

variable {t t' : Tree} {links left budget : Nat} {start dir p q place : Place} {names : List Text}
  {path : Text} {bytes : ByteArray}

theorem Reaches.isDir_start (way : Reaches t links start names left dir) (isDir : t.isDir dir = true) :
    t.isDir start = true := by
  cases way with
  | stop => exact isDir
  | _ => assumption

theorem Reaches.eq_of_walk (way : Reaches t links start names left dir)
    (walked : t.walk budget start names = .ok p) : p = dir := by
  induction way generalizing budget with
  | stop =>
    rw [walk_nil] at walked
    exact (Except.ok.inj walked).symm
  | here isDir _ ih =>
    rw [walk_here isDir] at walked
    exact ih walked
  | up isDir _ ih =>
    rw [walk_up isDir] at walked
    exact ih walked
  | enter isDir plain entered _ ih =>
    obtain ⟨mode, found⟩ := isDir_eq_true_iff.1 entered
    rw [walk_node isDir plain found (fun _ => nofun)] at walked
    exact ih walked
  | follow isDir plain found _ ih =>
    rw [walk_link isDir plain found] at walked
    cases budget with
    | zero => cases walked
    | succ budget => exact ih walked

/-- If a link stands at `p`, it leads somewhere, but to no directory. -/
def DeadEnd (t : Tree) (p : Place) : Prop :=
  ∀ target, t.find? p = some (.link target) → ∃ budget q,
    t.walk budget (if Path.isAbsolute target then [] else p.dropLast) (Path.steps target) = .ok q ∧
      t.isDir q = false

theorem Reaches.erase (way : Reaches t links start names left dir) (isDir : t.isDir dir = true)
    (dead : DeadEnd t p) (notDir : t.isDir p = false) (below : p ≠ []) :
    Reaches (t.erase p) links start names left dir := by
  have dirs : ∀ q, t.isDir q = true → (t.erase p).isDir q = true := by
    intro q found
    refine ((blocked_erase below).dirs q).2 ⟨fun same => ?_, found⟩
    rw [same, notDir] at found
    cases found
  induction way with
  | stop => exact .stop
  | here here _ ih => exact .here (dirs _ here) (ih isDir)
  | up here _ ih => exact .up (dirs _ here) (ih isDir)
  | enter here plain entered _ ih => exact .enter (dirs _ here) plain (dirs _ entered) (ih isDir)
  | @follow links left start dir name target rest here plain found way ih =>
    refine .follow (dirs _ here) plain ?_ (ih isDir)
    by_cases same : start ++ [name] = p
    · -- the way goes on from where the link leads, which takes a directory
      subst same
      obtain ⟨between, middle, first, last⟩ := way.split (Path.steps target) rest rfl
      obtain ⟨budget, q, walked, noDir⟩ := dead target found
      rw [List.dropLast_concat] at walked
      rw [first.eq_of_walk walked, last.isDir_start isDir] at noDir
      cases noDir
    · rw [find?_erase_of_ne t same, found]

theorem DeadEnd.entryOf_erase (dead : DeadEnd t place) (notDir : t.isDir place = false)
    (named : t.entryOf path = .ok place) : (t.erase place).entryOf path = .ok place := by
  have below := ne_root_of_entryOf named
  obtain ⟨init, last, dir, names, found, rfl⟩ := entryOf_eq_ok_iff.1 named
  obtain ⟨left, way, isDir⟩ := directory_eq_ok_iff.1 found
  have stays : (t.erase (dir ++ [last])).isDir dir = true := by
    refine ((blocked_erase below).dirs dir).2 ⟨fun same => ?_, isDir⟩
    rw [← same, isDir] at notDir
    cases notDir
  exact entryOf_eq_ok_iff.2 ⟨init, last, dir, names,
    directory_eq_ok_iff.2 ⟨left, way.erase isDir dead notDir below, stays⟩, rfl⟩

theorem readBytes_eq_ok_iff : t.readBytes path = .ok bytes ↔
    ∃ q mode, t.resolve path = .ok q ∧ t.find? q = some (.file bytes mode) := by
  unfold readBytes lookup
  simp only [bind_eq_ok_iff]
  constructor
  · rintro ⟨node, ⟨q, led, found⟩, read⟩
    split at found
    · next node' there =>
      obtain rfl := Except.ok.inj found
      cases node' with
      | file bytes' mode =>
        obtain rfl := Except.ok.inj read
        exact ⟨q, mode, led, there⟩
      | _ => cases read
    · cases found
  · rintro ⟨q, mode, led, there⟩
    exact ⟨.file bytes mode, ⟨q, led, by rw [there]⟩, rfl⟩

theorem readText_eq_ok_iff {text : Text} : t.readText path = .ok text ↔
    ∃ bytes, t.readBytes path = .ok bytes ∧ Text.ofUtf8? bytes = some text := by
  unfold readText
  rw [bind_eq_ok_iff]
  refine exists_congr fun bytes => and_congr_right fun _ => ?_
  cases Text.ofUtf8? bytes <;> simp

theorem deadEnd_of_readBytes (read : t.readBytes path = .ok bytes) (named : t.entryOf path = .ok place) :
    DeadEnd t place := by
  intro target link
  obtain ⟨q, mode, led, there⟩ := readBytes_eq_ok_iff.1 read
  obtain ⟨init, last, dir, names, found, rfl⟩ := entryOf_eq_ok_iff.1 named
  rw [resolve_of_namesEntry names, walk_append_singleton_iff] at led
  obtain ⟨left, other, way, final⟩ := led
  have reached := directory_eq_ok_iff.2 ⟨left, way, isDir_of_walk final⟩
  obtain rfl := Except.ok.inj (reached.symm.trans found)
  rw [walk_link (isDir_of_walk final) names.plain link, List.append_nil] at final
  rw [List.dropLast_concat]
  cases left with
  | zero => cases final
  | succ left => exact ⟨left, q, final, by simp [isDir, there, Node.isDir]⟩

end Tree

namespace Disk

open TokenTables.Tree

variable {d : Disk} {infile outfile path : Text} {place : Place} {mode : Mode} {bytes text : ByteArray}

/-- A write to `outfile` takes the place of what is read through `infile`: of the entry that `infile` names,
or of the file that it leads to. -/
def OverItself (d : Disk) (infile outfile : Text) : Prop :=
  d.tree.entryOf infile = d.tree.entryOf outfile ∨ d.tree.resolve infile = d.tree.entryOf outfile

theorem sameKinds_placed (there : d.tree.find? place = some (.file bytes mode)) (below : place ≠ [])
    (text : ByteArray) (mode : Mode) : SameKinds d.tree (d.placed place text mode).tree := by
  intro q
  by_cases same : q = place
  · subst same
    rw [there, d.find?_placed_self below]
    rfl
  · rw [d.find?_placed_of_ne same]

/-- A header that is written over can be read again, as what was written, and written over again. -/
theorem readBytes_placed (itself : d.OverItself infile outfile) (read : d.tree.readBytes infile = .ok bytes)
    (named : d.tree.entryOf outfile = .ok place) (notDir : d.tree.isDir place = false) (text : ByteArray)
    (mode : Mode) :
    (d.placed place text mode).tree.readBytes infile = .ok text ∧
      (d.tree.erase place).entryOf outfile = .ok place := by
  have below := ne_root_of_entryOf named
  have file := d.find?_placed_self below text mode
  rcases itself with entry | leads
  · -- a link may stand at the entry, but `infile` is read through it
    rw [named] at entry
    have dead := deadEnd_of_readBytes read entry
    have still : (d.placed place text mode).tree.entryOf infile = .ok place :=
      (entryOf_placed_iff entry).2 (dead.entryOf_erase notDir entry)
    exact ⟨readBytes_eq_ok_iff.2 ⟨place, mode, resolve_of_entryOf still file, file⟩,
      dead.entryOf_erase notDir named⟩
  · -- a file stands there now, and a file after the write
    rw [named] at leads
    obtain ⟨q, old, led, there⟩ := readBytes_eq_ok_iff.1 read
    obtain rfl := Except.ok.inj (leads.symm.trans led)
    have dead : DeadEnd d.tree place := by
      intro target link
      rw [there] at link
      cases link
    refine ⟨readBytes_eq_ok_iff.2 ⟨place, mode, ?_, file⟩, dead.entryOf_erase notDir named⟩
    rw [← (sameKinds_placed there below text mode).resolve, led]

end Disk

end TokenTables
