import Mathlib.Data.List.Basic
import TokenTables.Proofs.Tree.AtomicWrite

/-!
Writing to the same path again. The first write leaves a file at the entry that the path names, and the
second finds it there: it keeps the mode, and only the bytes change. For this the path has to lead to its
entry still, and it does unless it names a link through which its own way went.
-/

namespace TokenTables

namespace Tree

variable {t : Tree} {links left : Nat} {start dir : Place} {names : List Text} {path : Text} {place : Place}

theorem Reaches.eq_of_here (way : Reaches t links start [Path.here] left dir) : left = links ∧ dir = start := by
  generalize single : [Path.here] = names at way
  cases way with
  | stop => cases single
  | here _ way =>
    obtain rfl := (List.cons.inj single).2
    cases way
    exact ⟨rfl, rfl⟩
  | up => exact absurd (List.cons.inj single).1 (by decide)
  | enter _ plain => exact absurd (List.cons.inj single).1.symm plain.notHere
  | follow _ plain => exact absurd (List.cons.inj single).1.symm plain.notHere

theorem Reaches.filter_here (way : Reaches t links start names left dir) :
    Reaches t links start (names.filter (· ≠ Path.here)) left dir := by
  induction names generalizing links start with
  | nil => exact way
  | cons name names ih =>
    obtain ⟨between, middle, first, last⟩ := way.split [name] names rfl
    by_cases here : name = Path.here
    · subst here
      obtain ⟨rfl, rfl⟩ := first.eq_of_here
      simpa using ih last
    · rw [List.filter_cons_of_pos (by simpa using here)]
      exact first.append (ih last)

theorem directory_filter_here (h : t.directory names = .ok dir) :
    t.directory (names.filter (· ≠ Path.here)) = .ok dir := by
  obtain ⟨left, way, isDir⟩ := directory_eq_ok_iff.1 h
  exact directory_eq_ok_iff.2 ⟨left, way.filter_here, isDir⟩

theorem directory_parentNames (h : t.entryOf path = .ok place) :
    ∃ dir, t.directory (Path.parentNames path) = .ok dir := by
  obtain ⟨init, last, dir, named, found, -⟩ := entryOf_eq_ok_iff.1 h
  refine ⟨dir, ?_⟩
  have parent : Path.parentNames path = init.filter (· ≠ Path.here) := by
    simp [Path.parentNames, named.names, named.plain.notHere]
  rw [parent]
  exact directory_filter_here found

theorem erase_insert_self (t : Tree) (p : Place) (n : Node) : (t.insert p n).erase p = t.erase p := by
  apply ext_entries
  simp [insert, erase, List.filter_filter]

/-- The path names a link, and its way goes through that very link. -/
def ThroughItself (t : Tree) (path : Text) : Prop :=
  ∃ place target, t.entryOf path = .ok place ∧ t.find? place = some (.link target) ∧
    (t.erase place).entryOf path ≠ .ok place

theorem throughItself_iff (h : t.entryOf path = .ok place) (notDir : t.isDir place = false) :
    t.ThroughItself path ↔ (t.erase place).entryOf path ≠ .ok place := by
  constructor
  · rintro ⟨other, target, named, -, through⟩
    rwa [Except.ok.inj (h.symm.trans named)]
  · intro through
    obtain ⟨target, link⟩ := link_of_entryOf_erase h notDir through
    exact ⟨place, target, h, link, through⟩

end Tree

namespace Disk

open TokenTables.Tree

variable {d once : Disk} {path : Text} {place : Place} {mode : Mode}

theorem exists_temporaryFor_iff : (∃ made, d.temporaryFor path mode = .ok made) ↔
    ¬ Path.hasNul (Path.parent path) = true ∧ ¬ Path.longestPath < Path.temporarySize d.home path ∧
      ∃ dir, d.tree.directory (Path.parentNames path) = .ok dir := by
  unfold temporaryFor
  by_cases nul : Path.hasNul (Path.parent path) = true
  · simp [nul]
  by_cases long : Path.longestPath < Path.temporarySize d.home path
  · simp [nul, long]
  rw [if_neg nul, if_neg long, and_iff_right nul, and_iff_right long]
  constructor
  · rintro ⟨made, ok⟩
    obtain ⟨dir, found, -⟩ := bind_eq_ok_iff.1 ok
    exact ⟨dir, found⟩
  · rintro ⟨dir, found⟩
    exact ⟨_, bind_eq_ok_iff.2 ⟨dir, found, rfl⟩⟩

theorem placed_of_writeWhole {a : ByteArray} (h : d.writeWhole noFailures path a = (.ok (), once)) :
    ∃ place mode, d.tree.entryOf path = .ok place ∧ d.tree.isDir place = false ∧
      (∃ made, d.temporaryFor path (d.askedMode path) = .ok made) ∧ once = d.placed place a mode := by
  cases moved : d.moved noFailures path a with
  | error fault =>
    rw [writeWhole_of_moved_error moved] at h
    cases h
  | ok renamed =>
    obtain ⟨place, mode, named, notDir, same, -⟩ := writeWhole_of_moved_ok moved
    obtain ⟨-, made, -⟩ := moved_eq_ok_iff.1 moved
    rw [h] at same
    exact ⟨place, mode, named, notDir, made, same⟩

theorem entryOf_placed_iff {a : ByteArray} {q : Place} (named : d.tree.entryOf path = .ok place) :
    (d.placed place a mode).tree.entryOf path = .ok q ↔ (d.tree.erase place).entryOf path = .ok q :=
  (blocked_insert_file (ne_root_of_entryOf named)).entryOf_iff (blocked_erase (ne_root_of_entryOf named))

theorem writeWhole_placed_of_around (a b : ByteArray) (mode : Mode) (named : d.tree.entryOf path = .ok place)
    (made : ∃ made, d.temporaryFor path (d.askedMode path) = .ok made)
    (around : (d.tree.erase place).entryOf path = .ok place) :
    (d.placed place a mode).writeWhole noFailures path b = (.ok (), d.placed place b mode) := by
  have file := d.find?_placed_self (ne_root_of_entryOf named) a mode
  have still : (d.placed place a mode).tree.entryOf path = .ok place := (entryOf_placed_iff named).2 around
  have old : (d.placed place a mode).tree.modeAt? path = some mode := by
    have led := resolve_of_entryOf still file
    simp only [modeAt?, lookup, led, ok_bind, file, Except.toOption, Option.bind, Node.mode?]
  have temporary : ∃ made, (d.placed place a mode).temporaryFor path
      ((d.placed place a mode).askedMode path) = .ok made := by
    obtain ⟨noNul, short, -⟩ := exists_temporaryFor_iff.1 made
    exact exists_temporaryFor_iff.2 ⟨noNul, short, directory_parentNames still⟩
  have moved : (d.placed place a mode).moved noFailures path b = .ok _ :=
    moved_eq_ok_iff.2 ⟨fun _ _ => rfl, temporary, place, still, by simp [isDir, file, Node.isDir], rfl⟩
  have set : ∀ asked, ((d.placed place a mode).tree.insert place (.file b asked)).changeMode path mode =
      .ok ((d.placed place a mode).tree.insert place (.file b mode)) := by
    intro asked
    refine (changeMode_insert_file_iff still).2 ⟨?_, rfl⟩
    rw [placed, erase_insert_self]
    exact around
  simp only [writeWhole_eq, moved, settled, old, attempt, noFailures, set]
  simp only [placed, insert_insert]

/-- With a file in the place of the link that its way goes through, the path leads nowhere. -/
theorem writeWhole_placed_of_through (a b : ByteArray) (mode : Mode) (named : d.tree.entryOf path = .ok place)
    (through : (d.tree.erase place).entryOf path ≠ .ok place) :
    ∃ fault, (d.placed place a mode).writeWhole noFailures path b =
      (.error fault, d.placed place a mode) := by
  cases moved : (d.placed place a mode).moved noFailures path b with
  | error fault => exact ⟨fault, writeWhole_of_moved_error moved⟩
  | ok renamed =>
    -- A path that still named an entry would name the one that it named before.
    obtain ⟨-, -, q, still, -⟩ := moved_eq_ok_iff.1 moved
    have erased := (entryOf_placed_iff named).1 still
    have back := (blocked_erase (ne_root_of_entryOf named)).entryOf erased
    rw [named] at back
    exact absurd (Except.ok.inj back ▸ erased) through

end Disk

end TokenTables
