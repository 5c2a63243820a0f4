import Mathlib.Data.List.Basic
import TokenTables.Proofs.Except
import TokenTables.Proofs.Tree.Walk

/-!
The entry that a path names. Putting a file at an entry takes away the ways that led through it, and so
does removing the entry; the two leave the same ways. If no directory or link stood there, no way is
lost at all.
-/

namespace TokenTables

/-- A path whose last name stands for an entry of the directory reached through `init`. -/
structure Path.NamesEntry (path : Text) (init : List Text) (last : Text) : Prop where
  noNul : Path.hasNul path = false
  checked : Path.check path = .ok ()
  names : Path.names path = init ++ [last]
  plain : Path.IsPlain last
  noSlash : Path.endsInSlash path = false

namespace Tree

variable {t t' : Tree} {p q : Place} {path last : Text} {init : List Text} {dir place : Place}

theorem ext_entries {s t : Tree} (h : s.entries = t.entries) : s = t := by
  cases s
  cases t
  exact congrArg Tree.mk h

@[simp] theorem insert_insert (t : Tree) (p : Place) (n m : Node) :
    (t.insert p n).insert p m = t.insert p m := by
  apply ext_entries
  simp [insert, erase, List.filter_filter]

theorem entryOf_eq_ok_iff :
    t.entryOf path = .ok place ↔ ∃ init last dir, Path.NamesEntry path init last ∧
      t.directory init = .ok dir ∧ place = dir ++ [last] := by
  constructor
  · intro h
    unfold entryOf at h
    by_cases nul : Path.hasNul path = true
    · rw [if_pos nul] at h
      cases h
    rw [if_neg nul] at h
    obtain ⟨_, checked, h⟩ := bind_eq_ok_iff.1 h
    obtain ⟨dir, found, h⟩ := bind_eq_ok_iff.1 h
    cases ends : (Path.names path).getLast? with
    | none =>
      simp only [ends] at h
      cases h
    | some last =>
      simp only [ends] at h
      split_ifs at h with special long slash
      have names : Path.names path = (Path.names path).dropLast ++ [last] :=
        (List.dropLast_append_getLast? last ends).symm
      push Not at special
      exact ⟨_, last, dir, ⟨by simpa using nul, checked, names, ⟨special.1, special.2, long⟩,
        by simpa using slash⟩, found, (Except.ok.inj h).symm⟩
  · rintro ⟨init, last, dir, named, found, rfl⟩
    have plain := named.plain
    unfold entryOf
    rw [if_neg (by simp [named.noNul]), named.checked, named.names]
    simp [found, plain.notHere, plain.notUp, plain.short, named.noSlash]

theorem resolve_of_namesEntry (named : Path.NamesEntry path init last) :
    t.resolve path = t.walk mostLinks [] (init ++ [last]) := by
  unfold resolve
  rw [if_neg (by simp [named.noNul]), named.checked, Path.steps, named.names, named.noSlash]
  simp

theorem walk_nil {links : Nat} : t.walk links dir [] = .ok dir := by
  rw [walk_eq, walkWith]

theorem entryOf_mono (dirs : ∀ q, t.isDir q = true → t'.isDir q = true)
    (kept : ∀ q target, t.find? q = some (.link target) → t'.find? q = some (.link target))
    (h : t.entryOf path = .ok place) : t'.entryOf path = .ok place := by
  obtain ⟨init, last, dir, named, found, rfl⟩ := entryOf_eq_ok_iff.1 h
  exact entryOf_eq_ok_iff.2 ⟨init, last, dir, named, directory_mono dirs kept found, rfl⟩

theorem ne_root_of_entryOf (h : t.entryOf path = .ok place) : place ≠ [] := by
  obtain ⟨init, last, dir, -, -, rfl⟩ := entryOf_eq_ok_iff.1 h
  simp

/-- The directories and links of `t'` are those of `t`, except that none stands at `p`. -/
structure Blocked (t : Tree) (p : Place) (t' : Tree) : Prop where
  dirs : ∀ q, t'.isDir q = true ↔ q ≠ p ∧ t.isDir q = true
  links : ∀ q target, t'.find? q = some (.link target) ↔ q ≠ p ∧ t.find? q = some (.link target)

theorem blocked_erase (below : p ≠ []) : Blocked t p (t.erase p) := by
  constructor
  · intro q
    by_cases same : q = p
    · simp [isDir, same, below]
    · simp [isDir, same]
  · intro q target
    by_cases same : q = p
    · simp [same, below]
    · simp [same]

theorem blocked_insert_file {bytes : ByteArray} {mode : Mode} (below : p ≠ []) :
    Blocked t p (t.insert p (.file bytes mode)) := by
  constructor
  · intro q
    by_cases same : q = p
    · simp [isDir, same, below, Node.isDir]
    · simp [isDir, same]
  · intro q target
    by_cases same : q = p
    · simp [same, below]
    · simp [same]

theorem Blocked.entryOf_iff (one : Blocked t p t') {t'' : Tree} (two : Blocked t p t'') :
    t'.entryOf path = .ok place ↔ t''.entryOf path = .ok place := by
  constructor
  · exact entryOf_mono (fun q => by rw [one.dirs, two.dirs]; exact id)
      (fun q target => by rw [one.links, two.links]; exact id)
  · exact entryOf_mono (fun q => by rw [one.dirs, two.dirs]; exact id)
      (fun q target => by rw [one.links, two.links]; exact id)

theorem Blocked.entryOf (blocked : Blocked t p t') (h : t'.entryOf path = .ok place) :
    t.entryOf path = .ok place :=
  entryOf_mono (fun q isDir => ((blocked.dirs q).1 isDir).2)
    (fun q target found => ((blocked.links q target).1 found).2) h

theorem Blocked.entryOf_iff_of_free (blocked : Blocked t p t') (notDir : t.isDir p = false)
    (notLink : ∀ target, t.find? p ≠ some (.link target)) :
    t'.entryOf path = .ok place ↔ t.entryOf path = .ok place := by
  refine ⟨blocked.entryOf, entryOf_mono (fun q isDir => ?_) (fun q target found => ?_)⟩
  · refine (blocked.dirs q).2 ⟨fun same => ?_, isDir⟩
    rw [same, notDir] at isDir
    cases isDir
  · exact (blocked.links q target).2 ⟨fun same => notLink target (same ▸ found), found⟩

/-- Only a link can stand in its own path's way: what else is at an entry that the path names may go. -/
theorem link_of_entryOf_erase (h : t.entryOf path = .ok place) (notDir : t.isDir place = false)
    (through : (t.erase place).entryOf path ≠ .ok place) : ∃ target, t.find? place = some (.link target) := by
  by_contra noLink
  push Not at noLink
  exact through (((blocked_erase (ne_root_of_entryOf h)).entryOf_iff_of_free notDir noLink).2 h)

theorem resolve_of_entryOf {bytes : ByteArray} {mode : Mode} (h : t.entryOf path = .ok place)
    (file : t.find? place = some (.file bytes mode)) : t.resolve path = .ok place := by
  obtain ⟨init, last, dir, named, found, rfl⟩ := entryOf_eq_ok_iff.1 h
  obtain ⟨left, way, isDir⟩ := directory_eq_ok_iff.1 found
  rw [resolve_of_namesEntry named, walk_append_singleton_iff]
  exact ⟨left, dir, way, by rw [walk_node isDir named.plain file (fun _ => nofun), walk_nil]⟩

theorem entryOf_of_resolve_insert {bytes : ByteArray} {mode : Mode} (h : t.entryOf path = .ok place)
    (led : (t.insert place (.file bytes mode)).resolve path = .ok q) :
    (t.insert place (.file bytes mode)).entryOf path = .ok place ∧ q = place := by
  have below := ne_root_of_entryOf h
  have blocked : Blocked t place (t.insert place (.file bytes mode)) := blocked_insert_file below
  obtain ⟨init, last, dir, named, found, rfl⟩ := entryOf_eq_ok_iff.1 h
  rw [resolve_of_namesEntry named, walk_append_singleton_iff] at led
  obtain ⟨left, dir', way, final⟩ := led
  have isDir := isDir_of_walk final
  have reached := directory_eq_ok_iff.2 ⟨left, way, isDir⟩
  -- A way in the tree with the file is a way in the tree without, and ends where that ends.
  have same : dir' = dir := by
    have back := directory_mono (fun q isDir => ((blocked.dirs q).1 isDir).2)
      (fun q target found => ((blocked.links q target).1 found).2) reached
    rw [found] at back
    exact (Except.ok.inj back).symm
  subst same
  refine ⟨entryOf_eq_ok_iff.2 ⟨init, last, dir', named, reached, rfl⟩, ?_⟩
  rw [walk_node isDir named.plain (find?_insert_self t below _) (fun _ => nofun), walk_nil] at final
  exact (Except.ok.inj final).symm

theorem resolve_insert_file_iff {bytes : ByteArray} {mode : Mode} (h : t.entryOf path = .ok place) :
    (t.insert place (.file bytes mode)).resolve path = .ok q ↔
      (t.erase place).entryOf path = .ok place ∧ q = place := by
  have below := ne_root_of_entryOf h
  rw [(blocked_erase below).entryOf_iff (blocked_insert_file below)]
  constructor
  · exact entryOf_of_resolve_insert h
  · rintro ⟨named, rfl⟩
    exact resolve_of_entryOf named (find?_insert_self t below _)

/-- The mode of a file just put at the entry that a path names can be changed through the path unless
the path led through what stood there. -/
theorem changeMode_insert_file_iff {bytes : ByteArray} {old mode : Mode} {done : Tree}
    (h : t.entryOf path = .ok place) :
    (t.insert place (.file bytes old)).changeMode path mode = .ok done ↔
      (t.erase place).entryOf path = .ok place ∧ done = t.insert place (.file bytes mode) := by
  unfold changeMode
  rw [bind_eq_ok_iff]
  constructor
  · rintro ⟨q, led, changed⟩
    obtain ⟨named, rfl⟩ := (resolve_insert_file_iff h).1 led
    simp only [find?_insert_self t (ne_root_of_entryOf h), Node.withMode, insert_insert] at changed
    exact ⟨named, (Except.ok.inj changed).symm⟩
  · rintro ⟨named, rfl⟩
    refine ⟨place, (resolve_insert_file_iff h).2 ⟨named, rfl⟩, ?_⟩
    simp [ne_root_of_entryOf h, Node.withMode]

end Tree

end TokenTables
