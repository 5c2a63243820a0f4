import Mathlib.Data.List.Basic
import TokenTables.Proofs.Tree.AtomicWrite

/-!
Where a path leads, and why it leads nowhere, depends on the kinds of the entries alone. So whether a
write succeeds, and with what fault it fails, does not depend on what is written.
-/

namespace TokenTables

def Node.kind : Node → Node
  | file _ _ => file ByteArray.empty 0
  | link target => link target
  | dir _ => dir 0

@[simp] theorem Node.isDir_kind (n : Node) : n.kind.isDir = n.isDir := by
  cases n <;> rfl

namespace Tree

/-- At every place, entries of one kind. -/
def SameKinds (t t' : Tree) : Prop := ∀ p, (t.find? p).map Node.kind = (t'.find? p).map Node.kind

variable {t t' : Tree} {p source : Place} {path : Text} {names : List Text} {fault : FileFault}
  {fails : Failures} {call : Call}

theorem SameKinds.isDir (same : SameKinds t t') : t.isDir p = t'.isDir p := by
  have kinds := congrArg (Option.any Node.isDir) (same p)
  simpa [Tree.isDir, Option.any_map, Function.comp_def] using kinds

theorem sameKinds_insert_file (t : Tree) (below : p ≠ []) (a b : ByteArray) (mode : Mode) :
    SameKinds (t.insert p (.file a mode)) (t.insert p (.file b mode)) := by
  intro q
  by_cases same : q = p
  · simp [same, below, Node.kind]
  · simp [same]

theorem SameKinds.walkWith (same : SameKinds t t')
    {onLink onLink' : Place → List Text → Except FileFault Place}
    (links : ∀ start names, onLink start names = onLink' start names) (start : Place) :
    t.walkWith onLink start names = t'.walkWith onLink' start names := by
  induction names generalizing start with
  | nil => rw [Tree.walkWith, Tree.walkWith]
  | cons name rest ih =>
    rw [Tree.walkWith, Tree.walkWith, same.isDir, ih, ih]
    have kinds := same (start ++ [name])
    cases one : t.find? (start ++ [name]) with
    | none =>
      cases two : t'.find? (start ++ [name]) with
      | none => rfl
      | some node => simp [one, two] at kinds
    | some node =>
      cases two : t'.find? (start ++ [name]) with
      | none => simp [one, two] at kinds
      | some node' =>
        rw [one, two, Option.map_some, Option.map_some, Option.some.injEq] at kinds
        cases node <;> cases node' <;> simp_all [Node.kind]

theorem SameKinds.walk (same : SameKinds t t') (links : Nat) (start : Place) :
    t.walk links start names = t'.walk links start names := by
  induction links generalizing start names with
  | zero => exact same.walkWith (fun _ _ => rfl) start
  | succ links ih => exact same.walkWith (fun start names => ih start) start

theorem SameKinds.resolve (same : SameKinds t t') : t.resolve path = t'.resolve path := by
  unfold Tree.resolve
  simp only [same.walk]

theorem SameKinds.entryOf (same : SameKinds t t') : t.entryOf path = t'.entryOf path := by
  unfold Tree.entryOf Tree.directory
  simp only [same.walk]

theorem SameKinds.find?_eq_none (same : SameKinds t t') : t.find? p = none ↔ t'.find? p = none := by
  rw [← Option.map_eq_none_iff, same p, Option.map_eq_none_iff]

theorem rename_eq_error_iff : t.rename source path = .error fault ↔
    t.entryOf path = .error fault ∨ ∃ place, t.entryOf path = .ok place ∧
      (t.isDir place = true ∧ fault = .isDirectory ∨
        t.isDir place = false ∧ t.find? source = none ∧ fault = .notFound) := by
  unfold rename
  cases t.entryOf path with
  | error other => simp
  | ok place =>
    simp only [ok_bind, isDir]
    cases found : t.find? place with
    | none => cases t.find? source <;> simp [found, eq_comm (a := fault)]
    | some node => cases node <;> cases t.find? source <;> simp [found, Node.isDir, eq_comm (a := fault)]

theorem changeMode_eq_error_iff {mode : Mode} : t.changeMode path mode = .error fault ↔
    t.resolve path = .error fault ∨
      ∃ place, t.resolve path = .ok place ∧ t.find? place = none ∧ fault = .notFound := by
  unfold changeMode
  cases t.resolve path with
  | error other => simp
  | ok place =>
    simp only [ok_bind]
    cases found : t.find? place <;> simp [found, eq_comm (a := fault)]

theorem attempt_of_none {α : Type} {effect : Except FileFault α} (works : fails call = none) :
    attempt fails call effect = effect := by
  unfold attempt
  rw [works]

theorem attempt_error_congr {α : Type} {x y : Except FileFault α}
    (faults : ∀ fault, x = .error fault → y = .error fault) (h : attempt fails call x = .error fault) :
    attempt fails call y = .error fault := by
  cases works : fails call with
  | none =>
    rw [attempt_of_none works] at h ⊢
    exact faults fault h
  | some other => simpa only [attempt, works] using h

theorem SameKinds.rename_error (same : SameKinds t t') (h : t.rename source path = .error fault) :
    t'.rename source path = .error fault := by
  rw [rename_eq_error_iff] at h ⊢
  simpa only [same.entryOf, same.isDir, same.find?_eq_none] using h

theorem SameKinds.changeMode_error {mode : Mode} (same : SameKinds t t')
    (h : t.changeMode path mode = .error fault) : t'.changeMode path mode = .error fault := by
  rw [changeMode_eq_error_iff] at h ⊢
  simpa only [same.resolve, same.find?_eq_none] using h

end Tree

namespace Disk

open TokenTables.Tree

variable {d : Disk} {fails : Failures} {path : Text} {fault : FileFault}

theorem moved_error_congr (a b : ByteArray) (h : d.moved fails path a = .error fault) :
    d.moved fails path b = .error fault := by
  unfold moved at h ⊢
  cases made : attempt fails .create (d.temporaryFor path (d.askedMode path)) with
  | error other => simpa only [made, error_bind] using h
  | ok pair =>
    obtain ⟨temporary, created⟩ := pair
    have made' := (attempt_eq_ok_iff.1 made).2
    obtain ⟨dir, place, -⟩ := temporaryFor_eq_ok made'
    have same := sameKinds_insert_file d.tree (p := temporary) (by simp [place]) a b
      (d.masked (d.askedMode path))
    simp only [made, ok_bind, setBytes_created a made'] at h
    simp only [ok_bind, setBytes_created b made']
    cases noWrite : fails .write with
    | some other => simpa [attempt, noWrite] using h
    | none =>
      cases noFlush : fails .flush with
      | some other => simpa [attempt, noWrite, noFlush] using h
      | none =>
        simp only [attempt_of_none noWrite, attempt_of_none noFlush] at h ⊢
        exact attempt_error_congr (fun _ => same.rename_error) h

theorem writeWhole_error_congr (a b : ByteArray) (h : (d.writeWhole fails path a).1 = .error fault) :
    (d.writeWhole fails path b).1 = .error fault := by
  cases before : d.moved fails path a with
  | error other =>
    rw [writeWhole_of_moved_error before] at h
    rw [writeWhole_of_moved_error (moved_error_congr a b before)]
    exact h
  | ok renamed =>
    obtain ⟨works, made, place, named, notDir, rfl⟩ := moved_eq_ok_iff.1 before
    have after : d.moved fails path b =
        .ok (d.tree.insert place (.file b (d.masked (d.askedMode path)))) :=
      moved_eq_ok_iff.2 ⟨works, made, place, named, notDir, rfl⟩
    -- What the last call answers depends on the kinds of the entries, which the bytes do not change.
    have same := sameKinds_insert_file d.tree (ne_root_of_entryOf named) a b (d.masked (d.askedMode path))
    simp only [writeWhole_eq, before, settled] at h
    simp only [writeWhole_eq, after, settled]
    cases old : d.tree.modeAt? path with
    | none =>
      rw [old] at h
      cases h
    | some mode =>
      rw [old] at h
      cases set : attempt fails .setMode
          ((d.tree.insert place (.file a (d.masked (d.askedMode path)))).changeMode path mode) with
      | ok done =>
        simp only [set] at h
        cases h
      | error other =>
        have again := attempt_error_congr (fun _ => same.changeMode_error) set
        simp only [set] at h
        simp only [again]
        exact h

end Disk

end TokenTables
