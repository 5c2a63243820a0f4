import TokenTables.Text.Utf8

/-!
A directory tree: files with their bytes and mode, symbolic links with the text of their target, and
directories, each at the place given by the names from the root down. The root is a directory that is
always there. Setting an entry replaces what was at its place and leaves every other place as it was.

Access rights are not modelled: modes are kept and handed on, but every directory can be searched and
written, and every file read, whatever its mode. The working directory is taken for the root of the tree,
so a relative path and the same path behind a slash are walked alike.
-/

namespace TokenTables

/-- Permission bits with the set-id and sticky bits. -/
abbrev Mode := BitVec 12

inductive Node where
  | file (bytes : ByteArray) (mode : Mode)
  | link (target : Text)
  | dir (mode : Mode)

def Node.mode? : Node → Option Mode
  | file _ mode => some mode
  | link _ => none
  | dir mode => some mode

def Node.isDir : Node → Bool
  | dir _ => true
  | _ => false

def Node.withMode (mode : Mode) : Node → Node
  | file bytes _ => file bytes mode
  | link target => link target
  | dir _ => dir mode

abbrev Place := List Text

structure Tree where
  entries : List (Place × Node)

namespace Tree

def empty : Tree := ⟨[]⟩

instance : EmptyCollection Tree := ⟨empty⟩

def root : Node := .dir 0o755

def find? (t : Tree) (p : Place) : Option Node :=
  if p = [] then some root else (t.entries.find? fun entry => entry.1 = p).map Prod.snd

def erase (t : Tree) (p : Place) : Tree := ⟨t.entries.filter fun entry => entry.1 ≠ p⟩

def insert (t : Tree) (p : Place) (n : Node) : Tree := ⟨(p, n) :: (t.erase p).entries⟩

def isDir (t : Tree) (p : Place) : Bool := (t.find? p).any Node.isDir

def prune (t : Tree) (p : Place) : Tree := ⟨t.entries.filter fun entry => !p.isPrefixOf entry.1⟩

@[simp] theorem find?_insert_self (t : Tree) {p : Place} (below : p ≠ []) (n : Node) :
    (t.insert p n).find? p = some n := by
  simp [find?, insert, below]

@[simp] theorem find?_erase_self (t : Tree) {p : Place} (below : p ≠ []) : (t.erase p).find? p = none := by
  simp [find?, erase, below]

@[simp] theorem find?_erase_of_ne (t : Tree) {p q : Place} (h : q ≠ p) :
    (t.erase p).find? q = t.find? q := by
  unfold find? erase
  split
  · rfl
  · rw [List.find?_filter]
    congr 2
    funext entry
    by_cases same : entry.1 = q
    · simp [same, h]
    · simp [same]

@[simp] theorem find?_insert_of_ne (t : Tree) {p q : Place} (n : Node) (h : q ≠ p) :
    (t.insert p n).find? q = t.find? q := by
  rw [← find?_erase_of_ne t h]
  unfold find? insert
  simp [Ne.symm h]

/-- What was put at a free place can be taken away again without a trace. -/
theorem erase_insert (t : Tree) {p : Place} (n : Node) (free : ∀ entry ∈ t.entries, entry.1 ≠ p) :
    (t.insert p n).erase p = t := by
  cases t with
  | mk entries =>
    have keep : (entries.filter fun entry => decide (entry.1 ≠ p)) = entries :=
      List.filter_eq_self.2 fun entry mem => by simpa using free entry mem
    simpa [insert, erase] using keep

def listing (t : Tree) : List (Text × Node) :=
  (t.entries.map fun entry => (Text.join ['/'] entry.1, entry.2)).mergeSort fun a b =>
    Text.le a.1 b.1

end Tree

/-- A tree, the permission bits that newly created entries are denied, and the path at which the tree's
root stands, from the root of all. -/
structure Disk where
  tree : Tree
  umask : Mode
  home : Text

def Disk.masked (d : Disk) (mode : Mode) : Mode := mode &&& ~~~d.umask

end TokenTables
