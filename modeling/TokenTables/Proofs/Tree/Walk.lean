import Mathlib.Data.List.Basic
import TokenTables.Tree.AtomicWrite

/-!
Ways through a tree, as rules. A path is walked name by name to a directory, from which its last name
is looked up. Such a way sees directories and links only: where a file stands or nothing at all makes
no difference to it. So trees with the same directories and links have the same ways, and a tree with
fewer of them has fewer.
-/

namespace TokenTables

/-- A name that stands for an entry of its directory. -/
structure Path.IsPlain (name : Text) : Prop where
  notHere : name ≠ Path.here
  notUp : name ≠ Path.up
  short : ¬ Path.longestName < Text.byteSize name

namespace Tree

variable {t t' : Tree} {links left : Nat} {start dir p : Place} {names rest : List Text}
  {name : Text}

/-- The way from `start` through `names` ends at `dir`, and `left` of `links` may still be followed. -/
inductive Reaches (t : Tree) : (links : Nat) → (start : Place) → List Text → (left : Nat) →
    (dir : Place) → Prop
  | stop {links : Nat} {start : Place} : Reaches t links start [] links start
  | here {links left : Nat} {start dir : Place} {rest : List Text} : t.isDir start = true →
      Reaches t links start rest left dir → Reaches t links start (Path.here :: rest) left dir
  | up {links left : Nat} {start dir : Place} {rest : List Text} : t.isDir start = true →
      Reaches t links start.dropLast rest left dir →
      Reaches t links start (Path.up :: rest) left dir
  | enter {links left : Nat} {start dir : Place} {name : Text} {rest : List Text} :
      t.isDir start = true → Path.IsPlain name → t.isDir (start ++ [name]) = true →
      Reaches t links (start ++ [name]) rest left dir → Reaches t links start (name :: rest) left dir
  | follow {links left : Nat} {start dir : Place} {name target : Text} {rest : List Text} :
      t.isDir start = true → Path.IsPlain name →
      t.find? (start ++ [name]) = some (.link target) →
      Reaches t links (if Path.isAbsolute target then [] else start) (Path.steps target ++ rest)
        left dir →
      Reaches t (links + 1) start (name :: rest) left dir

/-- What a walk does with a link when `links` may be followed. -/
def onLink (t : Tree) : (links : Nat) → Place → List Text → Except FileFault Place
  | 0 => fun _ _ => .error .tooManyLinks
  | links + 1 => t.walk links

theorem walk_eq (t : Tree) (links : Nat) : t.walk links = t.walkWith (t.onLink links) := by
  cases links <;> rfl

theorem isDir_of_walk (h : t.walk links start (name :: rest) = .ok p) : t.isDir start = true := by
  by_contra notDir
  rw [walk_eq, walkWith, if_pos (by simpa using notDir)] at h
  cases h

theorem walk_here (isDir : t.isDir start = true) :
    t.walk links start (Path.here :: rest) = t.walk links start rest := by
  rw [walk_eq, walkWith, if_neg (by simp [isDir]), if_pos rfl]

theorem walk_up (isDir : t.isDir start = true) :
    t.walk links start (Path.up :: rest) = t.walk links start.dropLast rest := by
  rw [walk_eq, walkWith, if_neg (by simp [isDir]), if_neg (by decide), if_pos rfl]

theorem walk_link {target : Text} (isDir : t.isDir start = true) (plain : Path.IsPlain name)
    (found : t.find? (start ++ [name]) = some (.link target)) :
    t.walk links start (name :: rest) =
      t.onLink links (if Path.isAbsolute target then [] else start) (Path.steps target ++ rest) := by
  rw [walk_eq, walkWith, if_neg (by simp [isDir]), if_neg plain.notHere, if_neg plain.notUp,
    if_neg plain.short, found]

theorem walk_node {node : Node} (isDir : t.isDir start = true) (plain : Path.IsPlain name)
    (found : t.find? (start ++ [name]) = some node) (notLink : ∀ target, node ≠ .link target) :
    t.walk links start (name :: rest) = t.walk links (start ++ [name]) rest := by
  rw [walk_eq, walkWith, if_neg (by simp [isDir]), if_neg plain.notHere, if_neg plain.notUp,
    if_neg plain.short, found]
  cases node with
  | link target => exact absurd rfl (notLink target)
  | file bytes mode => rfl
  | dir mode => rfl

theorem walk_missing (isDir : t.isDir start = true) (plain : Path.IsPlain name)
    (found : t.find? (start ++ [name]) = none) :
    t.walk links start (name :: rest) =
      if rest.isEmpty then .ok (start ++ [name]) else .error .notFound := by
  rw [walk_eq, walkWith, if_neg (by simp [isDir]), if_neg plain.notHere, if_neg plain.notUp,
    if_neg plain.short, found]

theorem isPlain_of_walk (h : t.walk links start (name :: rest) = .ok p)
    (notHere : name ≠ Path.here) (notUp : name ≠ Path.up) : Path.IsPlain name := by
  have isDir := isDir_of_walk h
  refine ⟨notHere, notUp, fun long => ?_⟩
  rw [walk_eq, walkWith, if_neg (by simp [isDir]), if_neg notHere, if_neg notUp, if_pos long] at h
  cases h

theorem isDir_eq_true_iff : t.isDir p = true ↔ ∃ mode, t.find? p = some (.dir mode) := by
  unfold isDir
  cases found : t.find? p with
  | none => simp
  | some node => cases node <;> simp [Node.isDir]

private theorem reaches_of_walk_aux {x : Text}
    (linked : ∀ start names, t.onLink links start (names ++ [x]) = .ok p →
      ∃ fewer left dir, links = fewer + 1 ∧ Reaches t fewer start names left dir ∧
        t.walk left dir [x] = .ok p)
    (h : t.walk links start (names ++ [x]) = .ok p) :
    ∃ left dir, Reaches t links start names left dir ∧ t.walk left dir [x] = .ok p := by
  -- With the links as they are the names get fewer; a link is left to `linked`, which has one link less.
  induction names generalizing start with
  | nil => exact ⟨links, start, .stop, h⟩
  | cons name names ih =>
    rw [List.cons_append] at h
    have isDir := isDir_of_walk h
    by_cases here : name = Path.here
    · subst here
      rw [walk_here isDir] at h
      obtain ⟨left, dir, way, last⟩ := ih h
      exact ⟨left, dir, .here isDir way, last⟩
    by_cases up : name = Path.up
    · subst up
      rw [walk_up isDir] at h
      obtain ⟨left, dir, way, last⟩ := ih h
      exact ⟨left, dir, .up isDir way, last⟩
    have plain := isPlain_of_walk h here up
    cases found : t.find? (start ++ [name]) with
    | none =>
      rw [walk_missing isDir plain found, if_neg (by simp)] at h
      cases h
    | some node =>
      by_cases link : ∃ target, node = .link target
      · obtain ⟨target, rfl⟩ := link
        rw [walk_link isDir plain found, ← List.append_assoc] at h
        obtain ⟨fewer, left, dir, rfl, way, last⟩ := linked _ _ h
        exact ⟨left, dir, .follow isDir plain found way, last⟩
      · rw [walk_node isDir plain found (fun target same => link ⟨target, same⟩)] at h
        have entered : t.isDir (start ++ [name]) = true := by
          cases names <;> exact isDir_of_walk h
        obtain ⟨left, dir, way, last⟩ := ih h
        exact ⟨left, dir, .enter isDir plain entered way, last⟩

theorem reaches_of_walk {x : Text} (h : t.walk links start (names ++ [x]) = .ok p) :
    ∃ left dir, Reaches t links start names left dir ∧ t.walk left dir [x] = .ok p := by
  induction links generalizing start names with
  | zero => exact reaches_of_walk_aux (fun _ _ followed => nomatch followed) h
  | succ links ih =>
    refine reaches_of_walk_aux (fun start names followed => ?_) h
    obtain ⟨left, dir, way, last⟩ := ih followed
    exact ⟨links, left, dir, rfl, way, last⟩

theorem walk_of_reaches {x : Text} (way : Reaches t links start names left dir)
    (last : t.walk left dir [x] = .ok p) : t.walk links start (names ++ [x]) = .ok p := by
  induction way with
  | stop => exact last
  | here isDir _ ih => rw [List.cons_append, walk_here isDir, ih last]
  | up isDir _ ih => rw [List.cons_append, walk_up isDir, ih last]
  | enter isDir plain entered _ ih =>
    obtain ⟨mode, found⟩ := isDir_eq_true_iff.1 entered
    rw [List.cons_append, walk_node isDir plain found (fun _ => nofun), ih last]
  | follow isDir plain found _ ih =>
    rw [List.cons_append, walk_link isDir plain found, onLink, ← List.append_assoc, ih last]

theorem walk_append_singleton_iff {x : Text} :
    t.walk links start (names ++ [x]) = .ok p ↔
      ∃ left dir, Reaches t links start names left dir ∧ t.walk left dir [x] = .ok p :=
  ⟨reaches_of_walk, fun ⟨_, _, way, last⟩ => walk_of_reaches way last⟩

theorem Reaches.mono (dirs : ∀ q, t.isDir q = true → t'.isDir q = true)
    (kept : ∀ q target, t.find? q = some (.link target) → t'.find? q = some (.link target))
    (way : Reaches t links start names left dir) : Reaches t' links start names left dir := by
  induction way with
  | stop => exact .stop
  | here isDir _ ih => exact .here (dirs _ isDir) ih
  | up isDir _ ih => exact .up (dirs _ isDir) ih
  | enter isDir plain entered _ ih => exact .enter (dirs _ isDir) plain (dirs _ entered) ih
  | follow isDir plain found _ ih => exact .follow (dirs _ isDir) plain (kept _ _ found) ih

theorem Reaches.split (way : Reaches t links start names left dir) :
    ∀ front rest, names = front ++ rest →
      ∃ between middle, Reaches t links start front between middle ∧
        Reaches t between middle rest left dir := by
  induction way with
  | stop =>
    intro front rest cut
    obtain ⟨rfl, rfl⟩ := List.append_eq_nil_iff.1 cut.symm
    exact ⟨_, _, .stop, .stop⟩
  | here isDir way ih =>
    rintro (_ | ⟨name, front⟩) rest cut
    · subst cut
      exact ⟨_, _, .stop, .here isDir way⟩
    · obtain ⟨rfl, rfl⟩ := List.cons.inj cut
      obtain ⟨between, middle, first, last⟩ := ih front rest rfl
      exact ⟨between, middle, .here isDir first, last⟩
  | up isDir way ih =>
    rintro (_ | ⟨name, front⟩) rest cut
    · subst cut
      exact ⟨_, _, .stop, .up isDir way⟩
    · obtain ⟨rfl, rfl⟩ := List.cons.inj cut
      obtain ⟨between, middle, first, last⟩ := ih front rest rfl
      exact ⟨between, middle, .up isDir first, last⟩
  | enter isDir plain entered way ih =>
    rintro (_ | ⟨name, front⟩) rest cut
    · subst cut
      exact ⟨_, _, .stop, .enter isDir plain entered way⟩
    · obtain ⟨rfl, rfl⟩ := List.cons.inj cut
      obtain ⟨between, middle, first, last⟩ := ih front rest rfl
      exact ⟨between, middle, .enter isDir plain entered first, last⟩
  | @follow links left start dir name target names isDir plain found way ih =>
    rintro (_ | ⟨name, front⟩) rest cut
    · subst cut
      exact ⟨_, _, .stop, .follow isDir plain found way⟩
    · obtain ⟨rfl, rfl⟩ := List.cons.inj cut
      -- The names of the link's target come before the cut.
      obtain ⟨between, middle, first, last⟩ :=
        ih (Path.steps target ++ front) rest (List.append_assoc _ _ _).symm
      exact ⟨between, middle, .follow isDir plain found first, last⟩

theorem Reaches.append {front : List Text} {between : Nat} {middle : Place}
    (first : Reaches t links start front between middle) (last : Reaches t between middle rest left dir) :
    Reaches t links start (front ++ rest) left dir := by
  induction first with
  | stop => exact last
  | here isDir _ ih => exact .here isDir (ih last)
  | up isDir _ ih => exact .up isDir (ih last)
  | enter isDir plain entered _ ih => exact .enter isDir plain entered (ih last)
  | follow isDir plain found _ ih =>
    have further := ih last
    rw [List.append_assoc] at further
    exact .follow isDir plain found further

theorem walk_singleton_here_iff : t.walk left dir [Path.here] = .ok p ↔ t.isDir dir = true ∧ dir = p := by
  constructor
  · intro h
    have isDir := isDir_of_walk h
    rw [walk_here isDir, walk_eq, walkWith] at h
    exact ⟨isDir, Except.ok.inj h⟩
  · rintro ⟨isDir, rfl⟩
    rw [walk_here isDir, walk_eq, walkWith]

theorem directory_eq_ok_iff {names : List Text} :
    t.directory names = .ok dir ↔
      ∃ left, Reaches t mostLinks [] names left dir ∧ t.isDir dir = true := by
  rw [directory, walk_append_singleton_iff]
  constructor
  · rintro ⟨left, found, way, last⟩
    obtain ⟨isDir, rfl⟩ := walk_singleton_here_iff.1 last
    exact ⟨left, way, isDir⟩
  · rintro ⟨left, way, isDir⟩
    exact ⟨left, dir, way, walk_singleton_here_iff.2 ⟨isDir, rfl⟩⟩

theorem directory_mono (dirs : ∀ q, t.isDir q = true → t'.isDir q = true)
    (kept : ∀ q target, t.find? q = some (.link target) → t'.find? q = some (.link target))
    (h : t.directory names = .ok dir) : t'.directory names = .ok dir := by
  obtain ⟨left, way, isDir⟩ := directory_eq_ok_iff.1 h
  exact directory_eq_ok_iff.2 ⟨left, way.mono dirs kept, dirs _ isDir⟩

end Tree

end TokenTables
