import Mathlib.Data.List.Basic
import TokenTables.Command
import TokenTables.Text.Lines

/-!
Only a successful command prints a line that begins with the word for it. The help and version texts do
not have the first letter of that word anywhere, and a stream takes characters away but adds none.
-/

namespace TokenTables

namespace Text

theorem mem_of_mem_shownFrom {lasting shows : Bool} {s : Control} {t : Text} {c : Char}
    (mem : c ∈ shownFrom lasting s shows t) : c ∈ t := by
  fun_induction shownFrom lasting s shows t with
  | case1 => cases mem
  | case2 _ d _ _ ih | case4 _ d _ _ ih =>
    refine (List.mem_cons.1 mem).elim (fun same => ?_) (fun rest => List.mem_cons_of_mem d (ih rest))
    exact same ▸ List.mem_cons_self
  | case3 _ d _ _ ih | case5 _ d _ _ ih => exact List.mem_cons_of_mem d (ih mem)

theorem mem_of_mem_lines {t line : Text} {c : Char} (inside : line ∈ lines t) (mem : c ∈ line) : c ∈ t := by
  fun_induction lines t generalizing line with
  | case1 => cases inside
  | case2 t ih =>
    rcases List.mem_cons.1 inside with rfl | inside
    · cases mem
    · exact List.mem_cons_of_mem _ (ih inside mem)
  | case3 t ih =>
    rcases List.mem_cons.1 inside with rfl | inside
    · cases mem
    · exact List.mem_cons_of_mem _ (List.mem_cons_of_mem _ (ih inside mem))
  | case4 d t _ _ ih =>
    cases found : lines t with
    | nil =>
      rw [found, consLine, List.mem_singleton] at inside
      subst inside
      exact List.mem_singleton.1 mem ▸ List.mem_cons_self
    | cons first rest =>
      rw [found, consLine] at inside
      rcases List.mem_cons.1 inside with rfl | inside
      · rcases List.mem_cons.1 mem with rfl | mem
        · exact List.mem_cons_self
        · exact List.mem_cons_of_mem _ (ih (found ▸ List.mem_cons_self) mem)
      · exact List.mem_cons_of_mem _ (ih (found ▸ List.mem_cons_of_mem _ inside) mem)

theorem notMem_of_ofList {c : Char} {s : String} {l : List Char} (literal : s = String.ofList l)
    (missing : c ∉ l) : c ∉ (s : Text) := by
  rw [literal, String.toList_ofList]
  exact missing

end Text

namespace CommandLine

theorem notMem_unlines {c : Char} {ls : List Text} (feed : c ≠ '\n') (missing : ∀ line ∈ ls, c ∉ line) :
    c ∉ unlines ls := by
  simpa [unlines, feed] using missing

theorem initial_notMem_answers (g : Generator) :
    ∀ line ∈ helpHead g ++ shortOptions ++ (longOptions ++ notes ++ g.examples) ++
      [g.programName ++ " " ++ version], 'F' ∉ line := by
  cases g <;>
  repeat' first
    | exact Text.notMem_of_ofList (by with_reducible rfl) (by decide)
    | refine List.not_mem_append ?_ ?_
    | refine List.forall_mem_append.2 ⟨?_, ?_⟩
    | refine List.forall_mem_cons.2 ⟨?_, ?_⟩
    | exact List.forall_mem_nil _

theorem initial_notMem_coloured (g : Generator) {stop : Stop} (answer : stop.isRefusal = false) :
    'F' ∉ stop.coloured g := by
  have lines := initial_notMem_answers g
  simp only [List.forall_mem_append] at lines
  obtain ⟨⟨⟨head, short⟩, ⟨long, last⟩, examples⟩, version⟩ := lines
  cases stop with
  | help isLong =>
    cases isLong with
    | false => exact notMem_unlines (by decide) (List.forall_mem_append.2 ⟨head, short⟩)
    | true =>
      refine notMem_unlines (by decide) ?_
      simp only [List.forall_mem_append]
      exact ⟨⟨⟨head, long⟩, last⟩, examples⟩
  | version => exact notMem_unlines (by decide) version
  | _ => cases answer

end CommandLine

namespace Generator

theorem not_beginsWith_finished (g : Generator) (refusal : Refusal) :
    ∀ line ∈ Text.lines (g.standardOutput (.error refusal)), Text.beginsWith "Finished" line = false := by
  intro line inside
  rw [← Bool.not_eq_true, Text.beginsWith_iff]
  rintro ⟨rest, rfl⟩
  have initial : 'F' ∈ g.standardOutput (.error refusal) :=
    Text.mem_of_mem_lines inside (List.mem_append_left rest List.mem_cons_self)
  cases refusal with
  | failure e => cases initial
  | commandLine stop =>
    cases answer : stop.isRefusal with
    | true => simp [standardOutput, answer] at initial
    | false =>
      simp only [standardOutput, answer] at initial
      exact CommandLine.initial_notMem_coloured g answer (Text.mem_of_mem_shownFrom initial)

end Generator

end TokenTables
