import Mathlib.Data.List.Basic
import TokenTables.Proofs.Generator.Repetition

/-!
Errors in layers. An error is a cause that is no stage, in layers of which each adds its stage and file to
the front of the message, and it comes apart into these in one way only. What a run gives has no layer if a
file could not be read or written, and one layer around a table that does not fit its range.
-/

namespace TokenTables

namespace Error

structure Layer where
  name : Text
  path : Text
deriving DecidableEq, Repr

namespace Layer

def text (l : Layer) : Text := l.name ++ " of " ++ l.path ++ ": "

def around (l : Layer) (source : Error) : Error := stage l.name l.path source

end Layer

def wrapped (layers : List Layer) (source : Error) : Error := layers.foldr Layer.around source

def isStage : Error → Bool
  | stage _ _ _ => true
  | _ => false

def layers : Error → List Layer
  | stage name path source => ⟨name, path⟩ :: source.layers
  | _ => []

variable {e cause : Error}

theorem isStage_innermost (e : Error) : e.innermost.isStage = false := by
  induction e with
  | stage name path source ih => exact ih
  | _ => rfl

theorem innermost_of_not_isStage (plain : e.isStage = false) : e.innermost = e := by
  cases e with
  | stage name path source => cases plain
  | _ => rfl

theorem layers_of_not_isStage (plain : e.isStage = false) : e.layers = [] := by
  cases e with
  | stage name path source => cases plain
  | _ => rfl

theorem innermost_wrapped (ls : List Layer) (e : Error) : (wrapped ls e).innermost = e.innermost := by
  induction ls with
  | nil => rfl
  | cons l ls ih => exact ih

theorem layers_wrapped (ls : List Layer) (e : Error) : (wrapped ls e).layers = ls ++ e.layers := by
  induction ls with
  | nil => rfl
  | cons l ls ih => exact congrArg (l :: ·) ih

theorem message_around (l : Layer) (e : Error) : (l.around e).message = l.text ++ e.message := rfl

theorem message_wrapped (ls : List Layer) (e : Error) :
    (wrapped ls e).message = ls.flatMap Layer.text ++ e.message := by
  induction ls with
  | nil => rfl
  | cons l ls ih =>
    have outer : (wrapped (l :: ls) e).message = l.text ++ (wrapped ls e).message :=
      message_around l (wrapped ls e)
    rw [outer, ih, List.flatMap_cons, List.append_assoc]

theorem wrapped_layers_innermost (e : Error) : wrapped e.layers e.innermost = e := by
  induction e with
  | stage name path source ih => exact congrArg (stage name path) ih
  | _ => rfl

/-- An error has its layers and its cause, and no others. -/
theorem eq_wrapped_iff {ls : List Layer} (plain : cause.isStage = false) :
    e = wrapped ls cause ↔ e.layers = ls ∧ e.innermost = cause := by
  constructor
  · rintro rfl
    rw [layers_wrapped, layers_of_not_isStage plain, List.append_nil, innermost_wrapped,
      innermost_of_not_isStage plain]
    exact ⟨rfl, rfl⟩
  · rintro ⟨rfl, rfl⟩
    exact (wrapped_layers_innermost e).symm

end Error

namespace Generator

open Error TokenTables.Tree

/-- Why a run fails, with the error that it gives then. -/
inductive Fails (g : Generator) (s : Settings) (d : Disk) (infile outfile : Text) (time : Instant) :
    Error → Prop
  | missing : d.tree.readText infile = .error .notFound →
      Fails g s d infile outfile time (.inputNotFound infile)
  | unreadable {fault : FileFault} : d.tree.readText infile = .error fault → fault ≠ .notFound →
      Fails g s d infile outfile time (.inputUnreadable infile fault.message)
  | overflow {header : Text} {overflow : ValueRange.Overflow} : d.tree.readText infile = .ok header →
      g.make s (Text.lines header) time = .error overflow →
      Fails g s d infile outfile time (wrapped [⟨g.name, infile⟩] (.tooManyOpcodes overflow))
  | unwritable {header : Text} {artifact : Artifact} {fault : FileFault} :
      d.tree.readText infile = .ok header → g.make s (Text.lines header) time = .ok artifact →
      (d.writeWhole noFailures outfile (Text.utf8 artifact.text)).1 = .error fault →
      Fails g s d infile outfile time (.outputUnwritable outfile fault.message)

variable {g : Generator} {s : Settings} {d : Disk} {infile outfile : Text} {time : Instant} {e : Error}

theorem fails_of_run (failed : (g.run s d infile outfile time).1 = .error e) :
    g.Fails s d infile outfile time e := by
  have runs := runs_run g s d infile outfile time
  generalize g.run s d infile outfile time = outcome at runs failed
  obtain ⟨result, after⟩ := outcome
  subst failed
  cases runs with
  | unread read =>
    obtain ⟨fault, found, rfl⟩ := Disk.headerText_eq_error_iff.1 read
    split
    · next missing => exact .missing (missing ▸ found)
    · next other => exact .unreadable found other
  | overflow read made => exact .overflow (Disk.headerText_eq_ok_iff.1 read) made
  | unwritten read made wrote =>
    exact .unwritable (Disk.headerText_eq_ok_iff.1 read) made (congrArg Prod.fst wrote)

theorem run_of_fails (fails : g.Fails s d infile outfile time e) :
    (g.run s d infile outfile time).1 = .error e := by
  cases fails with
  | missing found =>
    have read := Disk.headerText_eq_error_iff.2 ⟨_, found, rfl⟩
    rw [(Runs.unread read).run_eq, if_pos rfl]
  | unreadable found other =>
    have read := Disk.headerText_eq_error_iff.2 ⟨_, found, rfl⟩
    rw [(Runs.unread read).run_eq, if_neg other]
  | overflow found made => exact congrArg Prod.fst (Runs.overflow (Disk.headerText_eq_ok_iff.2 found) made).run_eq
  | @unwritable header artifact fault found made refused =>
    have wrote : d.writeWhole noFailures outfile (Text.utf8 artifact.text) = (.error fault, _) :=
      Prod.ext refused rfl
    rw [(Runs.unwritten (Disk.headerText_eq_ok_iff.2 found) made wrote).run_eq]

theorem run_eq_error_iff : (g.run s d infile outfile time).1 = .error e ↔ g.Fails s d infile outfile time e :=
  ⟨fails_of_run, run_of_fails⟩

/-- An error in any number of layers has its cause as the innermost error, which is no stage and is its own
innermost, and its message is that of the cause behind the layers, the outermost first. Every error is made
so, in one way. Whatever a run meets, its error tells of a file that could not be read or written, without a
layer, or of an overflow, in one layer with the generator's name and the header's file. -/
theorem errors_in_layers :
    (∀ (layers : List Layer) (cause : Error), cause.isStage = false →
      let e := wrapped layers cause
      e.innermost = cause ∧ e.innermost.isStage = false ∧ e.innermost.innermost = e.innermost ∧
      e.message = layers.flatMap Layer.text ++ cause.message) ∧
    (∀ e : Error, ∃ layers cause, cause.isStage = false ∧ e = wrapped layers cause ∧
      ∀ others other, other.isStage = false → e = wrapped others other → others = layers ∧ other = cause) ∧
    ∀ (g : Generator) (s : Settings) (d : Disk) (infile outfile : Text) (time : Instant) (e : Error),
      ((g.run s d infile outfile time).1 = .error e ↔ g.Fails s d infile outfile time e) ∧
      (g.Fails s d infile outfile time e →
        e.layers = [] ∧ (e = .inputNotFound infile ∨ (∃ cause, e = .inputUnreadable infile cause) ∨
          ∃ cause, e = .outputUnwritable outfile cause) ∨
        e.layers = [⟨g.name, infile⟩] ∧ ∃ overflow, e.innermost = .tooManyOpcodes overflow) := by
  refine ⟨fun layers cause plain => ?_, fun e => ?_, fun g s d infile outfile time e =>
    ⟨run_eq_error_iff, fun fails => ?_⟩⟩
  · have innermost : (wrapped layers cause).innermost = cause :=
      (innermost_wrapped layers cause).trans (innermost_of_not_isStage plain)
    exact ⟨innermost, isStage_innermost _, innermost_innermost _, message_wrapped layers cause⟩
  · refine ⟨e.layers, e.innermost, isStage_innermost e, (wrapped_layers_innermost e).symm, ?_⟩
    intro others other plain same
    obtain ⟨layers, cause⟩ := (eq_wrapped_iff plain).1 same
    exact ⟨layers.symm, cause.symm⟩
  · cases fails with
    | missing => exact .inl ⟨rfl, .inl rfl⟩
    | unreadable => exact .inl ⟨rfl, .inr (.inl ⟨_, rfl⟩)⟩
    | overflow => exact .inr ⟨rfl, _, rfl⟩
    | unwritable => exact .inl ⟨rfl, .inr (.inr ⟨_, rfl⟩)⟩

/-- Two layers, and the one layer of a run whose range has no room. -/
theorem errors_in_layers_overflow :
    let cause : Error := .tooManyOpcodes ⟨300, 255⟩
    let e := wrapped [⟨"build", "all"⟩, ⟨"opcode map", "t.h"⟩] cause
    (cause.isStage = false ∧ e.innermost = cause ∧
      e.message = "build of all: opcode map of t.h: 300 opcodes do not fit in a range of capacity 255") ∧
    ∃ own, (opcode.run { range := ⟨9, 9⟩ } linked "t.h" "o.h" ⟨0, 0, 0⟩).1 = .error own ∧
      own.layers = [⟨"opcode map", "t.h"⟩] ∧ ∃ overflow, own.innermost = .tooManyOpcodes overflow := by
  intro cause e
  obtain ⟨innermost, -, -, message⟩ :=
    errors_in_layers.1 [⟨"build", "all"⟩, ⟨"opcode map", "t.h"⟩] cause rfl
  have failed : (opcode.run { range := ⟨9, 9⟩ } linked "t.h" "o.h" ⟨0, 0, 0⟩).1 =
      .error (.stage "opcode map" "t.h" (.tooManyOpcodes ⟨1, 0⟩)) := by decide +kernel
  have ⟨iff, shape⟩ := errors_in_layers.2.2 opcode { range := ⟨9, 9⟩ } linked "t.h" "o.h" ⟨0, 0, 0⟩
    (.stage "opcode map" "t.h" (.tooManyOpcodes ⟨1, 0⟩))
  refine ⟨⟨rfl, innermost, message.trans (by decide +kernel)⟩, _, failed, ?_⟩
  exact (shape (iff.1 failed)).resolve_left (by simp [layers])

end Generator

end TokenTables
