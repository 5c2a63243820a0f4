import Mathlib.Data.Finset.Basic
import Mathlib.Data.Finset.Lattice.Basic
import Mathlib.Data.Finset.Dedup
import TokenTables.Settings.Basic
import TokenTables.Token.Survivors

/-!
Exclusion sets as finite sets. However a set is built, step by step, it holds the tokens of the set
expression that its steps spell, and two sets are equal exactly if these expressions have one value. So the
survivors of a header are the tokens outside that value, in their order and as often as they stand there.
-/

namespace TokenTables

namespace Exclusions

/-- One step of building a set out of the one at hand. A new set is empty, listed or collected from
tokens; the others keep or replace what is there. -/
inductive Step where
  | empty
  | list (tokens : List Token)
  | collect (tokens : List Token)
  | union (more : List Token)
  | resolve (settings : Settings)

def apply (s : Exclusions) : Step → Exclusions
  | .empty => ∅
  | .list tokens | .collect tokens => ofList tokens
  | .union more => s.insertMany more
  | .resolve settings => settings.exclusionsFor s

def run (steps : List Step) : Exclusions := steps.foldl apply ∅

namespace Step

def members (before : Finset Token) : Step → Finset Token
  | empty => ∅
  | list tokens | collect tokens => tokens.toFinset
  | union more => before ∪ more.toFinset
  | resolve settings =>
    (settings.exclude.elim before List.toFinset) ∪ settings.excludeExtra.toFinset

/-- Settings that are applied again change nothing more. -/
theorem members_resolve_resolve (settings : Settings) (before : Finset Token) :
    (resolve settings).members ((resolve settings).members before) =
      (resolve settings).members before := by
  cases given : settings.exclude with
  | none => simp [members, given, Finset.union_assoc]
  | some list => simp [members, given]

end Step

def membersOf (steps : List Step) : Finset Token := steps.foldl Step.members ∅

def Represents (s : Exclusions) (members : Finset Token) : Prop := ∀ token, token ∈ s ↔ token ∈ members

namespace Represents

variable {s t : Exclusions} {a b : Finset Token}

theorem empty : Represents ∅ ∅ := fun token => by simp

theorem apply (h : Represents s a) (step : Step) : Represents (s.apply step) (step.members a) := by
  intro token
  cases step with
  | empty => exact empty token
  | list tokens => simp [Exclusions.apply, Step.members]
  | collect tokens => simp [Exclusions.apply, Step.members]
  | union more => simp [Exclusions.apply, Step.members, h token]
  | resolve settings =>
    cases given : settings.exclude with
    | none => simp [Exclusions.apply, Step.members, given, h token]
    | some list => simp [Exclusions.apply, Step.members, given]

theorem foldl (h : Represents s a) (steps : List Step) :
    Represents (steps.foldl Exclusions.apply s) (steps.foldl Step.members a) := by
  induction steps generalizing s a with
  | nil => exact h
  | cons step steps ih => exact ih (h.apply step)

theorem run (steps : List Step) : Represents (run steps) (membersOf steps) := empty.foldl steps

theorem beq_iff (hs : Represents s a) (ht : Represents t b) : (s == t) = true ↔ a = b := by
  rw [Exclusions.beq_iff, Finset.ext_iff]
  exact forall_congr' fun token => by rw [hs token, ht token]

theorem survivors_eq (h : Represents s a) (lines : List Text) :
    Token.survivors lines s = (Token.survivors lines ∅).filter (· ∉ a) := by
  rw [Token.survivors_eq_filter]
  refine List.filter_congr fun token _ => ?_
  have same : s.contains token = decide (token ∈ a) := by
    rw [Bool.eq_iff_iff, decide_eq_true_iff]
    exact h token
  rw [same, decide_not]

end Represents

theorem survivors_insertMany (s : Exclusions) (more : List Token) (lines : List Text) :
    Token.survivors lines (s.insertMany more) = (Token.survivors lines s).filter (· ∉ more) := by
  rw [Token.survivors, Token.survivors, List.filter_filter]
  refine List.filter_congr fun token _ => ?_
  simp [contains, insertMany, Bool.and_comm]

/-- Any run of steps builds a set in the mathematical sense: it holds the tokens of its set expression, it
equals another exactly if their expressions have one value, and settings count once however often they
are applied. Survivors are the tokens outside the set, so equal sets leave the same ones, and excluding
more tokens drops these from what was left. -/
theorem run_is_set (steps : List Step) :
    (∀ token, (run steps).contains token = true ↔ token ∈ membersOf steps) ∧
    (∀ others, (run steps == run others) = true ↔ membersOf steps = membersOf others) ∧
    (∀ settings, (run (steps ++ [.resolve settings, .resolve settings]) ==
      run (steps ++ [.resolve settings])) = true) ∧
    (∀ lines, Token.survivors lines (run steps) =
      (Token.survivors lines ∅).filter (· ∉ membersOf steps)) ∧
    (∀ others, (run steps == run others) = true →
      ∀ lines, Token.survivors lines (run steps) = Token.survivors lines (run others)) ∧
    ∀ more lines, Token.survivors lines (run (steps ++ [.union more])) =
      (Token.survivors lines (run steps)).filter (· ∉ more) := by
  have here := Represents.run steps
  refine ⟨here, fun others => here.beq_iff (.run others), fun settings => ?_, here.survivors_eq,
    fun others same lines => ?_, fun more lines => ?_⟩
  · refine ((Represents.run _).beq_iff (.run _)).2 ?_
    simp only [membersOf, List.foldl_append, List.foldl_cons, List.foldl_nil,
      Step.members_resolve_resolve]
  · have value := (here.beq_iff (.run others)).1 same
    rw [here.survivors_eq, (Represents.run others).survivors_eq, value]
  · have last : run (steps ++ [.union more]) = (run steps).insertMany more := by
      simp only [run, List.foldl_append, List.foldl_cons, List.foldl_nil, apply]
    rw [last, survivors_insertMany]

end Exclusions

end TokenTables
