import TokenTables.Token.Exclusions

/-!
The tokens of a header, in the order of its lines and with repetitions. Lines that name no token are
passed over, and so are tokens in the exclusion set.
-/

namespace TokenTables.Token

/-- What is told of a line that names a token. -/
inductive Sighting where
  | excluded (token : Token)
  | found (token : Token)
deriving DecidableEq

def sightings (lines : List Text) (exclude : Exclusions) : List Sighting :=
  (lines.filterMap ofLine?).map fun token =>
    if exclude.contains token then .excluded token else .found token

def survivors (lines : List Text) (exclude : Exclusions) : List Token :=
  (lines.filterMap ofLine?).filter fun token => !exclude.contains token

@[simp] theorem survivors_append (a b : List Text) (exclude : Exclusions) :
    survivors (a ++ b) exclude = survivors a exclude ++ survivors b exclude := by
  simp [survivors]

theorem survivors_empty (lines : List Text) : survivors lines ∅ = lines.filterMap ofLine? := by
  refine List.filter_eq_self.2 fun token _ => ?_
  simpa [Exclusions.mem_iff] using Exclusions.notMem_empty token

theorem survivors_eq_filter (lines : List Text) (exclude : Exclusions) :
    survivors lines exclude = (survivors lines ∅).filter fun token => !exclude.contains token := by
  rw [survivors_empty, survivors]

end TokenTables.Token
