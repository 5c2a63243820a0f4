import TokenTables.Opcode.Range
import TokenTables.Token.Exclusions

/-!
What a user may set for a table. A list under `exclude` takes the place of a table's own exclusions;
tokens under `excludeExtra` are excluded besides.
-/

namespace TokenTables

structure Settings where
  exclude : Option (List Token) := none
  excludeExtra : List Token := []
  tokensHeader : Text := "tokens.h"
  mapHeader : Text := "keyword_map.h"
  guard : Text := "__OPCODES_H__"
  range : ValueRange := {}
deriving DecidableEq

namespace Settings

/-- The exclusions of a table whose own are `default`. -/
def exclusionsFor (s : Settings) (default : Exclusions) : Exclusions :=
  (s.exclude.elim default Exclusions.ofList).insertMany s.excludeExtra

@[simp] theorem mem_exclusionsFor {s : Settings} {default : Exclusions} {token : Token} :
    token ∈ s.exclusionsFor default ↔
      (match s.exclude with
        | some list => token ∈ list
        | none => token ∈ default) ∨ token ∈ s.excludeExtra := by
  cases h : s.exclude <;> simp [exclusionsFor, h]

end Settings

end TokenTables
