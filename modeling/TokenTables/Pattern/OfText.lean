import TokenTables.Pattern.Meaning
import TokenTables.Pattern.Nesting
import TokenTables.Pattern.Reader
import TokenTables.Pattern.Size

/-!
From a written pattern to the pattern, or to what is wrong with it. Reading comes first, then the depth
of nesting, then the meaning, the size and last the edges of words that no table tells.
-/

namespace TokenTables

namespace Pattern

inductive Refusal where
  | fault (f : Fault)
  | tooLarge
  | scriptEdge
deriving Repr

def Refusal.message (pattern : Text) : Refusal → Text
  | fault f => f.message pattern
  | tooLarge => "Compiled regex exceeds size limit of " ++ Text.decimal mostSize ++ " bytes."
  | scriptEdge => "error building NFA"

/-- A pattern of written text, without regard to what compiling it takes. -/
def meaningOfText (text : Text) : Except Fault Pattern := do
  let e ← Expr.ofText text
  e.checkNesting
  e.meaning.run' .usual

def ofText (text : Text) : Except Refusal Pattern :=
  match meaningOfText text with
  | .error f => .error (.fault f)
  | .ok p =>
    if p.isTooLarge then .error .tooLarge
    else if p.hasScriptEdge then .error .scriptEdge
    else .ok p

end Pattern

end TokenTables
