import TokenTables.Text.Blank

/-!
Tokens are the identifiers of a token header that begin with `TOK_`. A line names a token if its
trimmed text begins so; the token is that text without the commas at its end, and may hold anything.
-/

namespace TokenTables

abbrev Token := Text

namespace Token

def mark : Text := "TOK_"

def ofLine? (line : Text) : Option Token :=
  -- Blanks go before commas, so a blank right before the commas stays.
  let trimmed := Text.trim line
  if Text.beginsWith mark trimmed then some (Text.dropEndWhile (· = ',') trimmed) else none

/-- The token without its mark, if it has one. -/
def stem (token : Token) : Text := (Text.after? mark token).getD token

@[simp] theorem stem_mark_append (rest : Text) : stem (mark ++ rest) = rest := by
  simp [stem]

end Token

end TokenTables
