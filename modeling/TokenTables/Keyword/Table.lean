import TokenTables.Calendar.Stamp
import TokenTables.Settings.Basic
import TokenTables.Text.Lowercase

/-!
The keyword table: a row for every surviving token with its keyword, which is the token without its
mark in lower case. Rows are in code point order of their tokens, so the order of the header's lines
does not show; repeated tokens keep a row each.
-/

namespace TokenTables

structure KeywordRow where
  token : Token
  keyword : Text
deriving DecidableEq, Repr

namespace KeywordRow

def ofToken (token : Token) : KeywordRow := ⟨token, Text.lowercase (Token.stem token)⟩

def line (e : KeywordRow) : Text :=
  "    \x7b" ++ e.token ++ ", \"" ++ e.keyword ++ "\"\x7d,\n"

end KeywordRow

structure KeywordTable where
  exclude : Exclusions
  tokensHeader : Text
  mapHeader : Text

namespace KeywordTable

/-- Tokens that stand for no keyword: literals, operators and punctuation. -/
def nonKeywords : List Token :=
  ["TOK_ERROR", "TOK_END_INPUT", "TOK_STRING_LITERAL", "TOK_IDENTIFIER", "TOK_UNUM_LITERAL",
   "TOK_INUM_LITERAL", "TOK_FNUM_LITERAL", "TOK_PLUS", "TOK_MINUS", "TOK_STAR", "TOK_SLASH",
   "TOK_BWSHL", "TOK_BWSHR", "TOK_BWAND", "TOK_BWOR", "TOK_XOR", "TOK_BWNOT", "TOK_OCURLY",
   "TOK_CCURLY", "TOK_OPAREN", "TOK_CPAREN", "TOK_OSQUARE", "TOK_CSQUARE", "TOK_EQUAL",
   "TOK_PERIOD", "TOK_COMMA"]

def ofSettings (s : Settings) : KeywordTable where
  exclude := s.exclusionsFor (.ofList nonKeywords)
  tokensHeader := s.tokensHeader
  mapHeader := s.mapHeader

def rows (tokens : List Token) : List KeywordRow :=
  (Text.sort tokens).map KeywordRow.ofToken

@[simp] theorem length_rows (tokens : List Token) : (rows tokens).length = tokens.length := by
  simp [rows, Text.sort]

def opening (k : KeywordTable) (time : Instant) : Text :=
  heading k.tokensHeader time ++ "\n#include <stdlib.h>\n\n" ++
    "\n#include \"" ++ k.tokensHeader ++ "\"\n\n" ++
    "\n#include \"" ++ k.mapHeader ++ "\"\n\n" ++
    "keyword_map_t keyword_map[] = \x7b\n"

def closing : Text :=
  "\x7d;\n\nconst size_t num_keywords = (sizeof(keyword_map)/sizeof(keyword_map_t));\n\n"

def render (k : KeywordTable) (rows : List KeywordRow) (time : Instant) : Text :=
  k.opening time ++ rows.flatMap KeywordRow.line ++ closing

end KeywordTable

end TokenTables
