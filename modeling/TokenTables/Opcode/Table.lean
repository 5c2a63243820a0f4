import TokenTables.Calendar.Stamp
import TokenTables.Keyword.Table

/-!
The opcode enumeration: surviving tokens in the order of the header, numbered upwards so that the last
takes the highest value of the range. The order is never changed, since sorting would renumber opcodes
whenever a token is added.
-/

namespace TokenTables

structure OpcodeRow where
  name : Text
  value : UInt8
deriving DecidableEq, Repr

namespace OpcodeRow

def mark : Text := "OP_"

/-- A token's opcode symbol; a text without the mark of a token stands for itself. -/
def nameOf (token : Token) : Text :=
  match Text.after? Token.mark token with
  | some stem => mark ++ stem
  | none => token

def line (e : OpcodeRow) : Text :=
  "    " ++ e.name ++ " = 0x" ++ Text.hexByte e.value ++ ",\n"

end OpcodeRow

structure OpcodeTable where
  exclude : Exclusions
  range : ValueRange
  tokensHeader : Text
  guard : Text

namespace OpcodeTable

def registers : List Token :=
  ["TOK_R0", "TOK_R1", "TOK_R2", "TOK_R3", "TOK_R4", "TOK_R5", "TOK_R6", "TOK_R7",
   "TOK_R8", "TOK_R9", "TOK_R10", "TOK_R11", "TOK_R12", "TOK_R13", "TOK_R14", "TOK_R15",
   "TOK_R16", "TOK_R17", "TOK_R18", "TOK_R19", "TOK_R20", "TOK_R21", "TOK_R22", "TOK_R23",
   "TOK_R24", "TOK_R25", "TOK_R26", "TOK_R27", "TOK_R28", "TOK_R29", "TOK_R30", "TOK_R31"]

def directives : List Token := ["TOK_SECTION", "TOK_INCLUDE", "TOK_GLOBAL", "TOK_CONST"]

def integerTypes : List Token :=
  ["TOK_INT8", "TOK_INT16", "TOK_INT32", "TOK_INT64",
   "TOK_UINT8", "TOK_UINT16", "TOK_UINT32", "TOK_UINT64"]

def nonInstructions : List Token := registers ++ directives ++ integerTypes

/-- What the keyword table leaves out, and the non-instructions besides. -/
def nonOpcodes : Exclusions :=
  (Exclusions.ofList KeywordTable.nonKeywords).insertMany nonInstructions

def ofSettings (s : Settings) : OpcodeTable where
  exclude := s.exclusionsFor nonOpcodes
  range := s.range
  tokensHeader := s.tokensHeader
  guard := s.guard

/-- The tokens numbered from `first`. -/
def rowsFrom (first : UInt8) : List Token → List OpcodeRow
  | [] => []
  | token :: rest => ⟨OpcodeRow.nameOf token, first⟩ :: rowsFrom (first + 1) rest

@[simp] theorem length_rowsFrom (first : UInt8) (tokens : List Token) :
    (rowsFrom first tokens).length = tokens.length := by
  induction tokens generalizing first with
  | nil => rfl
  | cons token rest ih => simp [rowsFrom, ih]

def rows (o : OpcodeTable) (tokens : List Token) : Except ValueRange.Overflow (List OpcodeRow) :=
  (o.range.lowest tokens.length).map fun first => rowsFrom first tokens

def opening (o : OpcodeTable) (time : Instant) : Text :=
  heading o.tokensHeader time ++ "\n#ifndef " ++ o.guard ++ "\n#define " ++ o.guard ++ "\n\n" ++
    "typedef enum \x7b\n"

def closing : Text := "\x7d opcode_t;\n\n#endif\n\n"

def render (o : OpcodeTable) (rows : List OpcodeRow) (time : Instant) : Text :=
  o.opening time ++ rows.flatMap OpcodeRow.line ++ closing

end OpcodeTable

end TokenTables
