import TokenTables.Text.Utf8

/-!
Why a text is not JSON, and where. A fault remembers how many bytes were still unread when it was
found, and its position follows from that and the whole text: lines count from 1, and a column is the
number of bytes read in the line. A byte that shows the fault counts as read.
-/

namespace TokenTables.Json

inductive Reason where
  | listUnfinished
  | stringUnfinished
  | valueUnfinished
  | objectUnfinished
  | controlInString
  | listSeparator
  | memberSeparator
  | colon
  | word
  | value
  | escape
  | number
  | keyNotString
  | loneSurrogate
  | numberTooLarge
  | tooDeep
  | textAfterValue
  | trailingComma
  | surrogateUnpaired
deriving DecidableEq, Repr

def Reason.message : Reason → Text
  | listUnfinished => "EOF while parsing a list"
  | stringUnfinished => "EOF while parsing a string"
  | valueUnfinished => "EOF while parsing a value"
  | objectUnfinished => "EOF while parsing an object"
  | controlInString => "control character (\\u0000-\\u001F) found while parsing a string"
  | listSeparator => "expected `,` or `]`"
  | memberSeparator => "expected `,` or `\x7d`"
  | colon => "expected `:`"
  | word => "expected ident"
  | value => "expected value"
  | escape => "invalid escape"
  | number => "invalid number"
  | keyNotString => "key must be a string"
  | loneSurrogate => "lone leading surrogate in hex escape"
  | numberTooLarge => "number out of range"
  | tooDeep => "recursion limit exceeded"
  | textAfterValue => "trailing characters"
  | trailingComma => "trailing comma"
  | surrogateUnpaired => "unexpected end of hex escape"

structure Fault where
  reason : Reason
  unread : Nat
deriving DecidableEq, Repr

/-- A fault shown by the first byte of `rest`, or by its end. -/
def Fault.at (reason : Reason) (rest : Text) : Fault := ⟨reason, Text.byteSize rest - 1⟩

/-- A fault of what was read before `rest`. -/
def Fault.before (reason : Reason) (rest : Text) : Fault := ⟨reason, Text.byteSize rest⟩

structure Position where
  line : Nat
  column : Nat
deriving DecidableEq, Repr

def Position.advance (start : Position) : (bytes : Nat) → Text → Position
  | 0, _ => start
  | _, [] => start
  | bytes + 1, c :: t =>
    if c = '\n' then advance ⟨start.line + 1, 0⟩ bytes t
    else if bytes + 1 ≤ c.utf8Size then ⟨start.line, start.column + (bytes + 1)⟩
    else advance ⟨start.line, start.column + c.utf8Size⟩ (bytes + 1 - c.utf8Size) t

def Fault.position (f : Fault) (text : Text) : Position :=
  Position.advance ⟨1, 0⟩ (Text.byteSize text - f.unread) text

structure Diagnosis where
  reason : Reason
  position : Position
deriving DecidableEq, Repr

def Fault.diagnose (f : Fault) (text : Text) : Diagnosis := ⟨f.reason, f.position text⟩

def Diagnosis.message (d : Diagnosis) : Text :=
  d.reason.message ++ " at line " ++ Text.decimal d.position.line ++ " column " ++
    Text.decimal d.position.column

end TokenTables.Json
