import TokenTables.Pattern.Expression
import TokenTables.Text.Lines

/-!
What is wrong with a written pattern, and where. The wording shows the pattern with its faulty parts
underlined. A pattern of several lines has its lines numbered and stands between rules; parts that run
over more than one line are not underlined but named below it.
-/

namespace TokenTables

namespace Pattern

inductive Reason where
  | setEscape
  | setRangeOrder
  | setRangeBoundary
  | setUnclosed
  | decimalTooLarge
  | hexEmpty
  | hexNoCharacter
  | hexDigit
  | escapeUnfinished
  | escapeUnknown
  | flagNegationDangling
  | flagRepeated
  | flagNegationRepeated
  | flagsUnfinished
  | flagUnknown
  | nameRepeated
  | nameEmpty
  | nameCharacter
  | nameUnfinished
  | groupUnclosed
  | groupUnopened
  | tooDeep
  | countOrder
  | countMissing
  | countUnclosed
  | nothingRepeated
  | boundaryUnclosed
  | boundaryUnknown
  | boundaryUnfinished
  | propertyName
  | backreference
  | lookaround
  | unicodeDisallowed
  | notUtf8
  | propertyUnknown
  | propertyValueUnknown
  | shorthandUnavailable
  | caselessUnavailable
deriving DecidableEq, Repr

/-- Brackets, groups and repetitions nest no deeper. -/
def deepestNesting : Nat := 250

def Reason.message : Reason → Text
  | setEscape => "invalid escape sequence found in character class"
  | setRangeOrder => "invalid character class range, the start must be <= the end"
  | setRangeBoundary => "invalid range boundary, must be a literal"
  | setUnclosed => "unclosed character class"
  | decimalTooLarge => "decimal literal invalid"
  | hexEmpty => "hexadecimal literal empty"
  | hexNoCharacter => "hexadecimal literal is not a Unicode scalar value"
  | hexDigit => "invalid hexadecimal digit"
  | escapeUnfinished => "incomplete escape sequence, reached end of pattern prematurely"
  | escapeUnknown => "unrecognized escape sequence"
  | flagNegationDangling => "dangling flag negation operator"
  | flagRepeated => "duplicate flag"
  | flagNegationRepeated => "flag negation operator repeated"
  | flagsUnfinished => "expected flag but got end of regex"
  | flagUnknown => "unrecognized flag"
  | nameRepeated => "duplicate capture group name"
  | nameEmpty => "empty capture group name"
  | nameCharacter => "invalid capture group character"
  | nameUnfinished => "unclosed capture group name"
  | groupUnclosed => "unclosed group"
  | groupUnopened => "unopened group"
  | tooDeep =>
    "exceed the maximum number of nested parentheses/brackets (" ++ Text.decimal deepestNesting ++
      ")"
  | countOrder => "invalid repetition count range, the start must be <= the end"
  | countMissing => "repetition quantifier expects a valid decimal"
  | countUnclosed => "unclosed counted repetition"
  | nothingRepeated => "repetition operator missing expression"
  | boundaryUnclosed =>
    "special word boundary assertion is either unclosed or contains an invalid character"
  | boundaryUnknown =>
    "unrecognized special word boundary assertion, valid choices are: start, end, start-half or " ++
      "end-half"
  | boundaryUnfinished =>
    "found either the beginning of a special word boundary or a bounded repetition on a \\b with " ++
      "an opening brace, but no closing brace"
  | propertyName => "invalid Unicode character class"
  | backreference => "backreferences are not supported"
  | lookaround => "look-around, including look-ahead and look-behind, is not supported"
  | unicodeDisallowed => "Unicode not allowed here"
  | notUtf8 => "pattern can match invalid UTF-8"
  | propertyUnknown => "Unicode property not found"
  | propertyValueUnknown => "Unicode property value not found"
  | shorthandUnavailable =>
    "Unicode-aware Perl class not found (make sure the unicode-perl feature is enabled)"
  | caselessUnavailable =>
    "Unicode-aware case insensitivity matching is not available (make sure the unicode-case " ++
      "feature is enabled)"

structure Fault where
  reason : Reason
  span : Span
  earlier : Option Span
deriving Repr

namespace Fault

def spans (f : Fault) : List Span := (f.span :: f.earlier.toList).mergeSort Span.le

/-- Carets below the spans from column `done + 1` on; an empty span gets one too. -/
def carets : (done : Nat) → List Span → Text
  | _, [] => []
  | done, s :: rest =>
    let gap := s.start.column - 1 - done
    let width := max 1 (s.stop.column - s.start.column)
    List.replicate gap ' ' ++ List.replicate width '^' ++ carets (done + gap + width) rest

def caretLine (margin : Nat) : List Span → Text
  | [] => []
  | here => List.replicate margin ' ' ++ carets 0 here ++ ['\n']

def underlined (spans : List Span) (margin : Nat → Text) : (number : Nat) → List Text → Text
  | _, [] => []
  | number, line :: rest =>
    margin number ++ line ++ ['\n'] ++
      caretLine (margin number).length (spans.filter (·.start.line = number)) ++
      underlined spans margin (number + 1) rest

def rule : Text := List.replicate 79 '~' ++ ['\n']

/-- A pattern that ends with a line feed has a line after it. -/
def lineCount (pattern : Text) : Nat :=
  (Text.lines pattern).length + if pattern.getLast? = some '\n' then 1 else 0

def numberMargin (count number : Nat) : Text :=
  Text.padLeft ' ' (Text.decimal count).length (Text.decimal number) ++ ": "

def throughLines (s : Span) : Text :=
  "on line " ++ Text.decimal s.start.line ++ " (column " ++ Text.decimal s.start.column ++
    ") through line " ++ Text.decimal s.stop.line ++ " (column " ++
    Text.decimal (s.stop.column - 1) ++ ")"

def picture (pattern : Text) (f : Fault) : Text :=
  let onOneLine := f.spans.filter Span.isOnOneLine
  let overLines := f.spans.filter fun s => !s.isOnOneLine
  if pattern.contains '\n' then
    rule ++ underlined onOneLine (numberMargin (lineCount pattern)) 1 (Text.lines pattern) ++ rule ++
      overLines.flatMap fun s => throughLines s ++ ['\n']
  else underlined onOneLine (fun _ => "    ") 1 (Text.lines pattern)

def message (pattern : Text) (f : Fault) : Text :=
  "regex parse error:\n" ++ f.picture pattern ++ "error: " ++ f.reason.message

end Fault

end Pattern

end TokenTables
