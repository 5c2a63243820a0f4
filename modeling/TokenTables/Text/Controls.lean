import TokenTables.Text.Basic

/-!
Text without control characters and control sequences, for outputs that interpret neither. A sequence
begins with ESC, and the characters after it say where it ends. White space among the control
characters is kept, inside a sequence too, apart from the strings that some sequences carry.

What is kept comes in stretches, each up to the next control character. White space inside a sequence
opens a stretch, and the two readings differ in what follows it: a finished text has left the sequence,
while a stream is still in it.
-/

namespace TokenTables.Text

inductive Control where
  | outside
  | escape
  | intermediate
  | parameters
  | deviceStart
  | deviceParameters
  | deviceIntermediate
  | hidden
  | command
deriving DecidableEq, Repr

def isBetween (low high : Nat) (c : Char) : Bool := low ≤ c.toNat && c.toNat ≤ high

/-- Hidden strings end at the byte 9C, also where it is part of a character. -/
def endsHidden (c : Char) : Bool := (String.utf8EncodeChar c).contains 0x9C

namespace Control

def afterEscape (c : Char) : Control :=
  if isBetween 0x20 0x2F c then intermediate
  else if c = '[' then parameters
  else if c = ']' then command
  else if c = 'P' then deviceStart
  else if c = 'X' || c = '^' || c = '_' then hidden
  else if isBetween 0x30 0x7E c then outside
  else escape

def next (s : Control) (c : Char) : Control :=
  if c = '\x1b' then escape
  else if c = '\x18' || c = '\x1a' then outside
  else
    match s with
    | outside => outside
    | escape => afterEscape c
    | intermediate => if isBetween 0x30 0x7E c then outside else intermediate
    | parameters => if isBetween 0x40 0x7E c then outside else parameters
    | deviceStart =>
      if isBetween 0x20 0x2F c then deviceIntermediate
      else if isBetween 0x30 0x3F c then deviceParameters
      else if isBetween 0x40 0x7E c then hidden
      else deviceStart
    | deviceParameters =>
      if isBetween 0x20 0x2F c then deviceIntermediate
      else if isBetween 0x3C 0x7E c then hidden
      else deviceParameters
    | deviceIntermediate => if isBetween 0x30 0x7E c then hidden else deviceIntermediate
    | hidden => if endsHidden c then outside else hidden
    | command => if c = '\x07' then outside else command

end Control

def isControlSpace (c : Char) : Bool := c = '\t' || c = '\n' || c = '\x0c' || c = '\r'

def isShown (c : Char) : Bool := isControlSpace c || (0x20 ≤ c.toNat && c.toNat ≠ 0x7F)

def Control.keeps (c : Char) : Control → Bool
  | outside => isShown c
  | escape | intermediate | parameters => isControlSpace c
  | _ => false

/-- What is kept from `s` on; `shows` says that a stretch is going on, and `lasting` that a sequence
outlasts it. A character beyond ASCII ends the sequence for good. -/
def shownFrom (lasting : Bool) : (s : Control) → (shows : Bool) → Text → Text
  | _, _, [] => []
  | s, true, c :: t =>
    if isShown c then
      c :: shownFrom lasting (if c.toNat < 0x80 then s else .outside) true t
    else shownFrom lasting (s.next c) false t
  | s, false, c :: t =>
    if s.keeps c then c :: shownFrom lasting (if lasting then s else .outside) true t
    else shownFrom lasting (s.next c) false t

def shown (t : Text) : Text := shownFrom false .outside false t

/-- A text as it is shown when it is written to a stream. -/
def streamed (t : Text) : Text := shownFrom true .outside false t

end TokenTables.Text
