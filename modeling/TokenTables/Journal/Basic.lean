import TokenTables.Text.Controls

/-!
Journal records: how grave a record is, which part of the program it comes from, and its message.
-/

namespace TokenTables.Journal

inductive Level where
  | error
  | warn
  | info
  | debug
  | trace
deriving DecidableEq, Repr

namespace Level

def name : Level → Text
  | error => "ERROR"
  | warn => "WARN"
  | info => "INFO"
  | debug => "DEBUG"
  | trace => "TRACE"

def rank : Level → Nat
  | error => 1
  | warn => 2
  | info => 3
  | debug => 4
  | trace => 5

def all : List Level := [error, warn, info, debug, trace]

end Level

structure Record where
  level : Level
  source : Text
  message : Text
deriving DecidableEq, Repr

def indented (message : Text) : Text :=
  message.flatMap fun c => if c = '\n' then ("\n    " : Text) else [c]

/-- The record as a line, with the text that stands for its time. What is no terminal is spared the
control sequences of the message; one that is left open can take the end of the line with it. -/
def Record.line (r : Record) (clock : Text) : Text :=
  Text.streamed ("[" ++ clock ++ " " ++ Text.padRight ' ' 5 r.level.name ++ " " ++ r.source ++ "] " ++
    indented r.message ++ "\n")

end TokenTables.Journal
