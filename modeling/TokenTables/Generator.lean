import TokenTables.Opcode.Table
import TokenTables.Token.Survivors

/-!
The two generators. Both take the surviving tokens of a header, turn them into rows and render these
as the whole text of a file; a generator differs in what it excludes, its rows and its text.
-/

namespace TokenTables

structure Artifact where
  text : Text
  count : Nat
deriving DecidableEq, Repr

def KeywordTable.make (k : KeywordTable) (lines : List Text) (time : Instant) : Artifact :=
  let rows := KeywordTable.rows (Token.survivors lines k.exclude)
  ⟨k.render rows time, rows.length⟩

def OpcodeTable.make (o : OpcodeTable) (lines : List Text) (time : Instant) :
    Except ValueRange.Overflow Artifact :=
  (o.rows (Token.survivors lines o.exclude)).map fun rows => ⟨o.render rows time, rows.length⟩

inductive Generator where
  | keyword
  | opcode
deriving DecidableEq, Repr

namespace Generator

def name : Generator → Text
  | keyword => "keyword map"
  | opcode => "opcode map"

def exclusions (g : Generator) (s : Settings) : Exclusions :=
  match g with
  | keyword => (KeywordTable.ofSettings s).exclude
  | opcode => (OpcodeTable.ofSettings s).exclude

def make (g : Generator) (s : Settings) (lines : List Text) (time : Instant) :
    Except ValueRange.Overflow Artifact :=
  match g with
  | keyword => .ok ((KeywordTable.ofSettings s).make lines time)
  | opcode => (OpcodeTable.ofSettings s).make lines time

end Generator

end TokenTables
