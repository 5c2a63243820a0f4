import TokenTables.Opcode.Range
import TokenTables.Text.Basic

/-!
Why no table was made. A failure inside a stage carries the stage's name and the file it worked on, in
any number of layers; the innermost is the failure under all layers.
-/

namespace TokenTables

inductive Error where
  | argument (text : Text)
  | inputNotFound (path : Text)
  | inputUnreadable (path cause : Text)
  | outputUnwritable (path cause : Text)
  | tooManyOpcodes (overflow : ValueRange.Overflow)
  | stage (name path : Text) (source : Error)
deriving DecidableEq, Repr

namespace Error

def innermost : Error → Error
  | stage _ _ source => source.innermost
  | e => e

def message : Error → Text
  | argument text => "argument error: " ++ text
  | inputNotFound path => "input file not found: " ++ path
  | inputUnreadable path cause => "could not read input file " ++ path ++ ": " ++ cause
  | outputUnwritable path cause => "could not write output file " ++ path ++ ": " ++ cause
  | tooManyOpcodes overflow =>
    Text.decimal overflow.count ++ " opcodes do not fit in a range of capacity " ++
      Text.decimal overflow.capacity
  | stage name path source => name ++ " of " ++ path ++ ": " ++ source.message

@[simp] theorem innermost_innermost (e : Error) : e.innermost.innermost = e.innermost := by
  induction e with
  | stage _ _ _ ih => simpa [innermost] using ih
  | _ => rfl

end Error

end TokenTables
