import TokenTables.Json.Magnitude
import TokenTables.Json.StringBody

/-!
Reading a JSON text. Every reader takes the text from where it stands and returns what it read with
the rest. Containers nest at most 127 deep; an array or object passes the reader of the depth below to
the loop over its items, which takes one unit of `room` per item, and a text has no more items than
characters.
-/

namespace TokenTables.Json

abbrev Reader (α : Type) := Text → Except Fault (α × Text)

namespace Reader

def isSpace (c : Char) : Bool := c = ' ' || c = '\n' || c = '\t' || c = '\r'

def skipSpace (t : Text) : Text := t.dropWhile isSpace

def digits (t : Text) : Text × Text := (t.takeWhile Char.isDigit, t.dropWhile Char.isDigit)

/-- A whole part begins with zero only if it is zero. -/
def wholePart : Reader Text
  | [] => .error (.at .valueUnfinished [])
  | '0' :: rest =>
    if (digits rest).1.isEmpty then .ok (['0'], rest) else .error (.at .number rest)
  | c :: rest =>
    if c.isDigit then .ok (digits (c :: rest)) else .error (.at .number (c :: rest))

def fractionPart : Reader (Option Text)
  | '.' :: rest =>
    match digits rest with
    | ([], []) => .error (.at .valueUnfinished [])
    | ([], rest) => .error (.at .number rest)
    | (ds, rest) => .ok (some ds, rest)
  | rest => .ok (none, rest)

def exponentSign : Text → Bool × Text
  | '+' :: rest => (false, rest)
  | '-' :: rest => (true, rest)
  | rest => (false, rest)

def exponentPart : Reader (Option Exponent)
  | [] => .ok (none, [])
  | c :: rest =>
    if c = 'e' ∨ c = 'E' then
      let (negative, rest) := exponentSign rest
      match digits rest with
      | ([], []) => .error (.at .valueUnfinished [])
      | ([], rest) => .error (.at .number rest)
      | (ds, rest) => .ok (some ⟨negative, ds⟩, rest)
    else .ok (none, c :: rest)

def numberSign : Text → Bool × Text
  | '-' :: rest => (true, rest)
  | rest => (false, rest)

def number : Reader Number := fun t => do
  let (negative, rest) := numberSign t
  let (whole, rest) ← wholePart rest
  let (fraction, rest) ← fractionPart rest
  let (exponent, rest) ← exponentPart rest
  let n : Number := ⟨negative, whole, fraction, exponent⟩
  match n.excess? with
  | none => .ok (n, rest)
  | some unread => .error ⟨.numberTooLarge, Text.byteSize rest + unread⟩

def word (val : Json) : (expected : Text) → Reader Json
  | [], rest => .ok (val, rest)
  | _ :: _, [] => .error (.at .valueUnfinished [])
  | e :: expected, c :: rest =>
    if e = c then word val expected rest else .error (.at .word (c :: rest))

def items (item : Reader Json) : (room : Nat) → Reader (List Json)
  | 0, t => .error (.at .listUnfinished t)
  | room + 1, t => do
    let (val, rest) ← item t
    match skipSpace rest with
    | [] => .error (.at .listUnfinished [])
    | ']' :: rest => .ok ([val], rest)
    | ',' :: rest =>
      match skipSpace rest with
      | [] => .error (.at .valueUnfinished [])
      | ']' :: rest => .error (.at .trailingComma (']' :: rest))
      | next => do
        let (vals, rest) ← items item room next
        .ok (val :: vals, rest)
    | rest => .error (.at .listSeparator rest)

def arrayBody (item : Reader Json) : Reader Json := fun t =>
  match skipSpace t with
  | [] => .error (.at .listUnfinished [])
  | ']' :: rest => .ok (.array [], rest)
  | rest => do
    let (vals, rest) ← items item rest.length rest
    .ok (.array vals, rest)

def member (item : Reader Json) : Reader (Text × Json)
  | '"' :: rest => do
    let (key, rest) ← stringBody rest
    match skipSpace rest with
    | [] => .error (.at .objectUnfinished [])
    | ':' :: rest => do
      let (val, rest) ← item rest
      .ok ((key, val), rest)
    | rest => .error (.at .colon rest)
  | rest => .error (.at .keyNotString rest)

def members (item : Reader Json) : (room : Nat) → Reader (List (Text × Json))
  | 0, t => .error (.at .objectUnfinished t)
  | room + 1, t => do
    let (first, rest) ← member item t
    match skipSpace rest with
    | [] => .error (.at .objectUnfinished [])
    | '\x7d' :: rest => .ok ([first], rest)
    | ',' :: rest =>
      match skipSpace rest with
      | [] => .error (.at .valueUnfinished [])
      | '\x7d' :: rest => .error (.at .trailingComma ('\x7d' :: rest))
      | next => do
        let (others, rest) ← members item room next
        .ok (first :: others, rest)
    | rest => .error (.at .memberSeparator rest)

def objectBody (item : Reader Json) : Reader Json := fun t =>
  match skipSpace t with
  | [] => .error (.at .objectUnfinished [])
  | '\x7d' :: rest => .ok (.object [], rest)
  | rest => do
    let (ms, rest) ← members item rest.length rest
    .ok (.object ms, rest)

/-- A value whose items, if it is a container, are read by `inner?`. -/
def valueWith (inner? : Option (Reader Json)) : Reader Json := fun t =>
  match skipSpace t with
  | [] => .error (.at .valueUnfinished [])
  | 'n' :: rest => word .null "ull" rest
  | 't' :: rest => word (.bool true) "rue" rest
  | 'f' :: rest => word (.bool false) "alse" rest
  | '"' :: rest => do
    let (body, rest) ← stringBody rest
    .ok (.string body, rest)
  | '[' :: rest =>
    match inner? with
    | some item => arrayBody item rest
    | none => .error (.at .tooDeep ('[' :: rest))
  | '\x7b' :: rest =>
    match inner? with
    | some item => objectBody item rest
    | none => .error (.at .tooDeep ('\x7b' :: rest))
  | c :: rest =>
    if c = '-' ∨ c.isDigit then do
      let (n, rest) ← number (c :: rest)
      .ok (.number n, rest)
    else .error (.at .value (c :: rest))

/-- A value whose containers nest at most `depth` deep. -/
def value : (depth : Nat) → Reader Json
  | 0 => valueWith none
  | depth + 1 => valueWith (some (value depth))

def deepest : Nat := 127

end Reader

def read (t : Text) : Except Fault Json := do
  let (val, rest) ← Reader.value Reader.deepest t
  match Reader.skipSpace rest with
  | [] => .ok val
  | rest => .error (.at .textAfterValue rest)

def ofText (t : Text) : Except Diagnosis Json :=
  match read t with
  | .ok val => .ok val
  | .error fault => .error (fault.diagnose t)

end TokenTables.Json
