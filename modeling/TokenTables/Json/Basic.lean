import TokenTables.Text.Utf8

/-!
JSON values. An object keeps its members as they are written, in order and with repeated keys; its
fields are the view in which the last member of a key counts and keys are in code point order. A
number is its literal, so that an integer can be told from the same value written with a fraction.
-/

namespace TokenTables

namespace Json

structure Exponent where
  negative : Bool
  digits : Text

structure Number where
  negative : Bool
  whole : Text
  fraction : Option Text
  exponent : Option Exponent

def wordBound : Nat := 0x10000000000000000

/-- The value of a literal without sign, fraction and exponent, if 64 bits hold it. -/
def Number.natural? : Number → Option Nat
  | ⟨false, whole, none, none⟩ =>
    if Text.digitsValue whole < wordBound then some (Text.digitsValue whole) else none
  | _ => none

end Json

inductive Json where
  | null
  | bool (b : Bool)
  | number (n : Json.Number)
  | string (t : Text)
  | array (items : List Json)
  | object (members : List (Text × Json))

namespace Json

def string? : Json → Option Text
  | .string t => some t
  | _ => none

def natural? : Json → Option Nat
  | .number n => n.natural?
  | _ => none

def setField (key : Text) (val : Json) : List (Text × Json) → List (Text × Json)
  | [] => [(key, val)]
  | (k, v) :: rest =>
    if key = k then (key, val) :: rest
    else if Text.lt key k then (key, val) :: (k, v) :: rest
    else (k, v) :: setField key val rest

/-- One field for every key, in key order, with the value of the key's last member. -/
def fields (members : List (Text × Json)) : List (Text × Json) :=
  members.foldl (fun acc member => setField member.1 member.2 acc) []

end Json

end TokenTables
