import TokenTables.Json.Reader
import TokenTables.Settings.Basic

/-!
Settings read from a JSON object. Fields are taken in key order, so of several faults the one under the
least key is reported. An unknown key is noticed and passed over, whatever its value; an unknown key of
the range is passed over too, but its value has to be a bound like any other.
-/

namespace TokenTables

inductive SettingsError where
  | notJson (diagnosis : Json.Diagnosis)
  | notObject
  | notStringList (key : Text)
  | notNonEmptyString (key : Text)
  | rangeNotObject
  | boundNotByte (key : Text)
  | rangeReversed (start stop : UInt8)
deriving DecidableEq, Repr

def SettingsError.message : SettingsError → Text
  | notJson diagnosis => "settings are not valid JSON: " ++ diagnosis.message
  | notObject => "settings must be a JSON object"
  | notStringList key => "`" ++ key ++ "` must be a list of strings"
  | notNonEmptyString key => "`" ++ key ++ "` must be a non-empty string"
  | rangeNotObject => "`range` must be an object"
  | boundNotByte key => "range `" ++ key ++ "` must be an integer from 0 to 255"
  | rangeReversed start stop =>
    "range start " ++ Text.decimal start.toNat ++ " exceeds end " ++ Text.decimal stop.toNat

namespace Settings

def excludeKey : Text := "exclude"

def excludeExtraKey : Text := "excludeExtra"

def tokensHeaderKey : Text := "tokensHeader"

def mapHeaderKey : Text := "mapHeader"

def guardKey : Text := "guard"

def rangeKey : Text := "range"

def startKey : Text := "start"

def stopKey : Text := "end"

def stringList (key : Text) : Json → Except SettingsError (List Text)
  | .array items =>
    match items.mapM Json.string? with
    | some texts => .ok texts
    | none => .error (.notStringList key)
  | _ => .error (.notStringList key)

def nonEmptyString (key : Text) : Json → Except SettingsError Text
  | .string (c :: t) => .ok (c :: t)
  | _ => .error (.notNonEmptyString key)

/-- A bound is an integer literal from 0 to 255. -/
def bound? (val : Json) : Option UInt8 :=
  val.natural?.bind fun n => if n ≤ 255 then some (UInt8.ofNat n) else none

def setBound (r : ValueRange) (field : Text × Json) : Except SettingsError ValueRange :=
  -- The value is looked at before the key, so even an unknown key must hold a byte.
  match bound? field.2 with
  | none => .error (.boundNotByte field.1)
  | some bound =>
    if field.1 = startKey then .ok { r with start := bound }
    else if field.1 = stopKey then .ok { r with stop := bound }
    else .ok r

def ordered (r : ValueRange) : Except SettingsError ValueRange :=
  if r.start ≤ r.stop then .ok r else .error (.rangeReversed r.start r.stop)

def rangeOf : Json → Except SettingsError ValueRange
  | .object members => (Json.fields members).foldlM setBound {} >>= ordered
  | _ => .error .rangeNotObject

def setField (s : Settings) (field : Text × Json) : Except SettingsError Settings :=
  let (key, val) := field
  if key = excludeKey then
    (stringList key val).map fun texts => { s with exclude := some texts }
  else if key = excludeExtraKey then
    (stringList key val).map fun texts => { s with excludeExtra := texts }
  else if key = guardKey then
    (nonEmptyString key val).map fun text => { s with guard := text }
  else if key = mapHeaderKey then
    (nonEmptyString key val).map fun text => { s with mapHeader := text }
  else if key = rangeKey then
    (rangeOf val).map fun range => { s with range := range }
  else if key = tokensHeaderKey then
    (nonEmptyString key val).map fun text => { s with tokensHeader := text }
  else .ok s

def ofJson : Json → Except SettingsError Settings
  | .object members => (Json.fields members).foldlM setField {}
  | _ => .error .notObject

def ofText (t : Text) : Except SettingsError Settings :=
  match Json.ofText t with
  | .ok val => ofJson val
  | .error diagnosis => .error (.notJson diagnosis)

inductive Notice where
  | unknownKey (key : Text)
  | unknownRangeKey (key : Text)
deriving DecidableEq, Repr

def knownKeys : List Text :=
  [excludeKey, excludeExtraKey, guardKey, mapHeaderKey, rangeKey, tokensHeaderKey]

/-- Unknown keys of the range, up to the first value that is no bound. -/
def rangeNotices : Json → List Notice
  | .object members =>
    (((Json.fields members).takeWhile fun field => (bound? field.2).isSome).filter
      fun field => field.1 ≠ startKey && field.1 ≠ stopKey).map fun field =>
        .unknownRangeKey field.1
  | _ => []

def fieldNotices (field : Text × Json) : List Notice :=
  if field.1 = rangeKey then rangeNotices field.2
  else if field.1 ∈ knownKeys then []
  else [.unknownKey field.1]

/-- Unknown keys in key order, up to the first field that is refused. -/
def fieldsNotices : List (Text × Json) → List Notice
  | [] => []
  | field :: rest =>
    fieldNotices field ++ if (setField {} field).isOk then fieldsNotices rest else []

def notices (t : Text) : List Notice :=
  match Json.ofText t with
  | .ok (.object members) => fieldsNotices (Json.fields members)
  | _ => []

end Settings

end TokenTables
