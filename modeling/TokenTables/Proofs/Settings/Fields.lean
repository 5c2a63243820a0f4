import TokenTables.Proofs.Except
import TokenTables.Proofs.Json.Mapping
import TokenTables.Proofs.Settings.Spelling

/-!
What the value under each key of the settings stands for, and when it is refused. A step over one field
sets one part of the settings and is refused independently of them, so the whole object is refused for
the least of its faults and otherwise read part by part.
-/

namespace TokenTables

theorem Json.Given.unique {α : Type} {stands : Json → α → Prop} {default : α} {val? : Option Json}
    {x y : α} (left : Given stands default val? x) (right : Given stands default val? y)
    (single : ∀ {val x y}, stands val x → stands val y → x = y) : x = y := by
  cases val? with
  | none => exact Eq.trans left (Eq.symm right)
  | some val => exact single left right

theorem Json.Given.of_some {α : Type} {stands : Json → α → Prop} {default x : α} {val? : Option Json}
    {val : Json} (given : Given stands default val? x) (found : val? = some val) : stands val x := by
  subst found
  exact given

namespace Settings

open Json (Given Faults LeastFault lastValue? fields)

/-! ## Values -/

/-- An integer literal for a byte: it has no sign, no fraction and no exponent. -/
def IsByte (val : Json) (b : UInt8) : Prop :=
  ∃ digits, val = .number ⟨false, digits, none, none⟩ ∧ Text.digitsValue digits = b.toNat

def IsStrings (val : Json) (list : List Text) : Prop := val = .array (list.map .string)

def IsNonEmptyString (val : Json) (t : Text) : Prop := val = .string t ∧ t ≠ []

theorem bound?_eq_some_iff {val : Json} {b : UInt8} : bound? val = some b ↔ IsByte val b := by
  constructor
  · intro found
    obtain ⟨n, natural, small⟩ := Option.bind_eq_some_iff.1 found
    cases val with
    | number literal =>
      obtain ⟨negative, whole, fraction, exponent⟩ := literal
      cases negative <;> cases fraction <;> cases exponent <;>
        simp only [Json.natural?, Json.Number.natural?, Option.ite_none_right_eq_some, reduceCtorEq,
          Option.some.injEq] at natural small
      obtain ⟨-, rfl⟩ := natural
      obtain ⟨le, rfl⟩ := small
      refine ⟨whole, rfl, (UInt8.toNat_ofNat_of_lt' ?_).symm⟩
      change Text.digitsValue whole < 256
      omega
    | _ => simp [Json.natural?] at natural
  · rintro ⟨digits, rfl, value⟩
    have small := b.toNat_lt
    have word : Text.digitsValue digits < Json.wordBound := by
      unfold Json.wordBound
      omega
    simp only [bound?, Json.natural?, Json.Number.natural?, if_pos word, Option.bind_some]
    rw [if_pos (by omega), value, UInt8.ofNat_toNat]

theorem bound?_eq_none_iff {val : Json} : bound? val = none ↔ ∀ b, ¬ IsByte val b := by
  simp only [Option.eq_none_iff_forall_ne_some, ne_eq, bound?_eq_some_iff]

theorem IsByte.unique {val : Json} {a b : UInt8} (left : IsByte val a) (right : IsByte val b) : a = b :=
  Option.some.inj ((bound?_eq_some_iff.2 left).symm.trans (bound?_eq_some_iff.2 right))

theorem IsStrings.unique {val : Json} {a b : List Text} (left : IsStrings val a)
    (right : IsStrings val b) : a = b := by
  obtain rfl := left
  exact List.map_injective_iff.2 (fun _ _ => Json.string.inj) (Json.array.inj right)

theorem IsNonEmptyString.unique {val : Json} {a b : Text} (left : IsNonEmptyString val a)
    (right : IsNonEmptyString val b) : a = b :=
  Json.string.inj (left.1.symm.trans right.1)

theorem eq_map_string_of_mapM {items : List Json} {list : List Text}
    (read : items.mapM Json.string? = some list) : items = list.map .string := by
  induction items generalizing list with
  | nil =>
    obtain rfl : [] = list := Option.some.inj read
    rfl
  | cons item items ih =>
    rw [List.mapM_cons] at read
    obtain ⟨t, first, rest⟩ := Option.bind_eq_some_iff.1 read
    obtain ⟨ts, others, whole⟩ := Option.bind_eq_some_iff.1 rest
    obtain rfl : t :: ts = list := Option.some.inj whole
    cases item with
    | string own =>
      obtain rfl : own = t := Option.some.inj first
      rw [ih others]
      rfl
    | _ => simp [Json.string?] at first

theorem stringList_eq_ok_iff {key : Text} {val : Json} {list : List Text} :
    stringList key val = .ok list ↔ IsStrings val list := by
  constructor
  · intro read
    cases val with
    | array items =>
      simp only [stringList] at read
      split at read
      · next texts found =>
        obtain rfl := Except.ok.inj read
        exact congrArg Json.array (eq_map_string_of_mapM found)
      · cases read
    | _ => cases read
  · rintro rfl
    exact stringList_strings key list

theorem stringList_eq_error_iff {key : Text} {val : Json} {e : SettingsError} :
    stringList key val = .error e ↔ (∀ list, ¬ IsStrings val list) ∧ e = .notStringList key := by
  refine eq_error_iff_of_ok (fun list => stringList_eq_ok_iff) fun own refused => ?_
  unfold stringList at refused
  split at refused
  · split at refused
    · cases refused
    · exact (Except.error.inj refused).symm
  · exact (Except.error.inj refused).symm

theorem nonEmptyString_eq_ok_iff {key : Text} {val : Json} {t : Text} :
    nonEmptyString key val = .ok t ↔ IsNonEmptyString val t := by
  constructor
  · intro read
    unfold nonEmptyString at read
    split at read
    · obtain rfl := Except.ok.inj read
      exact ⟨rfl, List.cons_ne_nil _ _⟩
    · cases read
  · rintro ⟨rfl, nonempty⟩
    exact nonEmptyString_string key nonempty

theorem nonEmptyString_eq_error_iff {key : Text} {val : Json} {e : SettingsError} :
    nonEmptyString key val = .error e ↔ (∀ t, ¬ IsNonEmptyString val t) ∧ e = .notNonEmptyString key := by
  refine eq_error_iff_of_ok (fun t => nonEmptyString_eq_ok_iff) fun own refused => ?_
  unfold nonEmptyString at refused
  split at refused
  · cases refused
  · exact (Except.error.inj refused).symm

/-! ## The range -/

/-- A range object whose values are all bytes, with the bounds that it gives. -/
structure HasBounds (rs : List (Text × Json)) (r : ValueRange) : Prop where
  start : Given IsByte 0 (lastValue? rs "start") r.start
  stop : Given IsByte 255 (lastValue? rs "end") r.stop
  bytes : ∀ key val, lastValue? rs key = some val → ∃ b, IsByte val b

def IsRange (val : Json) (r : ValueRange) : Prop :=
  ∃ rs, val = .object rs ∧ HasBounds rs r ∧ r.start ≤ r.stop

def BoundFault (key : Text) (val : Json) (e : SettingsError) : Prop :=
  (∀ b, ¬ IsByte val b) ∧ e = .boundNotByte key

inductive RangeFault : Json → SettingsError → Prop
  | notObject {val : Json} (other : ∀ rs, val ≠ .object rs) : RangeFault val .rangeNotObject
  | bound {rs : List (Text × Json)} {e : SettingsError} (least : LeastFault (Faults BoundFault rs) e) :
      RangeFault (.object rs) e
  | reversed {rs : List (Text × Json)} {r : ValueRange} (bounds : HasBounds rs r)
      (reversed : r.stop < r.start) : RangeFault (.object rs) (.rangeReversed r.start r.stop)

theorem setBound_eq_error_iff (r : ValueRange) (key : Text) (val : Json) (e : SettingsError) :
    setBound r (key, val) = .error e ↔ BoundFault key val e := by
  unfold setBound BoundFault
  cases found : bound? val with
  | none => simp [bound?_eq_none_iff.1 found, eq_comm]
  | some b =>
    have given := bound?_eq_some_iff.1 found
    refine ⟨fun refused => ?_, fun fault => absurd given (fault.1 b)⟩
    dsimp only at refused
    split_ifs at refused

theorem setBound_part {r after : ValueRange} {key : Text} {val : Json}
    (taken : setBound r (key, val) = .ok after) :
    (if key = startKey then IsByte val after.start else after.start = r.start) ∧
      if key = stopKey then IsByte val after.stop else after.stop = r.stop := by
  unfold setBound at taken
  cases found : bound? val with
  | none => rw [found] at taken; cases taken
  | some b =>
    have given := bound?_eq_some_iff.1 found
    simp only [found] at taken
    split_ifs at taken with isStart isStop <;> obtain rfl := Except.ok.inj taken
    · subst isStart
      exact ⟨given, rfl⟩
    · subst isStop
      exact ⟨rfl, given⟩
    · rw [if_neg isStart, if_neg isStop]
      exact ⟨rfl, rfl⟩

theorem hasBounds_of_foldlM {rs : List (Text × Json)} {r : ValueRange}
    (ended : (fields rs).foldlM setBound {} = .ok r) : HasBounds rs r := by
  have sound := (Json.exists_foldlM_fields_iff setBound_eq_error_iff).1 ⟨r, ended⟩
  constructor
  · exact Json.given_of_foldlM_fields ValueRange.start startKey
      (fun _ _ _ _ taken => (setBound_part taken).1) ended
  · exact Json.given_of_foldlM_fields ValueRange.stop stopKey
      (fun _ _ _ _ taken => (setBound_part taken).2) ended
  · intro key val given
    by_contra none
    exact sound key _ ⟨val, given, not_exists.1 none, rfl⟩

theorem HasBounds.unique {rs : List (Text × Json)} {a b : ValueRange} (left : HasBounds rs a)
    (right : HasBounds rs b) : a = b := by
  have start : a.start = b.start := left.start.unique right.start IsByte.unique
  have stop : a.stop = b.stop := left.stop.unique right.stop IsByte.unique
  exact congrArg₂ ValueRange.mk start stop

theorem IsRange.unique {val : Json} {a b : ValueRange} (left : IsRange val a) (right : IsRange val b) :
    a = b := by
  obtain ⟨rs, rfl, bounds, -⟩ := left
  obtain ⟨rs', same, also, -⟩ := right
  obtain rfl := Json.object.inj same
  exact bounds.unique also

theorem foldlM_setBound_eq_ok_iff {rs : List (Text × Json)} {r : ValueRange} :
    (fields rs).foldlM setBound {} = .ok r ↔ HasBounds rs r := by
  refine ⟨hasBounds_of_foldlM, fun bounds => ?_⟩
  obtain ⟨last, ended⟩ := (Json.exists_foldlM_fields_iff (s := ({} : ValueRange)) setBound_eq_error_iff).2 <| by
    rintro key e ⟨val, given, other, -⟩
    obtain ⟨b, byte⟩ := bounds.bytes key val given
    exact other b byte
  rw [ended, (hasBounds_of_foldlM ended).unique bounds]

theorem rangeOf_object (rs : List (Text × Json)) :
    rangeOf (.object rs) = (fields rs).foldlM setBound {} >>= ordered := rfl

theorem rangeOf_eq_ok_iff {val : Json} {r : ValueRange} : rangeOf val = .ok r ↔ IsRange val r := by
  constructor
  · intro read
    cases val with
    | object rs =>
      rw [rangeOf_object] at read
      cases ended : (fields rs).foldlM setBound {} with
      | error e => rw [ended] at read; cases read
      | ok bounds =>
        rw [ended] at read
        change ordered bounds = .ok r at read
        unfold ordered at read
        split_ifs at read with inOrder
        obtain rfl := Except.ok.inj read
        exact ⟨rs, rfl, foldlM_setBound_eq_ok_iff.1 ended, inOrder⟩
    | _ => cases read
  · rintro ⟨rs, rfl, bounds, inOrder⟩
    rw [rangeOf_object, foldlM_setBound_eq_ok_iff.2 bounds]
    exact if_pos inOrder

theorem rangeOf_eq_error_iff {val : Json} {e : SettingsError} :
    rangeOf val = .error e ↔ RangeFault val e := by
  constructor
  · intro refused
    cases val with
    | object rs =>
      rw [rangeOf_object] at refused
      -- The bounds are compared only once each of them is a byte.
      cases ended : (fields rs).foldlM setBound {} with
      | error own =>
        rw [ended] at refused
        obtain rfl : own = e := Except.error.inj refused
        exact .bound ((Json.foldlM_fields_eq_error_iff setBound_eq_error_iff).1 ended)
      | ok r =>
        rw [ended] at refused
        change ordered r = .error e at refused
        unfold ordered at refused
        split_ifs at refused with inOrder
        obtain rfl := Except.error.inj refused
        exact .reversed (foldlM_setBound_eq_ok_iff.1 ended) (UInt8.not_le.1 inOrder)
    | _ =>
      obtain rfl := Except.error.inj refused
      exact .notObject nofun
  · rintro (other | least | ⟨bounds, reversed⟩)
    · cases val with
      | object rs => exact absurd rfl (other rs)
      | _ => rfl
    · rw [rangeOf_object, (Json.foldlM_fields_eq_error_iff setBound_eq_error_iff).2 least]
      rfl
    · rw [rangeOf_object, foldlM_setBound_eq_ok_iff.2 bounds]
      exact if_neg (UInt8.not_le.2 reversed)

/-! ## The settings -/

inductive FieldFault : Text → Json → SettingsError → Prop
  | strings {key : Text} {val : Json} (named : key ∈ [("exclude" : Text), "excludeExtra"])
      (other : ∀ list, ¬ IsStrings val list) : FieldFault key val (.notStringList key)
  | string {key : Text} {val : Json} (named : key ∈ [("guard" : Text), "mapHeader", "tokensHeader"])
      (other : ∀ t, ¬ IsNonEmptyString val t) : FieldFault key val (.notNonEmptyString key)
  | range {val : Json} {e : SettingsError} (fault : RangeFault val e) : FieldFault "range" val e

theorem setField_unknown {key : Text} (unknown : key ∉ knownKeys) (s : Settings) (val : Json) :
    setField s (key, val) = .ok s := by
  simp only [knownKeys, List.mem_cons, List.not_mem_nil, or_false, not_or] at unknown
  simp only [setField, unknown, if_false]

theorem mem_knownKeys {key : Text} : key ∈ knownKeys ↔ key = excludeKey ∨ key = excludeExtraKey ∨
    key = guardKey ∨ key = mapHeaderKey ∨ key = rangeKey ∨ key = tokensHeaderKey := by
  simp only [knownKeys, List.mem_cons, List.not_mem_nil, or_false]

theorem setField_eq_error_iff (s : Settings) (key : Text) (val : Json) (e : SettingsError) :
    setField s (key, val) = .error e ↔ FieldFault key val e := by
  constructor
  · intro refused
    by_cases known : key ∈ knownKeys
    · rcases mem_knownKeys.1 known with rfl | rfl | rfl | rfl | rfl | rfl
      · obtain ⟨other, rfl⟩ := stringList_eq_error_iff.1 (map_eq_error_iff.1 refused)
        exact .strings (.head _) other
      · obtain ⟨other, rfl⟩ := stringList_eq_error_iff.1 (map_eq_error_iff.1 refused)
        exact .strings (.tail _ (.head _)) other
      · obtain ⟨other, rfl⟩ := nonEmptyString_eq_error_iff.1 (map_eq_error_iff.1 refused)
        exact .string (.head _) other
      · obtain ⟨other, rfl⟩ := nonEmptyString_eq_error_iff.1 (map_eq_error_iff.1 refused)
        exact .string (.tail _ (.head _)) other
      · exact .range (rangeOf_eq_error_iff.1 (map_eq_error_iff.1 refused))
      · obtain ⟨other, rfl⟩ := nonEmptyString_eq_error_iff.1 (map_eq_error_iff.1 refused)
        exact .string (.tail _ (.tail _ (.head _))) other
    · cases refused.symm.trans (setField_unknown known s val)
  · rintro (⟨named, other⟩ | ⟨named, other⟩ | fault)
    · have refused : stringList key val = .error (.notStringList key) :=
        stringList_eq_error_iff.2 ⟨other, rfl⟩
      simp only [List.mem_cons, List.not_mem_nil, or_false] at named
      rcases named with rfl | rfl
      · exact map_eq_error_iff.2 refused
      · exact map_eq_error_iff.2 refused
    · have refused : nonEmptyString key val = .error (.notNonEmptyString key) :=
        nonEmptyString_eq_error_iff.2 ⟨other, rfl⟩
      simp only [List.mem_cons, List.not_mem_nil, or_false] at named
      rcases named with rfl | rfl | rfl
      · exact map_eq_error_iff.2 refused
      · exact map_eq_error_iff.2 refused
      · exact map_eq_error_iff.2 refused
    · exact map_eq_error_iff.2 (rangeOf_eq_error_iff.2 fault)

def IsExclusions (val : Json) (exclusions : Option (List Text)) : Prop :=
  ∃ list, IsStrings val list ∧ exclusions = some list

theorem IsExclusions.unique {val : Json} {a b : Option (List Text)} (left : IsExclusions val a)
    (right : IsExclusions val b) : a = b := by
  obtain ⟨list, is, rfl⟩ := left
  obtain ⟨other, also, rfl⟩ := right
  rw [is.unique also]

/-- What a step over one field does to each part of the settings. -/
structure Taken (key : Text) (val : Json) (before after : Settings) : Prop where
  exclude : if key = excludeKey then IsExclusions val after.exclude else after.exclude = before.exclude
  excludeExtra : if key = excludeExtraKey then IsStrings val after.excludeExtra
    else after.excludeExtra = before.excludeExtra
  tokensHeader : if key = tokensHeaderKey then IsNonEmptyString val after.tokensHeader
    else after.tokensHeader = before.tokensHeader
  mapHeader : if key = mapHeaderKey then IsNonEmptyString val after.mapHeader
    else after.mapHeader = before.mapHeader
  guard : if key = guardKey then IsNonEmptyString val after.guard else after.guard = before.guard
  range : if key = rangeKey then IsRange val after.range else after.range = before.range

theorem taken_of_setField {s after : Settings} {key : Text} {val : Json}
    (taken : setField s (key, val) = .ok after) : Taken key val s after := by
  by_cases known : key ∈ knownKeys
  · rcases mem_knownKeys.1 known with rfl | rfl | rfl | rfl | rfl | rfl
    · obtain ⟨list, read, rfl⟩ := map_eq_ok_iff.1 taken
      exact ⟨⟨list, stringList_eq_ok_iff.1 read, rfl⟩, rfl, rfl, rfl, rfl, rfl⟩
    · obtain ⟨list, read, rfl⟩ := map_eq_ok_iff.1 taken
      exact ⟨rfl, stringList_eq_ok_iff.1 read, rfl, rfl, rfl, rfl⟩
    · obtain ⟨t, read, rfl⟩ := map_eq_ok_iff.1 taken
      exact ⟨rfl, rfl, rfl, rfl, nonEmptyString_eq_ok_iff.1 read, rfl⟩
    · obtain ⟨t, read, rfl⟩ := map_eq_ok_iff.1 taken
      exact ⟨rfl, rfl, rfl, nonEmptyString_eq_ok_iff.1 read, rfl, rfl⟩
    · obtain ⟨r, read, rfl⟩ := map_eq_ok_iff.1 taken
      exact ⟨rfl, rfl, rfl, rfl, rfl, rangeOf_eq_ok_iff.1 read⟩
    · obtain ⟨t, read, rfl⟩ := map_eq_ok_iff.1 taken
      exact ⟨rfl, rfl, nonEmptyString_eq_ok_iff.1 read, rfl, rfl, rfl⟩
  · obtain rfl : s = after := Except.ok.inj ((setField_unknown known s val).symm.trans taken)
    have apart := known
    simp only [mem_knownKeys, not_or] at apart
    constructor <;> simp only [apart, if_false]

end Settings

end TokenTables
