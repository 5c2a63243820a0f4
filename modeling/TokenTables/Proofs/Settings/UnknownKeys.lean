import TokenTables.Proofs.Settings.Schema

/-!
What a member does whose key means nothing to the settings. In the object itself it does nothing. In the
range it does nothing as long as its value is a byte; any other value is refused as if it were a bound,
unless a fault that comes first is refused already. Main statement: `ofText_insert_unknown`.
-/

namespace TokenTables.Settings

open Json (AgreeOff Given Faults LeastFault lastValue? fields)

def NoByteAt (rs : List (Text × Json)) (key : Text) : Prop :=
  ∃ val, lastValue? rs key = some val ∧ ∀ b, ¬ IsByte val b

theorem faults_bound_iff {rs : List (Text × Json)} {key : Text} {e : SettingsError} :
    Faults BoundFault rs key e ↔ NoByteAt rs key ∧ e = .boundNotByte key := by
  simp only [Faults, BoundFault, NoByteAt, ← and_assoc, exists_and_right]

theorem HasBounds.not_noByteAt {rs : List (Text × Json)} {r : ValueRange} (bounds : HasBounds rs r)
    (key : Text) : ¬ NoByteAt rs key := by
  rintro ⟨val, given, other⟩
  obtain ⟨b, byte⟩ := bounds.bytes key val given
  exact other b byte

section Range

variable {rs rs' : List (Text × Json)} {key : Text}

theorem noByteAt_congr (agree : AgreeOff key rs rs') (alike : NoByteAt rs key ↔ NoByteAt rs' key)
    (other : Text) : NoByteAt rs other ↔ NoByteAt rs' other := by
  by_cases same : other = key
  · rw [same, alike]
  · unfold NoByteAt
    rw [agree other same]

theorem HasBounds.of_agree {r : ValueRange} (bounds : HasBounds rs r) (agree : AgreeOff key rs rs')
    (unknown : key ∉ [startKey, stopKey]) (alike : NoByteAt rs key ↔ NoByteAt rs' key) :
    HasBounds rs' r := by
  simp only [List.mem_cons, List.not_mem_nil, or_false, not_or] at unknown
  constructor
  · rw [← agree "start" (Ne.symm unknown.1)]
    exact bounds.start
  · rw [← agree "end" (Ne.symm unknown.2)]
    exact bounds.stop
  · intro other val given
    by_contra none
    exact bounds.not_noByteAt other ((noByteAt_congr agree alike other).2 ⟨val, given, not_exists.1 none⟩)

theorem rangeOf_eq_of_agree (agree : AgreeOff key rs rs') (unknown : key ∉ [startKey, stopKey])
    (alike : NoByteAt rs key ↔ NoByteAt rs' key) : rangeOf (.object rs) = rangeOf (.object rs') := by
  have faults (other : Text) (e : SettingsError) :
      Faults BoundFault rs other e ↔ Faults BoundFault rs' other e := by
    rw [faults_bound_iff, faults_bound_iff, noByteAt_congr agree alike other]
  have same : (fields rs).foldlM setBound {} = (fields rs').foldlM setBound {} := by
    cases ended : (fields rs).foldlM setBound {} with
    | ok r =>
      have bounds := (foldlM_setBound_eq_ok_iff.1 ended).of_agree agree unknown alike
      exact (foldlM_setBound_eq_ok_iff.2 bounds).symm
    | error e =>
      have least := (Json.foldlM_fields_eq_error_iff setBound_eq_error_iff).1 ended
      rw [LeastFault.congr faults] at least
      exact ((Json.foldlM_fields_eq_error_iff setBound_eq_error_iff).2 least).symm
  rw [rangeOf_object, rangeOf_object, same]

end Range

section Whole

variable {ms ms' : List (Text × Json)}

theorem fieldFault_range_iff {val : Json} {e : SettingsError} :
    FieldFault "range" val e ↔ RangeFault val e :=
  (setField_eq_error_iff {} rangeKey val e).symm.trans (map_eq_error_iff.trans rangeOf_eq_error_iff)

/-- The known keys have the same values, and the ranges are read alike. -/
structure Alike (ms ms' : List (Text × Json)) : Prop where
  others : ∀ key ∈ knownKeys, key ≠ rangeKey → lastValue? ms key = lastValue? ms' key
  range : (lastValue? ms rangeKey).map rangeOf = (lastValue? ms' rangeKey).map rangeOf

theorem Alike.symm (alike : Alike ms ms') : Alike ms' ms where
  others key known differ := (alike.others key known differ).symm
  range := alike.range.symm

theorem Alike.faults (alike : Alike ms ms') {key : Text} {e : SettingsError}
    (found : Faults FieldFault ms key e) : Faults FieldFault ms' key e := by
  obtain ⟨val, given, fault⟩ := found
  by_cases isRange : key = rangeKey
  · subst isRange
    have refused := rangeOf_eq_error_iff.2 (fieldFault_range_iff.1 fault)
    have same := alike.range
    rw [given, Option.map_some, refused] at same
    obtain ⟨val', given', refused'⟩ := Option.map_eq_some_iff.1 same.symm
    exact ⟨val', given', fieldFault_range_iff.2 (rangeOf_eq_error_iff.1 refused')⟩
  · have known : key ∈ knownKeys := by
      by_contra unknown
      have refused := (setField_eq_error_iff {} key val e).2 fault
      cases refused.symm.trans (setField_unknown unknown {} val)
    exact ⟨val, (alike.others key known isRange).symm.trans given, fault⟩

theorem given_range_iff {val? : Option Json} {default r : ValueRange} :
    Given IsRange default val? r ↔ (val?.map rangeOf).getD (.ok default) = .ok r := by
  cases val? with
  | none =>
    change r = default ↔ Except.ok default = .ok r
    rw [Except.ok.injEq, eq_comm]
  | some val => exact rangeOf_eq_ok_iff.symm

theorem Alike.describes {s : Settings} (alike : Alike ms ms') (describes : Describes ms s) :
    Describes ms' s := by
  have others {k : Text} (known : k ∈ knownKeys) (differ : k ≠ rangeKey) :
      lastValue? ms k = lastValue? ms' k := alike.others k known differ
  constructor
  · exact others (k := "exclude") (by decide) (by decide) ▸ describes.exclude
  · exact others (k := "excludeExtra") (by decide) (by decide) ▸ describes.excludeExtra
  · exact others (k := "tokensHeader") (by decide) (by decide) ▸ describes.tokensHeader
  · exact others (k := "mapHeader") (by decide) (by decide) ▸ describes.mapHeader
  · exact others (k := "guard") (by decide) (by decide) ▸ describes.guard
  · have given := given_range_iff.1 describes.range
    change ((lastValue? ms rangeKey).map rangeOf).getD _ = _ at given
    rw [alike.range] at given
    exact given_range_iff.2 given

theorem Alike.ofJson_eq (alike : Alike ms ms') : ofJson (.object ms) = ofJson (.object ms') := by
  cases read : ofJson (.object ms) with
  | ok s => exact (ofJson_eq_ok_iff.2 (alike.describes (ofJson_eq_ok_iff.1 read))).symm
  | error e =>
    have least := ofJson_eq_error_iff.1 read
    rw [LeastFault.congr fun key e => ⟨alike.faults, alike.symm.faults⟩] at least
    exact (ofJson_eq_error_iff.2 least).symm

/-- One result is the refusal of the value under the key, or both are the same refusal. -/
def RefusedFor (key : Text) (x y : Except SettingsError Settings) : Prop :=
  x = .error (.boundNotByte key) ∨ ∃ e, x = .error e ∧ y = .error e

theorem rangeFault_of_noByteAt {rs : List (Text × Json)} {key : Text} (other : NoByteAt rs key) :
    ∃ e, RangeFault (.object rs) e := by
  cases read : rangeOf (.object rs) with
  | ok r =>
    obtain ⟨rs', same, bounds, -⟩ := rangeOf_eq_ok_iff.1 read
    obtain rfl := Json.object.inj same
    exact absurd other (bounds.not_noByteAt key)
  | error e => exact ⟨e, rangeOf_eq_error_iff.1 read⟩

theorem refusedFor_of_noByteAt {rs rs' : List (Text × Json)} {key : Text}
    (outer : AgreeOff rangeKey ms ms') (range : lastValue? ms rangeKey = some (.object rs))
    (range' : lastValue? ms' rangeKey = some (.object rs')) (inner : AgreeOff key rs rs')
    (other : NoByteAt rs' key) : RefusedFor key (ofJson (.object ms')) (ofJson (.object ms)) := by
  cases read : ofJson (.object ms') with
  | ok s =>
    obtain ⟨rs'', same, bounds, -⟩ := (ofJson_eq_ok_iff.1 read).range.of_some range'
    obtain rfl := Json.object.inj same
    exact absurd other (bounds.not_noByteAt key)
  | error e =>
    have least := ofJson_eq_error_iff.1 read
    have kept (e : SettingsError) (_ : Faults FieldFault ms rangeKey e) :
        ∃ e', Faults FieldFault ms' rangeKey e' := by
      obtain ⟨e', fault⟩ := rangeFault_of_noByteAt other
      exact ⟨e', .object rs', range', .range fault⟩
    -- Either this fault is new, and then one of the range, or it was the least before; in the range the
    -- same alternative leaves only the key.
    rcases least.of_agree outer.symm.faults_iff kept with ⟨⟨val, given, fault⟩, new⟩ | old
    · obtain rfl : .object rs' = val := Option.some.inj (range'.symm.trans given)
      cases fieldFault_range_iff.1 fault with
      | notObject noObject => exact absurd rfl (noObject rs')
      | reversed bounds _ => exact absurd other (bounds.not_noByteAt key)
      | bound least =>
        have kept (e : SettingsError) (_ : Faults BoundFault rs key e) :
            ∃ e', Faults BoundFault rs' key e' := ⟨_, faults_bound_iff.2 ⟨other, rfl⟩⟩
        rcases least.of_agree inner.symm.faults_iff kept with ⟨own, -⟩ | older
        · exact .inl (congrArg Except.error (faults_bound_iff.1 own).2)
        · exact absurd ⟨.object rs, range, .range (.bound older)⟩ new
    · exact .inr ⟨e, rfl, ofJson_eq_error_iff.2 old⟩

end Whole

/-- A member under an unknown key changes nothing in the object itself. In the range it changes nothing
if a later range takes its place, or if the key has a byte both before and after or neither time; where
it is no byte, either that is the error or both texts have one error. -/
theorem ofText_insert_unknown (t t' : Text) (key : Text) (val : Json) :
    (∀ before after : List (Text × Json), Json.ofText t = .ok (.object (before ++ after)) →
      Json.ofText t' = .ok (.object (before ++ (key, val) :: after)) → key ∉ knownKeys →
        ofText t' = ofText t) ∧
      ∀ before after first last : List (Text × Json),
        Json.ofText t = .ok (.object (before ++ (rangeKey, .object (first ++ last)) :: after)) →
        Json.ofText t' = .ok (.object (before ++ (rangeKey, .object (first ++ (key, val) :: last)) :: after)) →
        key ∉ [startKey, stopKey] →
          let faulty := NoByteAt (first ++ last) key
          let faulty' := NoByteAt (first ++ (key, val) :: last) key
          ((rangeKey ∈ after.map Prod.fst ∨ (faulty ↔ faulty')) → ofText t' = ofText t) ∧
            (rangeKey ∉ after.map Prod.fst → faulty' → RefusedFor key (ofText t') (ofText t)) ∧
              (rangeKey ∉ after.map Prod.fst → faulty → RefusedFor key (ofText t) (ofText t')) := by
  constructor
  · intro before after read read' unknown
    have agree := Json.agreeOff_insert before after key val
    have apart {k : Text} (known : k ∈ knownKeys) : k ≠ key := fun same => unknown (same ▸ known)
    have alike : Alike (before ++ after) (before ++ (key, val) :: after) :=
      ⟨fun k known _ => agree k (apart known), congrArg _ (agree rangeKey (apart (by decide)))⟩
    rw [ofText_object read, ofText_object read', alike.ofJson_eq]
  · intro before after first last read read' unknown faulty faulty'
    have outer := Json.agreeOff_replace before after rangeKey (.object (first ++ last))
      (.object (first ++ (key, val) :: last))
    have inner := Json.agreeOff_insert first last key val
    have range := Json.lastValue?_insert before after rangeKey (.object (first ++ last))
    have range' := Json.lastValue?_insert before after rangeKey (.object (first ++ (key, val) :: last))
    rw [ofText_object read, ofText_object read']
    refine ⟨fun alike => ?_, fun counts other => ?_, fun counts other => ?_⟩
    -- A later range hides both; otherwise the two ranges are read alike.
    · refine (Alike.ofJson_eq ⟨fun k _ differ => outer k differ, ?_⟩).symm
      rw [range, range']
      rcases alike with later | alike
      · cases found : lastValue? after rangeKey with
        | none => exact absurd later (Json.lastValue?_eq_none_iff.1 found)
        | some own => rfl
      · cases lastValue? after rangeKey with
        | none => exact congrArg some (rangeOf_eq_of_agree inner unknown alike)
        | some own => rfl
    · rw [Json.lastValue?_eq_none_iff.2 counts, Option.none_or] at range range'
      exact refusedFor_of_noByteAt outer range range' inner other
    · rw [Json.lastValue?_eq_none_iff.2 counts, Option.none_or] at range range'
      exact refusedFor_of_noByteAt outer.symm range' range inner.symm other

/-- A note in the range makes settings that are fine without it a fault. -/
theorem ofText_refuses_note :
    let before : Text := "\x7b\"range\":\x7b\"start\":1"
    let note : Text := ",\"note\":\"x\""
    let after : Text := "\x7d\x7d"
    ofText (before ++ after) = .ok { range := ⟨1, 255⟩ } ∧
      ofText (before ++ note ++ after) = .error (.boundNotByte "note") := by
  decide +kernel

end TokenTables.Settings
