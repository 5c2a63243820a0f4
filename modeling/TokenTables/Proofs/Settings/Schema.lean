import TokenTables.Proofs.Settings.Fields

/-!
Which objects are settings, what settings they describe, and which fault is reported for one that is
refused. All three are read off the mapping from keys to last values, at both levels. Main statement:
`ofText_follows_schema`.
-/

namespace TokenTables.Settings

open Json (Given Faults LeastFault lastValue? fields)

/-- Each part of the settings is what the value under its key stands for, or its default. -/
structure Describes (ms : List (Text × Json)) (s : Settings) : Prop where
  exclude : Given IsExclusions none (lastValue? ms "exclude") s.exclude
  excludeExtra : Given IsStrings [] (lastValue? ms "excludeExtra") s.excludeExtra
  tokensHeader : Given IsNonEmptyString "tokens.h" (lastValue? ms "tokensHeader") s.tokensHeader
  mapHeader : Given IsNonEmptyString "keyword_map.h" (lastValue? ms "mapHeader") s.mapHeader
  guard : Given IsNonEmptyString "__OPCODES_H__" (lastValue? ms "guard") s.guard
  range : Given IsRange ⟨0, 255⟩ (lastValue? ms "range") s.range

/-- The values of an object that is accepted: under any other key there may be any value. -/
structure Conforms (ms : List (Text × Json)) : Prop where
  strings : ∀ key ∈ [("exclude" : Text), "excludeExtra"], ∀ val, lastValue? ms key = some val →
    ∃ list, IsStrings val list
  string : ∀ key ∈ [("guard" : Text), "mapHeader", "tokensHeader"], ∀ val,
    lastValue? ms key = some val → ∃ t, IsNonEmptyString val t
  range : ∀ val, lastValue? ms "range" = some val → ∃ r, IsRange val r

variable {ms : List (Text × Json)} {s : Settings} {e : SettingsError}

theorem conforms_iff : Conforms ms ↔ ∀ key e, ¬ Faults FieldFault ms key e := by
  constructor
  · rintro conforms key e ⟨val, given, ⟨named, other⟩ | ⟨named, other⟩ | fault⟩
    · obtain ⟨list, is⟩ := conforms.strings key named val given
      exact other list is
    · obtain ⟨t, is⟩ := conforms.string key named val given
      exact other t is
    · obtain ⟨r, is⟩ := conforms.range val given
      cases (rangeOf_eq_ok_iff.2 is).symm.trans (rangeOf_eq_error_iff.2 fault)
  · intro sound
    constructor
    · intro key named val given
      by_contra other
      exact sound key _ ⟨val, given, .strings named (not_exists.1 other)⟩
    · intro key named val given
      by_contra other
      exact sound key _ ⟨val, given, .string named (not_exists.1 other)⟩
    · intro val given
      cases read : rangeOf val with
      | ok r => exact ⟨r, rangeOf_eq_ok_iff.1 read⟩
      | error e => exact absurd ⟨val, given, .range (rangeOf_eq_error_iff.1 read)⟩ (sound "range" e)

theorem exists_ofJson_iff : (∃ s, ofJson (.object ms) = .ok s) ↔ Conforms ms :=
  (Json.exists_foldlM_fields_iff setField_eq_error_iff).trans conforms_iff.symm

theorem ofJson_eq_error_iff :
    ofJson (.object ms) = .error e ↔ LeastFault (Faults FieldFault ms) e :=
  Json.foldlM_fields_eq_error_iff setField_eq_error_iff

theorem describes_of_ofJson (ended : ofJson (.object ms) = .ok s) : Describes ms s := by
  change (fields ms).foldlM setField {} = .ok s at ended
  constructor
  · exact Json.given_of_foldlM_fields Settings.exclude excludeKey
      (fun _ _ _ _ taken => (taken_of_setField taken).exclude) ended
  · exact Json.given_of_foldlM_fields Settings.excludeExtra excludeExtraKey
      (fun _ _ _ _ taken => (taken_of_setField taken).excludeExtra) ended
  · exact Json.given_of_foldlM_fields Settings.tokensHeader tokensHeaderKey
      (fun _ _ _ _ taken => (taken_of_setField taken).tokensHeader) ended
  · exact Json.given_of_foldlM_fields Settings.mapHeader mapHeaderKey
      (fun _ _ _ _ taken => (taken_of_setField taken).mapHeader) ended
  · exact Json.given_of_foldlM_fields Settings.guard guardKey
      (fun _ _ _ _ taken => (taken_of_setField taken).guard) ended
  · exact Json.given_of_foldlM_fields Settings.range rangeKey
      (fun _ _ _ _ taken => (taken_of_setField taken).range) ended

theorem Describes.unique {a b : Settings} (left : Describes ms a) (right : Describes ms b) : a = b := by
  have exclude := left.exclude.unique right.exclude IsExclusions.unique
  have excludeExtra := left.excludeExtra.unique right.excludeExtra IsStrings.unique
  have tokensHeader := left.tokensHeader.unique right.tokensHeader IsNonEmptyString.unique
  have mapHeader := left.mapHeader.unique right.mapHeader IsNonEmptyString.unique
  have guard := left.guard.unique right.guard IsNonEmptyString.unique
  have range := left.range.unique right.range IsRange.unique
  cases a
  cases b
  simp only [Settings.mk.injEq]
  exact ⟨exclude, excludeExtra, tokensHeader, mapHeader, guard, range⟩

theorem Describes.conforms (describes : Describes ms s) : Conforms ms where
  strings key named val given := by
    simp only [List.mem_cons, List.not_mem_nil, or_false] at named
    rcases named with rfl | rfl
    · obtain ⟨list, is, -⟩ := describes.exclude.of_some given
      exact ⟨list, is⟩
    · exact ⟨_, describes.excludeExtra.of_some given⟩
  string key named val given := by
    simp only [List.mem_cons, List.not_mem_nil, or_false] at named
    rcases named with rfl | rfl | rfl
    · exact ⟨_, describes.guard.of_some given⟩
    · exact ⟨_, describes.mapHeader.of_some given⟩
    · exact ⟨_, describes.tokensHeader.of_some given⟩
  range val given := ⟨_, describes.range.of_some given⟩

theorem ofJson_eq_ok_iff : ofJson (.object ms) = .ok s ↔ Describes ms s := by
  refine ⟨describes_of_ofJson, fun describes => ?_⟩
  obtain ⟨read, ended⟩ := exists_ofJson_iff.2 describes.conforms
  rw [ended, (describes_of_ofJson ended).unique describes]

theorem ofText_object {t : Text} (read : Json.ofText t = .ok (.object ms)) :
    ofText t = ofJson (.object ms) := by
  rw [ofText, read]

/-- A text is read exactly if it is an object that conforms to the schema. What is read is then what the
last values of the object describe; otherwise its least key that has a fault tells the error. -/
theorem ofText_follows_schema (t : Text) :
    (∀ diagnosis, Json.ofText t = .error diagnosis → ofText t = .error (.notJson diagnosis)) ∧
      (∀ val, Json.ofText t = .ok val → (∀ ms, val ≠ .object ms) → ofText t = .error .notObject) ∧
        ∀ ms, Json.ofText t = .ok (.object ms) →
          ((∃ s, ofText t = .ok s) ↔ Conforms ms) ∧
            (∀ s, ofText t = .ok s ↔ Describes ms s) ∧
              ∀ e, ofText t = .error e ↔ LeastFault (Faults FieldFault ms) e := by
  refine ⟨fun diagnosis read => ?_, fun val read other => ?_, fun ms read => ?_⟩
  · rw [ofText, read]
  · rw [ofText, read]
    cases val with
    | object ms => exact absurd rfl (other ms)
    | _ => rfl
  · rw [ofText_object read]
    exact ⟨exists_ofJson_iff, fun s => ofJson_eq_ok_iff, fun e => ofJson_eq_error_iff⟩

example : ofText ("\x7b\"tokensHeader\":1,\"range\":\x7b\"start\":-1,\"end\":1e1\x7d," ++
    "\"guard\":\"\",\"guard\":\"G\"\x7d") = .error (.boundNotByte stopKey) := by
  decide +kernel

end TokenTables.Settings
