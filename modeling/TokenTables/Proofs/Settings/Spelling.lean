import TokenTables.Settings.Parse
import TokenTables.Proofs.Json.Fields
import TokenTables.Proofs.Json.Reading

/-!
How settings may be written as JSON: one member for every key that is stated, in any order; a key is
left out only where its default stands, and the list of exclusions exactly where there is none. Main
statement: reading gives back the settings that were written, however they were.
-/

namespace TokenTables

open Json (ofByte)

inductive ValueRange.Field (r : ValueRange) : Text × Json → Prop
  | start : Field r ("start", ofByte r.start)
  | stop : Field r ("end", ofByte r.stop)

structure ValueRange.Stated (r : ValueRange) (ms : List (Text × Json)) : Prop where
  members : ∀ m ∈ ms, r.Field m
  start : ("start" : Text) ∉ ms.map Prod.fst → r.start = 0
  stop : ("end" : Text) ∉ ms.map Prod.fst → r.stop = 255

namespace Settings

inductive Field (s : Settings) : Text × Json → Prop
  | exclude {list : List Text} (given : s.exclude = some list) :
      Field s ("exclude", .array (list.map .string))
  | excludeExtra : Field s ("excludeExtra", .array (s.excludeExtra.map .string))
  | tokensHeader : Field s ("tokensHeader", .string s.tokensHeader)
  | mapHeader : Field s ("mapHeader", .string s.mapHeader)
  | guard : Field s ("guard", .string s.guard)
  | range {ms : List (Text × Json)} (bounds : s.range.Stated ms) : Field s ("range", .object ms)

/-- The members of an object that writes `s`. -/
structure Stated (s : Settings) (ms : List (Text × Json)) : Prop where
  members : ∀ m ∈ ms, Field s m
  exclude : ("exclude" : Text) ∉ ms.map Prod.fst → s.exclude = none
  excludeExtra : ("excludeExtra" : Text) ∉ ms.map Prod.fst → s.excludeExtra = []
  tokensHeader : ("tokensHeader" : Text) ∉ ms.map Prod.fst → s.tokensHeader = "tokens.h"
  mapHeader : ("mapHeader" : Text) ∉ ms.map Prod.fst → s.mapHeader = "keyword_map.h"
  guard : ("guard" : Text) ∉ ms.map Prod.fst → s.guard = "__OPCODES_H__"
  range : ("range" : Text) ∉ ms.map Prod.fst → s.range = ⟨0, 255⟩

inductive Spelled (s : Settings) : Text → Prop
  | mk {ms : List (Text × Json)} {before w after : Text} (lead : Json.Space before)
      (body : Json.Spelled 2 (.object ms) w) (trail : Json.Space after) (stated : s.Stated ms) :
      Spelled s (before ++ (w ++ after))

/-- Settings that a text can hold: no header and no guard is empty, and the range is in order. -/
structure Writable (s : Settings) : Prop where
  tokensHeader : s.tokensHeader ≠ []
  mapHeader : s.mapHeader ≠ []
  guard : s.guard ≠ []
  range : s.range.start ≤ s.range.stop

end Settings

theorem ite_contains_key {α : Type} {ms : List (Text × Json)} {keys : List Text}
    (all : ∀ k, k ∈ keys ↔ k ∈ ms.map Prod.fst) {key : Text} {x default : α}
    (absent : key ∉ ms.map Prod.fst → x = default) :
    (if keys.contains key then x else default) = x :=
  ite_eq_left_iff.2 fun missing =>
    (absent fun given => missing (List.contains_iff_mem.2 ((all key).2 given))).symm

/-! ## The range -/

def ValueRange.taken (r : ValueRange) (keys : List Text) : ValueRange where
  start := if keys.contains Settings.startKey then r.start else 0
  stop := if keys.contains Settings.stopKey then r.stop else 255

theorem ValueRange.Stated.taken_eq {r : ValueRange} {ms : List (Text × Json)} (stated : r.Stated ms)
    {keys : List Text} (all : ∀ k, k ∈ keys ↔ k ∈ ms.map Prod.fst) : r.taken keys = r := by
  have start : (if keys.contains Settings.startKey then r.start else 0) = r.start :=
    ite_contains_key all stated.start
  have stop : (if keys.contains Settings.stopKey then r.stop else 255) = r.stop :=
    ite_contains_key all stated.stop
  rw [ValueRange.taken, start, stop]

namespace Settings

theorem bound?_ofByte (b : UInt8) : bound? (ofByte b) = some b := by
  have small := b.toNat_lt
  have read : (ofByte b).natural? = some b.toNat := by
    simp only [ofByte, Json.natural?, Json.Number.natural?, Text.digitsValue_decimal]
    exact if_pos (by unfold Json.wordBound; omega)
  rw [bound?, read, Option.bind_some, if_pos (by omega), UInt8.ofNat_toNat]

theorem setBound_taken {r : ValueRange} {m : Text × Json} (field : r.Field m) (keys : List Text) :
    setBound (r.taken keys) m = .ok (r.taken (m.1 :: keys)) := by
  have apart : startKey ≠ stopKey ∧ stopKey ≠ startKey := by decide
  cases field with
  | start =>
    change setBound _ (startKey, _) = .ok (r.taken (startKey :: keys))
    simp only [setBound, bound?_ofByte, ValueRange.taken, List.contains_cons, Bool.or_eq_true,
      beq_iff_eq, apart, false_or, true_or, if_true]
  | stop =>
    change setBound _ (stopKey, _) = .ok (r.taken (stopKey :: keys))
    simp only [setBound, bound?_ofByte, ValueRange.taken, List.contains_cons, Bool.or_eq_true,
      beq_iff_eq, apart, false_or, true_or, if_true, if_false]

theorem mem_fields_keys {ms : List (Text × Json)} (k : Text) :
    k ∈ ((Json.fields ms).map Prod.fst).reverse ++ [] ↔ k ∈ ms.map Prod.fst := by
  rw [List.append_nil, List.mem_reverse, Json.key_mem_fields_iff]

theorem rangeOf_of_stated {r : ValueRange} {ms : List (Text × Json)} (stated : r.Stated ms)
    (inOrder : r.start ≤ r.stop) : rangeOf (.object ms) = .ok r := by
  have whole := Json.foldlM_fields setBound r.taken
    (fun f h keys => setBound_taken (stated.members f (Json.mem_of_mem_fields h)) keys) []
  rw [stated.taken_eq mem_fields_keys] at whole
  change (Json.fields ms).foldlM setBound (r.taken []) >>= ordered = .ok r
  rw [whole]
  exact if_pos inOrder

/-! ## The settings -/

def taken (s : Settings) (keys : List Text) : Settings where
  exclude := if keys.contains excludeKey then s.exclude else none
  excludeExtra := if keys.contains excludeExtraKey then s.excludeExtra else []
  tokensHeader := if keys.contains tokensHeaderKey then s.tokensHeader else "tokens.h"
  mapHeader := if keys.contains mapHeaderKey then s.mapHeader else "keyword_map.h"
  guard := if keys.contains guardKey then s.guard else "__OPCODES_H__"
  range := if keys.contains rangeKey then s.range else ⟨0, 255⟩

theorem Stated.taken_eq {s : Settings} {ms : List (Text × Json)} (stated : s.Stated ms)
    {keys : List Text} (all : ∀ k, k ∈ keys ↔ k ∈ ms.map Prod.fst) : s.taken keys = s := by
  have exclude : (if keys.contains excludeKey then s.exclude else none) = s.exclude :=
    ite_contains_key all stated.exclude
  have excludeExtra :
      (if keys.contains excludeExtraKey then s.excludeExtra else []) = s.excludeExtra :=
    ite_contains_key all stated.excludeExtra
  have tokensHeader :
      (if keys.contains tokensHeaderKey then s.tokensHeader else "tokens.h") = s.tokensHeader :=
    ite_contains_key all stated.tokensHeader
  have mapHeader :
      (if keys.contains mapHeaderKey then s.mapHeader else "keyword_map.h") = s.mapHeader :=
    ite_contains_key all stated.mapHeader
  have guard : (if keys.contains guardKey then s.guard else "__OPCODES_H__") = s.guard :=
    ite_contains_key all stated.guard
  have range : (if keys.contains rangeKey then s.range else ⟨0, 255⟩) = s.range :=
    ite_contains_key all stated.range
  rw [taken, exclude, excludeExtra, tokensHeader, mapHeader, guard, range]

theorem stringList_strings (key : Text) (list : List Text) :
    stringList key (.array (list.map .string)) = .ok list := by
  have back : (list.map Json.string).mapM Json.string? = some list := by
    induction list with
    | nil => rfl
    | cons t list ih => simp [List.mapM_cons, ih, Json.string?]
  simp only [stringList, back]

theorem nonEmptyString_string (key : Text) {t : Text} (nonempty : t ≠ []) :
    nonEmptyString key (.string t) = .ok t := by
  cases t with
  | nil => contradiction
  | cons c t => rfl

theorem keys_apart : knownKeys.Pairwise fun a b => a ≠ b ∧ b ≠ a := by
  decide +kernel

/-- A field adds its key to those taken. The keys differ, so each passes all tests before its own. -/
theorem setField_taken {s : Settings} (writable : s.Writable) {m : Text × Json} (field : s.Field m)
    (keys : List Text) : setField (s.taken keys) m = .ok (s.taken (m.1 :: keys)) := by
  have apart := keys_apart
  simp only [knownKeys, List.pairwise_cons, List.forall_mem_cons] at apart
  cases field with
  | exclude given =>
    change setField _ (excludeKey, _) = .ok (s.taken (excludeKey :: keys))
    simp only [setField, taken, List.contains_cons, Bool.or_eq_true, beq_iff_eq, apart, false_or,
      true_or, if_true, if_false, stringList_strings, given, Except.map]
  | excludeExtra =>
    change setField _ (excludeExtraKey, _) = .ok (s.taken (excludeExtraKey :: keys))
    simp only [setField, taken, List.contains_cons, Bool.or_eq_true, beq_iff_eq, apart, false_or,
      true_or, if_true, if_false, stringList_strings, Except.map]
  | tokensHeader =>
    change setField _ (tokensHeaderKey, _) = .ok (s.taken (tokensHeaderKey :: keys))
    simp only [setField, taken, List.contains_cons, Bool.or_eq_true, beq_iff_eq, apart, false_or,
      true_or, if_true, if_false, nonEmptyString_string _ writable.tokensHeader, Except.map]
  | mapHeader =>
    change setField _ (mapHeaderKey, _) = .ok (s.taken (mapHeaderKey :: keys))
    simp only [setField, taken, List.contains_cons, Bool.or_eq_true, beq_iff_eq, apart, false_or,
      true_or, if_true, if_false, nonEmptyString_string _ writable.mapHeader, Except.map]
  | guard =>
    change setField _ (guardKey, _) = .ok (s.taken (guardKey :: keys))
    simp only [setField, taken, List.contains_cons, Bool.or_eq_true, beq_iff_eq, apart, false_or,
      true_or, if_true, if_false, nonEmptyString_string _ writable.guard, Except.map]
  | range bounds =>
    change setField _ (rangeKey, _) = .ok (s.taken (rangeKey :: keys))
    simp only [setField, taken, List.contains_cons, Bool.or_eq_true, beq_iff_eq, apart, false_or,
      true_or, if_true, if_false, rangeOf_of_stated bounds writable.range, Except.map]

theorem ofJson_of_stated {s : Settings} (writable : s.Writable) {ms : List (Text × Json)}
    (stated : s.Stated ms) : ofJson (.object ms) = .ok s := by
  have whole := Json.foldlM_fields setField s.taken
    (fun f h keys => setField_taken writable (stated.members f (Json.mem_of_mem_fields h)) keys) []
  rw [stated.taken_eq mem_fields_keys] at whole
  exact whole

/-! ## Writing -/

theorem Stated.exists_spelled {s : Settings} {ms : List (Text × Json)} (stated : s.Stated ms) :
    ∃ w, Json.Spelled 2 (.object ms) w := by
  have strings (list : List Text) : ∃ w, Json.Spelled 1 (.array (list.map .string)) w := by
    obtain ⟨w, items⟩ := Json.exists_spelledItems (List.forall_mem_map.2 fun t (_ : t ∈ list) =>
      Json.exists_spelledScalar_string t)
    exact ⟨_, .array items⟩
  have string (t : Text) : ∃ w, Json.Spelled 1 (.string t) w := by
    obtain ⟨w, body⟩ := Json.exists_spelledScalar_string t
    exact ⟨w, .scalar body⟩
  have each : ∀ m ∈ ms, ∃ w, Json.SpelledMember (Json.Spelled 1) m w := by
    intro m h
    cases stated.members m h with
    | exclude given => exact Json.exists_spelledMember _ (strings _)
    | excludeExtra => exact Json.exists_spelledMember _ (strings _)
    | tokensHeader => exact Json.exists_spelledMember _ (string _)
    | mapHeader => exact Json.exists_spelledMember _ (string _)
    | guard => exact Json.exists_spelledMember _ (string _)
    | range bounds =>
      obtain ⟨w, items⟩ := Json.exists_spelledItems fun b h => by
        cases bounds.members b h with
        | start => exact Json.exists_spelledMember _ ⟨_, Json.SpelledScalar.byte s.range.start⟩
        | stop => exact Json.exists_spelledMember _ ⟨_, Json.SpelledScalar.byte s.range.stop⟩
      exact Json.exists_spelledMember _ ⟨_, .object items⟩
  obtain ⟨w, items⟩ := Json.exists_spelledItems each
  exact ⟨_, .object items⟩

def constantMembers (s : Settings) : List (Text × Json) :=
  [(excludeExtraKey, .array (s.excludeExtra.map .string)), (tokensHeaderKey, .string s.tokensHeader),
    (mapHeaderKey, .string s.mapHeader), (guardKey, .string s.guard),
    (rangeKey, .object [(startKey, ofByte s.range.start), (stopKey, ofByte s.range.stop)])]

def allMembers (s : Settings) : List (Text × Json) :=
  (s.exclude.map fun list => (excludeKey, .array (list.map .string))).toList ++ s.constantMembers

theorem field_constantMembers (s : Settings) : ∀ m ∈ s.constantMembers, s.Field m := by
  have bounds : s.range.Stated
      [(startKey, ofByte s.range.start), (stopKey, ofByte s.range.stop)] :=
    { members := List.forall_mem_cons.2 ⟨.start, List.forall_mem_singleton.2 .stop⟩
      start := fun absent => absurd (.head _) absent
      stop := fun absent => absurd (.tail _ (.head _)) absent }
  simp only [constantMembers, List.forall_mem_cons]
  exact ⟨.excludeExtra, .tokensHeader, .mapHeader, .guard, .range bounds,
    fun m h => absurd h List.not_mem_nil⟩

theorem stated_allMembers (s : Settings) : s.Stated s.allMembers := by
  have listed {key : Text} (h : key ∈ s.constantMembers.map Prod.fst) :
      key ∈ s.allMembers.map Prod.fst := by
    rw [allMembers, List.map_append]
    exact List.mem_append_right _ h
  exact
    { members := by
        intro m h
        rcases List.mem_append.1 h with own | constant
        · obtain ⟨list, given, rfl⟩ := Option.map_eq_some_iff.1 (Option.mem_toList.1 own)
          exact .exclude given
        · exact field_constantMembers s m constant
      exclude := by
        intro absent
        cases given : s.exclude with
        | none => rfl
        | some list =>
          rw [allMembers, given] at absent
          exact absurd (.head _) absent
      excludeExtra := fun absent => absurd (listed (.head _)) absent
      tokensHeader := fun absent => absurd (listed (.tail _ (.head _))) absent
      mapHeader := fun absent => absurd (listed (.tail _ (.tail _ (.head _)))) absent
      guard := fun absent => absurd (listed (.tail _ (.tail _ (.tail _ (.head _))))) absent
      range := fun absent =>
        absurd (listed (.tail _ (.tail _ (.tail _ (.tail _ (.head _)))))) absent }

theorem exists_spelled (s : Settings) : ∃ t, s.Spelled t := by
  obtain ⟨w, body⟩ := (stated_allMembers s).exists_spelled
  exact ⟨_, .mk Json.space_nil body Json.space_nil (stated_allMembers s)⟩

/-- Settings that can be written can be read back, and from each of their texts. -/
theorem ofText_undoes_writing {s : Settings} (writable : s.Writable) :
    (∃ t, s.Spelled t) ∧ ∀ t, s.Spelled t → ofText t = .ok s := by
  refine ⟨exists_spelled s, fun t spelled => ?_⟩
  cases spelled with
  | mk lead body trail stated =>
    have read := Json.ofText_of_spelled (by decide) lead body trail
    rw [ofText, read]
    exact ofJson_of_stated writable stated

/-- Keys out of order or left out, white space, and escapes of every kind. -/
theorem ofText_undoes_writing_escapes :
    let s : Settings := { exclude := some [['é', '/'], ['😀']], guard := ['G'], range := ⟨0, 9⟩ }
    let t : Text := " \x7b\"range\" : \x7b\"end\":9\x7d,\"\\u0065xclude\":[\"\\u00E9\\/\", " ++
      "\"\\ud83d\\uDE00\"],\n\"guard\":\"G\"\x7d"
    s.Writable ∧ s.Spelled t ∧ ofText t = .ok s := by
  intro s t
  have writable : s.Writable := ⟨by decide, by decide, by decide, by decide⟩
  have gap := Json.space_nil
  have blank : Json.Space [' '] := by simp [Json.Space]
  have newline : Json.Space ['\n'] := by simp [Json.Space]
  have plain (t : Text) (h : t.all fun c => c ≠ '"' ∧ c ≠ '\\' ∧ 0x20 ≤ c.toNat) :
      Json.SpelledText t t := Json.spelledText_self (List.all_iff_forall_prop.1 h)
  have e : Json.SpelledChar 'e' ['\\', 'u', '0', '0', '6', '5'] :=
    .unit ⟨by decide, by decide, by decide, by decide⟩
  have accent : Json.SpelledChar 'é' ['\\', 'u', '0', '0', 'E', '9'] :=
    .unit ⟨by decide, by decide, by decide, by decide⟩
  have slash : Json.SpelledChar '/' ['\\', '/'] := .letter (by decide)
  have high : Json.SpelledUnit 0xD83D ['d', '8', '3', 'd'] :=
    ⟨by decide, by decide, by decide, by decide⟩
  have low : Json.SpelledUnit 0xDE00 ['D', 'E', '0', '0'] :=
    ⟨by decide, by decide, by decide, by decide⟩
  have face : Json.SpelledChar '😀' _ := .pair (by decide) high low
  have range : Json.SpelledMember (Json.Spelled 1) (rangeKey, .object [(stopKey, ofByte 9)]) _ :=
    .mk (plain _ (by decide +kernel)) blank blank
      (.object (.some (.last gap (.mk (plain _ (by decide +kernel)) gap gap (.byte 9)) gap)))
  have exclude : Json.SpelledMember (Json.Spelled 1)
      (['e', 'x', 'c', 'l', 'u', 'd', 'e'], .array [.string ['é', '/'], .string ['😀']]) _ :=
    .mk (.cons e (plain _ (by decide))) gap gap (.array (.some
      (.more gap (.string (.cons accent (.cons slash .nil))) gap
        (.last blank (.string (.cons face .nil)) gap))))
  have guard : Json.SpelledMember (Json.Spelled 1) (guardKey, .string ['G']) _ :=
    .mk (plain _ (by decide +kernel)) gap gap (.scalar (.string (plain ['G'] (by decide))))
  have object := Json.SpelledOver.object
    (.some (.more gap range gap (.more gap exclude gap (.last newline guard gap))))
  have stated : s.Stated [(rangeKey, .object [(stopKey, ofByte 9)]),
      (['e', 'x', 'c', 'l', 'u', 'd', 'e'], .array [.string ['é', '/'], .string ['😀']]),
      (guardKey, .string ['G'])] := by
    have bounds : s.range.Stated [(stopKey, ofByte 9)] :=
      ⟨List.forall_mem_singleton.2 .stop, fun _ => rfl, fun absent => absurd (.head _) absent⟩
    have excluded : s.Field (excludeKey, .array ([['é', '/'], ['😀']].map .string)) := .exclude rfl
    rw [← (by decide +kernel : excludeKey = ['e', 'x', 'c', 'l', 'u', 'd', 'e'])]
    exact
      { members := List.forall_mem_cons.2 ⟨.range bounds,
          List.forall_mem_cons.2 ⟨excluded, List.forall_mem_singleton.2 .guard⟩⟩
        exclude := fun absent => absurd (.tail _ (.head _)) absent
        excludeExtra := fun _ => rfl
        tokensHeader := fun _ => rfl
        mapHeader := fun _ => rfl
        guard := fun absent => absurd (.tail _ (.tail _ (.head _))) absent
        range := fun absent => absurd (.head _) absent }
  have spelled : s.Spelled t :=
    cast (congrArg s.Spelled (by decide +kernel)) (Spelled.mk blank object gap stated)
  exact ⟨writable, spelled, (ofText_undoes_writing writable).2 t spelled⟩

end Settings

end TokenTables
