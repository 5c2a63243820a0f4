import Mathlib.Data.List.Induction
import Mathlib.Data.List.Perm.Basic
import TokenTables.Proofs.Json.Fields
import TokenTables.Proofs.Text.ByteOrder

/-!
An object as a mapping from keys to values: a key has the value of the last member that has it. The
fields of an object are this mapping, listed in key order. A fold over them that stops at a fault stops
at the fault of the least key, and otherwise has taken the value of every key.
-/

namespace TokenTables

namespace Text

theorem lt_iff_not_le {a b : Text} : lt a b = true ↔ ¬ le b a = true := by
  simp [lt]

theorem le_of_lt {a b : Text} (h : lt a b = true) : le a b = true := by
  have total := le_total a b
  simpa [lt_iff_not_le.1 h] using total

theorem ne_of_lt {a b : Text} (h : lt a b = true) : a ≠ b := by
  rintro rfl
  exact lt_iff_not_le.1 h (by simpa using le_total a a)

theorem lt_of_lt_of_le {a b c : Text} (ab : lt a b = true) (bc : le b c = true) : lt a c = true :=
  lt_iff_not_le.2 fun ca => lt_iff_not_le.1 ab (le_trans b c a bc ca)

theorem lt_of_le_of_ne {a b : Text} (h : le a b = true) (differ : a ≠ b) : lt a b = true :=
  lt_iff_not_le.2 fun back => differ (le_antisymm h back)

end Text

namespace Json

def lastValue? (ms : List (Text × Json)) (key : Text) : Option Json :=
  (ms.filter fun m => m.1 = key).getLast?.map Prod.snd

@[simp] theorem lastValue?_nil (key : Text) : lastValue? [] key = none := rfl

theorem lastValue?_append (ms others : List (Text × Json)) (key : Text) :
    lastValue? (ms ++ others) key = (lastValue? others key).or (lastValue? ms key) := by
  rw [lastValue?, List.filter_append, List.getLast?_append, Option.map_or]
  rfl

theorem lastValue?_cons (m : Text × Json) (ms : List (Text × Json)) (key : Text) :
    lastValue? (m :: ms) key = (lastValue? ms key).or (if m.1 = key then some m.2 else none) := by
  have alone : lastValue? [m] key = if m.1 = key then some m.2 else none := by
    by_cases same : m.1 = key
    · simp [lastValue?, same]
    · simp [lastValue?, same]
  rw [← alone, ← lastValue?_append, List.singleton_append]

theorem lastValue?_concat (ms : List (Text × Json)) (m : Text × Json) (key : Text) :
    lastValue? (ms ++ [m]) key = if m.1 = key then some m.2 else lastValue? ms key := by
  rw [lastValue?_append, lastValue?_cons, lastValue?_nil]
  split <;> rfl

theorem lastValue?_eq_none_iff {ms : List (Text × Json)} {key : Text} :
    lastValue? ms key = none ↔ key ∉ ms.map Prod.fst := by
  rw [lastValue?, Option.map_eq_none_iff, List.getLast?_eq_none_iff, List.filter_eq_nil_iff]
  simp only [decide_eq_true_eq, List.mem_map, not_exists, not_and]

/-- Two mappings differ at most under one key. -/
def AgreeOff (key : Text) (ms ms' : List (Text × Json)) : Prop :=
  ∀ other ≠ key, lastValue? ms other = lastValue? ms' other

theorem AgreeOff.symm {key : Text} {ms ms' : List (Text × Json)} (agree : AgreeOff key ms ms') :
    AgreeOff key ms' ms :=
  fun other differ => (agree other differ).symm

theorem agreeOff_insert (before after : List (Text × Json)) (key : Text) (val : Json) :
    AgreeOff key (before ++ after) (before ++ (key, val) :: after) := by
  intro other differ
  rw [lastValue?_append, lastValue?_append, lastValue?_cons, if_neg differ.symm, Option.or_none]

theorem agreeOff_replace (before after : List (Text × Json)) (key : Text) (val val' : Json) :
    AgreeOff key (before ++ (key, val) :: after) (before ++ (key, val') :: after) := by
  intro other differ
  rw [← agreeOff_insert before after key val other differ, agreeOff_insert before after key val' other differ]

theorem lastValue?_insert (before after : List (Text × Json)) (key : Text) (val : Json) :
    lastValue? (before ++ (key, val) :: after) key = (lastValue? after key).or (some val) := by
  rw [lastValue?_append, lastValue?_cons, if_pos rfl, Option.or_assoc, Option.some_or]

/-! ## Key order -/

def ByKey (fs : List (Text × Json)) : Prop := fs.Pairwise fun f g => Text.lt f.1 g.1 = true

theorem byKey_setField {fs : List (Text × Json)} (sorted : ByKey fs) (key : Text) (val : Json) :
    ByKey (setField key val fs) := by
  induction fs with
  | nil => exact List.pairwise_singleton _ _
  | cons first rest ih =>
    obtain ⟨below, others⟩ := List.pairwise_cons.1 sorted
    unfold setField
    split
    · next same =>
      exact List.pairwise_cons.2 ⟨fun f mem => same ▸ below f mem, others⟩
    · next differ =>
      split
      · next less =>
        refine List.pairwise_cons.2 ⟨fun f mem => ?_, sorted⟩
        rcases List.mem_cons.1 mem with rfl | later
        · exact less
        · exact Text.lt_of_lt_of_le less (Text.le_of_lt (below f later))
      · next notLess =>
        have above : Text.lt first.1 key = true :=
          Text.lt_of_le_of_ne (by simpa [Text.lt] using notLess) (Ne.symm differ)
        refine List.pairwise_cons.2 ⟨fun f mem => ?_, ih others⟩
        rcases mem_setField mem with rfl | older
        · exact above
        · exact below f older

theorem mem_setField_iff {fs : List (Text × Json)} (sorted : ByKey fs) {key : Text} {val : Json}
    {f : Text × Json} : f ∈ setField key val fs ↔ f = (key, val) ∨ f ∈ fs ∧ f.1 ≠ key := by
  induction fs with
  | nil => simp [setField]
  | cons first rest ih =>
    obtain ⟨below, others⟩ := List.pairwise_cons.1 sorted
    unfold setField
    split
    · next same =>
      have apart : ∀ g ∈ rest, g.1 ≠ key := fun g mem => same ▸ (Text.ne_of_lt (below g mem)).symm
      constructor
      · intro mem
        exact (List.mem_cons.1 mem).imp_right fun later => ⟨.tail _ later, apart f later⟩
      · rintro (rfl | ⟨mem, differ⟩)
        · exact .head rest
        · exact .tail _ ((List.mem_cons.1 mem).resolve_left fun eq => differ (by rw [eq, same]))
    · next differ =>
      split
      · next less =>
        -- The key stands before all that are there, so none of them has it.
        have apart : ∀ g ∈ first :: rest, g.1 ≠ key := by
          intro g mem
          rcases List.mem_cons.1 mem with rfl | later
          · exact (Text.ne_of_lt less).symm
          · exact (Text.ne_of_lt (Text.lt_of_lt_of_le less (Text.le_of_lt (below g later)))).symm
        rw [List.mem_cons]
        exact or_congr_right ⟨fun mem => ⟨mem, apart f mem⟩, And.left⟩
      · rw [List.mem_cons, ih others, List.mem_cons]
        constructor
        · rintro (rfl | new | ⟨older, other⟩)
          · exact .inr ⟨.inl rfl, Ne.symm differ⟩
          · exact .inl new
          · exact .inr ⟨.inr older, other⟩
        · rintro (new | ⟨rfl | older, other⟩)
          · exact .inr (.inl new)
          · exact .inl rfl
          · exact .inr (.inr ⟨older, other⟩)

theorem fields_concat (ms : List (Text × Json)) (m : Text × Json) :
    fields (ms ++ [m]) = setField m.1 m.2 (fields ms) := by
  rw [fields, List.foldl_append]
  rfl

theorem byKey_fields (ms : List (Text × Json)) : ByKey (fields ms) := by
  induction ms using List.reverseRecOn with
  | nil => exact .nil
  | append_singleton ms m ih =>
    rw [fields_concat]
    exact byKey_setField ih m.1 m.2

theorem mem_fields_iff {ms : List (Text × Json)} {key : Text} {val : Json} :
    (key, val) ∈ fields ms ↔ lastValue? ms key = some val := by
  induction ms using List.reverseRecOn with
  | nil => simp [fields]
  | append_singleton ms m ih =>
    rw [fields_concat, mem_setField_iff (byKey_fields ms), ih, lastValue?_concat]
    by_cases same : m.1 = key
    · simp [same, eq_comm]
    · simp [same, Ne.symm same, Prod.ext_iff]

/-! ## Folds over the fields -/

/-- Of the faults `found` under keys, the one under the least key, in the order of UTF-8 bytes. -/
def LeastFault {ε : Type} (found : Text → ε → Prop) (e : ε) : Prop :=
  ∃ key, found key e ∧ ∀ other e', found other e' → Text.bytes key ≤ Text.bytes other

def Faults {ε : Type} (fault : Text → Json → ε → Prop) (ms : List (Text × Json)) (key : Text) (e : ε) :
    Prop :=
  ∃ val, lastValue? ms key = some val ∧ fault key val e

theorem AgreeOff.faults_iff {ε : Type} {fault : Text → Json → ε → Prop} {key : Text}
    {ms ms' : List (Text × Json)} (agree : AgreeOff key ms ms') :
    ∀ other ≠ key, ∀ e, Faults fault ms other e ↔ Faults fault ms' other e := by
  intro other differ e
  unfold Faults
  rw [agree other differ]

theorem LeastFault.congr {ε : Type} {a b : Text → ε → Prop} (same : ∀ key e, a key e ↔ b key e) {e : ε} :
    LeastFault a e ↔ LeastFault b e := by
  unfold LeastFault
  simp only [same]

/-- Where two mappings differ under one key only, at which the first has a fault if the second has, the
least fault of the first is one that only the first has under that key, or the least of the second. -/
theorem LeastFault.of_agree {ε : Type} {a b : Text → ε → Prop} {key : Text}
    (agree : ∀ other ≠ key, ∀ e, a other e ↔ b other e) (kept : ∀ e, b key e → ∃ e', a key e') {e : ε}
    (least : LeastFault a e) : (a key e ∧ ¬ b key e) ∨ LeastFault b e := by
  by_cases lost : a key e ∧ ¬ b key e
  · exact .inl lost
  refine .inr ?_
  obtain ⟨own, fault, below⟩ := least
  have found : b own e := by
    by_cases same : own = key
    · subst same
      exact not_not.1 fun missing => lost ⟨fault, missing⟩
    · exact (agree own same e).1 fault
  refine ⟨own, found, fun other e' also => ?_⟩
  by_cases here : other = key
  · subst here
    obtain ⟨e'', stays⟩ := kept e' also
    exact below other e'' stays
  · exact below other e' ((agree other here e').2 also)

section Folds

variable {σ ε : Type} {step : σ → Text × Json → Except ε σ} {fault : Text → Json → ε → Prop}

theorem foldlM_eq_error_iff (refuses : ∀ s key val e, step s (key, val) = .error e ↔ fault key val e)
    {fs : List (Text × Json)} (sorted : ByKey fs) {s : σ} {e : ε} :
    fs.foldlM step s = .error e ↔
      ∃ f ∈ fs, fault f.1 f.2 e ∧ ∀ g ∈ fs, ∀ e', fault g.1 g.2 e' → Text.le f.1 g.1 = true := by
  induction fs generalizing s with
  | nil => exact ⟨nofun, fun ⟨_, mem, _⟩ => absurd mem List.not_mem_nil⟩
  | cons first rest ih =>
    obtain ⟨below, others⟩ := List.pairwise_cons.1 sorted
    have refl (f : Text × Json) : Text.le f.1 f.1 = true := by simpa using Text.le_total f.1 f.1
    rw [List.foldlM_cons]
    -- Keys ascend, so a fault of the first field is the least, and one that has passed is none.
    cases taken : step s first with
    | error own =>
      have refused : fault first.1 first.2 own := (refuses s _ _ own).1 taken
      constructor
      · rintro ⟨⟩
        refine ⟨first, .head rest, refused, fun g mem _ _ => ?_⟩
        rcases List.mem_cons.1 mem with rfl | later
        · exact refl g
        · exact Text.le_of_lt (below g later)
      · rintro ⟨f, mem, found, least⟩
        rcases List.mem_cons.1 mem with rfl | later
        · have same := (refuses s _ _ e).2 found
          exact taken.symm.trans same
        · exact absurd (least first (.head rest) own refused) (Text.lt_iff_not_le.1 (below f later))
    | ok next =>
      have passed (e' : ε) : ¬ fault first.1 first.2 e' := by
        intro found
        have refused := (refuses s _ _ e').2 found
        cases taken.symm.trans refused
      change rest.foldlM step next = .error e ↔ _
      rw [ih others]
      constructor
      · rintro ⟨f, mem, found, least⟩
        refine ⟨f, .tail _ mem, found, fun g inside e' other => ?_⟩
        rcases List.mem_cons.1 inside with rfl | later
        · exact absurd other (passed e')
        · exact least g later e' other
      · rintro ⟨f, mem, found, least⟩
        rcases List.mem_cons.1 mem with rfl | later
        · exact absurd found (passed e)
        · exact ⟨f, later, found, fun g inside => least g (.tail _ inside)⟩

/-- A fold over the fields fails with the fault of the least key, whatever its state is. -/
theorem foldlM_fields_eq_error_iff
    (refuses : ∀ s key val e, step s (key, val) = .error e ↔ fault key val e) {ms : List (Text × Json)}
    {s : σ} {e : ε} : (fields ms).foldlM step s = .error e ↔ LeastFault (Faults fault ms) e := by
  rw [foldlM_eq_error_iff refuses (byKey_fields ms)]
  constructor
  · rintro ⟨⟨key, val⟩, mem, found, least⟩
    refine ⟨key, ⟨val, mem_fields_iff.1 mem, found⟩, ?_⟩
    rintro other e' ⟨val', given, also⟩
    exact Text.le_iff_bytes_le.1 (least (other, val') (mem_fields_iff.2 given) e' also)
  · rintro ⟨key, ⟨val, given, found⟩, least⟩
    refine ⟨(key, val), mem_fields_iff.2 given, found, ?_⟩
    rintro ⟨other, val'⟩ mem e' also
    exact Text.le_iff_bytes_le.2 (least other e' ⟨val', mem_fields_iff.1 mem, also⟩)

theorem exists_step_of_foldlM {fs : List (Text × Json)} {s last : σ}
    (ended : fs.foldlM step s = .ok last) : ∀ f ∈ fs, ∃ before after, step before f = .ok after := by
  induction fs generalizing s with
  | nil => exact fun f mem => absurd mem List.not_mem_nil
  | cons first rest ih =>
    rw [List.foldlM_cons] at ended
    cases taken : step s first with
    | error e => rw [taken] at ended; cases ended
    | ok next =>
      rw [taken] at ended
      exact List.forall_mem_cons.2 ⟨⟨s, next, taken⟩, ih ended⟩

theorem exists_foldlM_fields_iff
    (refuses : ∀ s key val e, step s (key, val) = .error e ↔ fault key val e) {ms : List (Text × Json)}
    {s : σ} : (∃ last, (fields ms).foldlM step s = .ok last) ↔ ∀ key e, ¬ Faults fault ms key e := by
  constructor
  · rintro ⟨last, ended⟩ key e ⟨val, given, found⟩
    obtain ⟨before, after, taken⟩ := exists_step_of_foldlM ended _ (mem_fields_iff.2 given)
    cases taken.symm.trans ((refuses before key val e).2 found)
  · intro sound
    cases ended : (fields ms).foldlM step s with
    | error e =>
      obtain ⟨key, found, -⟩ := (foldlM_fields_eq_error_iff refuses).1 ended
      exact absurd found (sound key e)
    | ok last => exact ⟨last, rfl⟩

/-- What a field is if `val?` is the value under its key: what the value stands for, or the default. -/
def Given {α : Type} (stands : Json → α → Prop) (default : α) : Option Json → α → Prop
  | none, x => x = default
  | some val, x => stands val x

theorem part_of_foldlM {α : Type} (part : σ → α) (key : Text) {stands : Json → α → Prop}
    (each : ∀ s k val s', step s (k, val) = .ok s' →
      if k = key then stands val (part s') else part s' = part s)
    {fs : List (Text × Json)} (sorted : ByKey fs) {s last : σ} (ended : fs.foldlM step s = .ok last) :
    (∀ val, (key, val) ∈ fs → stands val (part last)) ∧
      (key ∉ fs.map Prod.fst → part last = part s) := by
  induction fs generalizing s with
  | nil =>
    obtain rfl : s = last := Except.ok.inj ended
    exact ⟨fun val mem => absurd mem List.not_mem_nil, fun _ => rfl⟩
  | cons first rest ih =>
    obtain ⟨below, rest_sorted⟩ := List.pairwise_cons.1 sorted
    rw [List.foldlM_cons] at ended
    cases taken : step s first with
    | error e => rw [taken] at ended; cases ended
    | ok next =>
      rw [taken] at ended
      have own := each s first.1 first.2 next taken
      obtain ⟨given, absent⟩ := ih rest_sorted ended
      constructor
      · intro val mem
        rcases List.mem_cons.1 mem with rfl | later
        · have unseen : key ∉ rest.map Prod.fst := by
            intro again
            obtain ⟨f, inside, same⟩ := List.mem_map.1 again
            exact Text.ne_of_lt (below f inside) same.symm
          rw [absent unseen]
          exact (if_pos rfl).mp own
        · exact given val later
      · intro unseen
        rw [List.map_cons, List.mem_cons, not_or] at unseen
        rw [absent unseen.2]
        exact (if_neg (Ne.symm unseen.1)).mp own

/-- A part of the state that only the steps under one key touch ends as the value under this key says. -/
theorem given_of_foldlM_fields {α : Type} (part : σ → α) (key : Text) {stands : Json → α → Prop}
    (each : ∀ s k val s', step s (k, val) = .ok s' →
      if k = key then stands val (part s') else part s' = part s)
    {ms : List (Text × Json)} {s last : σ} (ended : (fields ms).foldlM step s = .ok last) :
    Given stands (part s) (lastValue? ms key) (part last) := by
  obtain ⟨given, absent⟩ := part_of_foldlM part key each (byKey_fields ms) ended
  cases found : lastValue? ms key with
  | none =>
    refine absent fun mem => ?_
    exact lastValue?_eq_none_iff.1 found (key_mem_fields_iff.1 mem)
  | some val => exact given val (mem_fields_iff.2 found)

end Folds

end Json

end TokenTables
