import Mathlib.Data.Bool.AllAny
import TokenTables.Json.Reader
import TokenTables.Proofs.Except
import TokenTables.Proofs.Json.Spelling

/-!
How a JSON value may be written, and that reading undoes every such writing. White space stands freely
between the tokens, and strings are spelled in any way. Covered are strings, whole numbers that a byte
holds, and lists and objects of them; how deep these nest is counted as the reader counts it. Main
statement: `ofText_of_spelled`.
-/

namespace TokenTables.Json

def ofByte (b : UInt8) : Json := .number ⟨false, Text.decimal b.toNat, none, none⟩

def Space (w : Text) : Prop := ∀ c ∈ w, c ∈ [' ', '\n', '\t', '\r']

theorem space_nil : Space [] := fun _ h => absurd h List.not_mem_nil

/-- Items with commas between them, and white space around each. -/
inductive Separated {α : Type} (spelled : α → Text → Prop) : List α → Text → Prop
  | last {x : α} {before w after : Text} (lead : Space before) (head : spelled x w)
      (trail : Space after) : Separated spelled [x] (before ++ (w ++ after))
  | more {x : α} {xs : List α} {before w after others : Text} (lead : Space before)
      (head : spelled x w) (trail : Space after) (tail : Separated spelled xs others) :
      Separated spelled (x :: xs) (before ++ (w ++ (after ++ ',' :: others)))

/-- What may stand between the brackets of a list or an object. -/
inductive SpelledItems {α : Type} (spelled : α → Text → Prop) : List α → Text → Prop
  | none {w : Text} (gap : Space w) : SpelledItems spelled [] w
  | some {xs : List α} {w : Text} (items : Separated spelled xs w) : SpelledItems spelled xs w

inductive SpelledMember (spelled : Json → Text → Prop) : Text × Json → Text → Prop
  | mk {key k before after w : Text} {val : Json} (name : SpelledText key k) (lead : Space before)
      (trail : Space after) (body : spelled val w) :
      SpelledMember spelled (key, val) ('"' :: (k ++ '"' :: (before ++ ':' :: (after ++ w))))

inductive SpelledScalar : Json → Text → Prop
  | string {t w : Text} (body : SpelledText t w) :
      SpelledScalar (.string t) ('"' :: (w ++ ['"']))
  | byte (b : UInt8) : SpelledScalar (ofByte b) (Text.decimal b.toNat)

/-- A scalar, or a container whose items are written by `inner`. -/
inductive SpelledOver (inner : Json → Text → Prop) : Json → Text → Prop
  | scalar {v : Json} {w : Text} (body : SpelledScalar v w) : SpelledOver inner v w
  | array {vals : List Json} {w : Text} (body : SpelledItems inner vals w) :
      SpelledOver inner (.array vals) ('[' :: (w ++ [']']))
  | object {ms : List (Text × Json)} {w : Text} (body : SpelledItems (SpelledMember inner) ms w) :
      SpelledOver inner (.object ms) ('\x7b' :: (w ++ ['\x7d']))

def Spelled : (depth : Nat) → Json → Text → Prop
  | 0 => SpelledScalar
  | depth + 1 => SpelledOver (Spelled depth)

theorem exists_separated {α : Type} {spelled : α → Text → Prop} {xs : List α}
    (each : ∀ x ∈ xs, ∃ w, spelled x w) (nonempty : xs ≠ []) : ∃ w, Separated spelled xs w := by
  induction xs with
  | nil => contradiction
  | cons x xs ih =>
    obtain ⟨⟨w, head⟩, others⟩ := List.forall_mem_cons.1 each
    by_cases last : xs = []
    · subst last
      exact ⟨_, .last space_nil head space_nil⟩
    · obtain ⟨t, tail⟩ := ih others last
      exact ⟨_, .more space_nil head space_nil tail⟩

theorem exists_spelledItems {α : Type} {spelled : α → Text → Prop} {xs : List α}
    (each : ∀ x ∈ xs, ∃ w, spelled x w) : ∃ w, SpelledItems spelled xs w := by
  by_cases empty : xs = []
  · subst empty
    exact ⟨[], .none space_nil⟩
  · obtain ⟨w, items⟩ := exists_separated each empty
    exact ⟨w, .some items⟩

theorem exists_spelledMember {spelled : Json → Text → Prop} (key : Text) {val : Json}
    (body : ∃ w, spelled val w) : ∃ w, SpelledMember spelled (key, val) w := by
  obtain ⟨k, name⟩ := exists_spelledText key
  obtain ⟨w, written⟩ := body
  exact ⟨_, .mk name space_nil space_nil written⟩

theorem exists_spelledScalar_string (t : Text) : ∃ w, SpelledScalar (.string t) w := by
  obtain ⟨w, body⟩ := exists_spelledText t
  exact ⟨_, .string body⟩

namespace Reader

theorem isSpace_iff {c : Char} : isSpace c = true ↔ c ∈ [' ', '\n', '\t', '\r'] := by
  simp [isSpace, or_assoc]

theorem skipSpace_append {gap : Text} (space : Space gap) (t : Text) :
    skipSpace (gap ++ t) = skipSpace t :=
  List.dropWhile_append_of_pos fun c h => isSpace_iff.2 (space c h)

@[simp] theorem skipSpace_cons {c : Char} (ink : isSpace c = false) (t : Text) :
    skipSpace (c :: t) = c :: t :=
  List.dropWhile_cons_of_neg (by simp [ink])

theorem skipSpace_gap {gap : Text} (space : Space gap) {c : Char} (ink : isSpace c = false)
    (t : Text) : skipSpace (gap ++ c :: t) = c :: t := by
  rw [skipSpace_append space, skipSpace_cons ink]

theorem length_skipSpace_le (t : Text) : (skipSpace t).length ≤ t.length :=
  (List.dropWhile_sublist _).length_le

/-! ## Numbers -/

theorem ne_of_isDigit {c : Char} {marks : List Char} (digit : c.isDigit = true)
    (none : marks.any Char.isDigit = false) : ∀ d ∈ marks, c ≠ d := by
  rintro d mark rfl
  exact List.any_eq_false.1 none c mark digit

theorem isSpace_of_isDigit {c : Char} (digit : c.isDigit = true) : isSpace c = false :=
  Bool.eq_false_iff.2 fun space => ne_of_isDigit digit (by decide) c (isSpace_iff.1 space) rfl

/-- No number goes on with the first character of `rest`. -/
def EndsNumber (rest : Text) : Prop :=
  ∀ c ∈ rest.head?, c.isDigit = false ∧ c ≠ '.' ∧ c ≠ 'e' ∧ c ≠ 'E'

theorem endsNumber_of_space {gap : Text} (space : Space gap) : EndsNumber gap := by
  have apart : ∀ c ∈ [' ', '\n', '\t', '\r'],
      c.isDigit = false ∧ c ≠ '.' ∧ c ≠ 'e' ∧ c ≠ 'E' := List.all_iff_forall_prop.1 (by decide)
  exact fun c first => apart c (space c (List.mem_of_mem_head? first))

theorem endsNumber_gap {gap : Text} (space : Space gap) {c : Char} (mark : c ∈ [',', ']', '\x7d'])
    (rest : Text) : EndsNumber (gap ++ c :: rest) := by
  have apart : ∀ c ∈ [',', ']', '\x7d'],
      c.isDigit = false ∧ c ≠ '.' ∧ c ≠ 'e' ∧ c ≠ 'E' := List.all_iff_forall_prop.1 (by decide)
  cases gap with
  | nil =>
    intro d first
    obtain rfl : c = d := by simpa using first
    exact apart c mark
  | cons d gap =>
    exact fun e first => endsNumber_of_space space e first

theorem digits_append {ds rest : Text} (all : ∀ c ∈ ds, c.isDigit = true) (ends : EndsNumber rest) :
    digits (ds ++ rest) = (ds, rest) := by
  have stop : rest.takeWhile Char.isDigit = [] ∧ rest.dropWhile Char.isDigit = rest := by
    cases rest with
    | nil => exact ⟨rfl, rfl⟩
    | cons c rest =>
      have noDigit : ¬ c.isDigit = true := by simp [(ends c rfl).1]
      exact ⟨List.takeWhile_cons_of_neg noDigit, List.dropWhile_cons_of_neg noDigit⟩
  rw [digits, List.takeWhile_append_of_pos all, List.dropWhile_append_of_pos all, stop.1, stop.2,
    List.append_nil]

theorem wholePart_append {c : Char} {ds rest : Text} (first : c.isDigit = true)
    (all : ∀ d ∈ ds, d.isDigit = true) (zero : c = '0' → ds = []) (ends : EndsNumber rest) :
    wholePart (c :: ds ++ rest) = .ok (c :: ds, rest) := by
  by_cases lead : c = '0'
  · have alone : digits ([] ++ rest) = ([], rest) := digits_append (by simp) ends
    have none : (digits rest).1 = [] := congrArg Prod.fst alone
    subst lead
    rw [zero rfl]
    simp only [List.cons_append, List.nil_append, wholePart, none, List.isEmpty_nil, if_true]
  · have whole : digits (c :: ds ++ rest) = (c :: ds, rest) :=
      digits_append (List.forall_mem_cons.2 ⟨first, all⟩) ends
    rw [List.cons_append] at whole ⊢
    unfold wholePart
    split
    · contradiction
    · next same => exact absurd (List.cons.inj same).1 lead
    · next same =>
      obtain ⟨rfl, rfl⟩ := List.cons.inj same
      rw [if_pos first, whole]

theorem fractionPart_none {rest : Text} (ends : EndsNumber rest) :
    fractionPart rest = .ok (none, rest) := by
  unfold fractionPart
  split
  · exact absurd rfl (ends '.' rfl).2.1
  · rfl

theorem exponentPart_none {rest : Text} (ends : EndsNumber rest) :
    exponentPart rest = .ok (none, rest) := by
  unfold exponentPart
  split
  · rfl
  · next c _ => exact if_neg (not_or.2 (ends c rfl).2.2)

theorem decimal_byte : ∀ n < 256,
    ((Text.decimal n).head? = some '0' → (Text.decimal n).tail = []) ∧
      Number.excess? ⟨false, Text.decimal n, none, none⟩ = none := by
  decide +kernel

theorem decimal_eq_cons (n : Nat) :
    ∃ c ds, Text.decimal n = c :: ds ∧ c.isDigit = true ∧ ∀ d ∈ ds, d.isDigit = true := by
  have all : ∀ d ∈ Text.decimal n, d.isDigit = true := fun d h => Text.isDigit_of_mem_decimal h
  cases shape : Text.decimal n with
  | nil => exact absurd shape Nat.toDigits_ne_nil
  | cons c ds =>
    rw [shape] at all
    obtain ⟨first, others⟩ := List.forall_mem_cons.1 all
    exact ⟨c, ds, rfl, first, others⟩

theorem number_byte (b : UInt8) {rest : Text} (ends : EndsNumber rest) :
    number (Text.decimal b.toNat ++ rest) =
      .ok (⟨false, Text.decimal b.toNat, none, none⟩, rest) := by
  obtain ⟨noZero, small⟩ := decimal_byte b.toNat b.toNat_lt
  obtain ⟨c, ds, shape, first, others⟩ := decimal_eq_cons b.toNat
  rw [shape] at noZero small ⊢
  have unsigned : numberSign (c :: ds ++ rest) = (false, c :: ds ++ rest) := by
    unfold numberSign
    split
    · next same =>
      obtain ⟨rfl, -⟩ := List.cons.inj same
      contradiction
    · rfl
  have whole := wholePart_append first others (fun zero => noZero (by rw [zero]; rfl)) ends
  simp only [number, unsigned, whole, fractionPart_none ends, exponentPart_none ends, bind,
    Except.bind, small]

/-! ## Values -/

theorem valueWith_append {inner? : Option (Reader Json)} {gap : Text} (space : Space gap)
    (t : Text) : valueWith inner? (gap ++ t) = valueWith inner? t := by
  simp only [valueWith, skipSpace_append space]

theorem value_append (depth : Nat) {gap : Text} (space : Space gap) (t : Text) :
    value depth (gap ++ t) = value depth t := by
  cases depth with
  | zero => exact valueWith_append space t
  | succ depth => exact valueWith_append space t

/-- `item` reads whatever `spelled` writes, in front of everything that does not go on a number; and
what is written can be told from white space and from the end of a container. -/
structure Reads {α : Type} (item : Reader α) (spelled : α → Text → Prop) : Prop where
  opens {x : α} {w : Text} : spelled x w →
    ∃ c t, w = c :: t ∧ isSpace c = false ∧ ∀ close ∈ [']', '\x7d'], c ≠ close
  reads {x : α} {w rest : Text} : spelled x w → EndsNumber rest →
    item (w ++ rest) = .ok (x, rest)

theorem valueWith_string (inner? : Option (Reader Json)) {t w : Text} (body : SpelledText t w)
    (rest : Text) : valueWith inner? ('"' :: (w ++ ['"']) ++ rest) = .ok (.string t, rest) := by
  have text : '"' :: (w ++ ['"']) ++ rest = '"' :: (w ++ '"' :: rest) := by simp
  rw [text]
  simp only [valueWith, skipSpace_cons (show isSpace '"' = false by decide),
    stringBody_of_spelled body, ok_bind]

theorem valueWith_digit (inner? : Option (Reader Json)) {c : Char} (first : c.isDigit = true)
    (t : Text) : valueWith inner? (c :: t) = (number (c :: t)).map fun n => (.number n.1, n.2) := by
  have apart : ∀ d ∈ ['n', 't', 'f', '"', '[', '\x7b'], c ≠ d := ne_of_isDigit first (by decide)
  unfold valueWith
  rw [skipSpace_cons (isSpace_of_isDigit first)]
  split
  case h_8 same =>
    obtain ⟨rfl, rfl⟩ := List.cons.inj same
    rw [if_pos (.inr first)]
    cases number (c :: t) <;> rfl
  case h_1 same => contradiction
  all_goals
    next same => exact absurd (List.cons.inj same).1 (apart _ (by decide))

theorem valueWith_byte (inner? : Option (Reader Json)) (b : UInt8) {rest : Text}
    (ends : EndsNumber rest) :
    valueWith inner? (Text.decimal b.toNat ++ rest) = .ok (ofByte b, rest) := by
  have read := number_byte b ends
  obtain ⟨c, ds, shape, first, -⟩ := decimal_eq_cons b.toNat
  rw [shape, List.cons_append] at read ⊢
  rw [valueWith_digit inner? first, read, ofByte, shape]
  rfl

theorem reads_scalar (inner? : Option (Reader Json)) :
    Reads (valueWith inner?) SpelledScalar where
  opens written := by
    cases written with
    | string body => exact ⟨'"', _, rfl, by decide, by simp⟩
    | byte b =>
      obtain ⟨c, ds, shape, first, -⟩ := decimal_eq_cons b.toNat
      exact ⟨c, ds, shape, isSpace_of_isDigit first, ne_of_isDigit first (by decide)⟩
  reads written ends := by
    cases written with
    | string body => exact valueWith_string inner? body _
    | byte b => exact valueWith_byte inner? b ends

/-! ## Lists and objects -/

/-- A loop over items between commas that ends with `close`: what it does after its last item, and
what it does after any other. -/
structure Loop {α : Type} (item : Reader α) (close : Char) (loop : Nat → Reader (List α)) : Prop where
  last {x : α} {t rest after : Text} {room : Nat} : item t = .ok (x, rest) →
    skipSpace rest = close :: after → loop (room + 1) t = .ok ([x], after)
  more {x : α} {xs : List α} {t rest next after : Text} {c : Char} {others : Text} {room : Nat} :
    item t = .ok (x, rest) → skipSpace rest = ',' :: next → skipSpace next = c :: others →
    c ≠ close → loop room (c :: others) = .ok (xs, after) →
    loop (room + 1) t = .ok (x :: xs, after)

theorem loop_items (item : Reader Json) : Loop item ']' (items item) where
  last read ends := by simp only [items, read, ends, ok_bind]
  more read comma next inside others := by
    simp only [items, read, comma, next, ok_bind]
    split
    · contradiction
    · next same => exact absurd (List.cons.inj same).1 inside
    · rw [others, ok_bind]

theorem loop_members (item : Reader Json) : Loop (member item) '\x7d' (members item) where
  last read ends := by simp only [members, read, ends, ok_bind]
  more read comma next inside others := by
    simp only [members, read, comma, next, ok_bind]
    split
    · contradiction
    · next same => exact absurd (List.cons.inj same).1 inside
    · rw [others, ok_bind]

section Containers

variable {α : Type} {item : Reader α} {spelled : α → Text → Prop}

theorem Reads.skipSpace_eq (r : Reads item spelled) {x : α} {before w : Text}
    (lead : Space before) (head : spelled x w) (rest : Text) :
    skipSpace (before ++ (w ++ rest)) = w ++ rest := by
  obtain ⟨c, t, rfl, ink, -⟩ := r.opens head
  exact skipSpace_gap lead ink (t ++ rest)

theorem Reads.skipSpace_separated (r : Reads item spelled) {xs : List α} {w : Text}
    (h : Separated spelled xs w) (rest : Text) :
    ∃ c t, skipSpace (w ++ rest) = c :: t ∧ ∀ close ∈ [']', '\x7d'], c ≠ close := by
  cases h with
  | last lead head _ | more lead head _ _ =>
    rw [List.append_assoc, List.append_assoc, r.skipSpace_eq lead head]
    obtain ⟨c, t, rfl, -, inside⟩ := r.opens head
    exact ⟨c, _, rfl, inside⟩

/-- A loop over enough room reads all items, by induction on how they are written. What is left to
read gets shorter with every item, so the room lasts. -/
theorem Loop.reads {close : Char} {loop : Nat → Reader (List α)} (l : Loop item close loop)
    (r : Reads item spelled) (bracket : close ∈ [']', '\x7d']) {xs : List α} {w : Text}
    (h : Separated spelled xs w) (rest : Text) {room : Nat}
    (enough : (skipSpace (w ++ close :: rest)).length ≤ room) :
    loop room (skipSpace (w ++ close :: rest)) = .ok (xs, rest) := by
  have nonempty {x : α} {w : Text} (head : spelled x w) : 0 < w.length := by
    obtain ⟨c, t, rfl, -⟩ := r.opens head
    exact Nat.succ_pos _
  induction h generalizing room with
  | @last x before w after lead head trail =>
    have ink : isSpace close = false :=
      (List.all_iff_forall_prop.1 (by decide) : ∀ c ∈ [']', '\x7d'], isSpace c = false) close bracket
    rw [List.append_assoc, List.append_assoc, r.skipSpace_eq lead head] at enough ⊢
    have := nonempty head
    obtain ⟨room, rfl⟩ : ∃ left, room = left + 1 :=
      ⟨room - 1, by simp only [List.length_append] at enough; omega⟩
    exact l.last (r.reads head (endsNumber_gap trail (.tail _ bracket) rest))
      (skipSpace_gap trail ink rest)
  | @more x xs before w after others lead head trail tail ih =>
    rw [List.append_assoc, List.append_assoc, List.append_assoc, List.cons_append,
      r.skipSpace_eq lead head] at enough ⊢
    have := nonempty head
    have shrinks := length_skipSpace_le (others ++ close :: rest)
    obtain ⟨room, rfl⟩ : ∃ left, room = left + 1 :=
      ⟨room - 1, by simp only [List.length_append] at enough; omega⟩
    obtain ⟨c, t, next, inside⟩ := r.skipSpace_separated tail (close :: rest)
    -- The comma alone pays for the one round that this item takes.
    have left : (skipSpace (others ++ close :: rest)).length ≤ room := by
      simp only [List.length_append, List.length_cons] at enough shrinks ⊢
      omega
    have read := ih left
    rw [next] at read
    exact l.more (r.reads head (endsNumber_gap trail (.head _) _))
      (skipSpace_gap trail (by decide) _) next (inside close bracket) read

theorem Loop.reads_all {close : Char} {loop : Nat → Reader (List α)} (l : Loop item close loop)
    (r : Reads item spelled) (bracket : close ∈ [']', '\x7d']) {xs : List α} {w : Text}
    (h : Separated spelled xs w) (rest : Text) :
    ∃ c t, skipSpace (w ++ close :: rest) = c :: t ∧ c ≠ close ∧
      loop (c :: t).length (c :: t) = .ok (xs, rest) := by
  have read := l.reads r bracket h rest (Nat.le_refl _)
  obtain ⟨c, t, next, inside⟩ := r.skipSpace_separated h (close :: rest)
  rw [next] at read
  exact ⟨c, t, next, inside close bracket, read⟩

end Containers

theorem arrayBody_of_spelled {item : Reader Json} {spelled : Json → Text → Prop}
    (r : Reads item spelled) {vals : List Json} {w : Text} (h : SpelledItems spelled vals w)
    (rest : Text) : arrayBody item (w ++ ']' :: rest) = .ok (.array vals, rest) := by
  cases h with
  | none gap => simp only [arrayBody, skipSpace_gap gap (show isSpace ']' = false by decide)]
  | some items =>
    obtain ⟨c, t, next, inside, read⟩ := (loop_items item).reads_all r (by decide) items rest
    unfold arrayBody
    rw [next]
    split
    · contradiction
    · next same => exact absurd (List.cons.inj same).1 inside
    · rw [read]
      rfl

theorem objectBody_of_spelled {item : Reader Json} {spelled : Text × Json → Text → Prop}
    (r : Reads (member item) spelled) {ms : List (Text × Json)} {w : Text}
    (h : SpelledItems spelled ms w) (rest : Text) :
    objectBody item (w ++ '\x7d' :: rest) = .ok (.object ms, rest) := by
  cases h with
  | none gap => simp only [objectBody, skipSpace_gap gap (show isSpace '\x7d' = false by decide)]
  | some items =>
    obtain ⟨c, t, next, inside, read⟩ := (loop_members item).reads_all r (by decide) items rest
    unfold objectBody
    rw [next]
    split
    · contradiction
    · next same => exact absurd (List.cons.inj same).1 inside
    · rw [read]
      rfl

theorem reads_member {item : Reader Json} {spelled : Json → Text → Prop} (r : Reads item spelled)
    (skips : ∀ {gap : Text}, Space gap → ∀ t, item (gap ++ t) = item t) :
    Reads (member item) (SpelledMember spelled) where
  opens written := by
    cases written
    exact ⟨'"', _, rfl, by decide, by simp⟩
  reads {m written rest} spelled ends := by
    cases spelled with
    | @mk key k before after w val name lead trail body =>
      have text : '"' :: (k ++ '"' :: (before ++ ':' :: (after ++ w))) ++ rest =
          '"' :: (k ++ '"' :: (before ++ ':' :: (after ++ (w ++ rest)))) := by simp
      rw [text]
      simp only [member, stringBody_of_spelled name, skips trail, r.reads body ends, ok_bind,
        skipSpace_gap lead (show isSpace ':' = false by decide)]

theorem reads_over {item : Reader Json} {inner : Json → Text → Prop} (r : Reads item inner)
    (skips : ∀ {gap : Text}, Space gap → ∀ t, item (gap ++ t) = item t) :
    Reads (valueWith (some item)) (SpelledOver inner) where
  opens written := by
    cases written with
    | scalar body => exact (reads_scalar none).opens body
    | array body => exact ⟨'[', _, rfl, by decide, by simp⟩
    | object body => exact ⟨'\x7b', _, rfl, by decide, by simp⟩
  reads {v written rest} spelled ends := by
    cases spelled with
    | scalar body => exact (reads_scalar (some item)).reads body ends
    | @array vals w body =>
      have text : '[' :: (w ++ [']']) ++ rest = '[' :: (w ++ ']' :: rest) := by simp
      rw [text]
      simp only [valueWith, skipSpace_cons (show isSpace '[' = false by decide),
        arrayBody_of_spelled r body]
    | @object ms w body =>
      have text : '\x7b' :: (w ++ ['\x7d']) ++ rest = '\x7b' :: (w ++ '\x7d' :: rest) := by simp
      rw [text]
      simp only [valueWith, skipSpace_cons (show isSpace '\x7b' = false by decide),
        objectBody_of_spelled (reads_member r skips) body]

theorem reads_value {room depth : Nat} (fits : depth ≤ room) :
    Reads (value room) (Spelled depth) := by
  induction depth generalizing room with
  | zero =>
    cases room with
    | zero => exact reads_scalar none
    | succ room => exact reads_scalar (some (value room))
  | succ depth ih =>
    obtain ⟨room, rfl⟩ : ∃ left, room = left + 1 := ⟨room - 1, by omega⟩
    exact reads_over (ih (by omega)) (value_append room)

end Reader

/-- Reading undoes writing, with white space around the whole text too. -/
theorem ofText_of_spelled {depth : Nat} (fits : depth ≤ Reader.deepest) {v : Json}
    {before w after : Text} (lead : Space before) (body : Spelled depth v w) (trail : Space after) :
    ofText (before ++ (w ++ after)) = .ok v := by
  have read := (Reader.reads_value fits).reads body (Reader.endsNumber_of_space trail)
  have ends : Reader.skipSpace after = [] := by
    simpa [Reader.skipSpace] using Reader.skipSpace_append trail []
  have whole : Json.read (before ++ (w ++ after)) = .ok v := by
    simp only [Json.read, Reader.value_append Reader.deepest lead, read, ok_bind, ends]
  rw [ofText, whole]

end TokenTables.Json
