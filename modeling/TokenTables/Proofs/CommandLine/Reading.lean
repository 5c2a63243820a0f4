import Mathlib.Data.List.Nodup
import Mathlib.Data.List.Perm.Basic
import TokenTables.Command
import TokenTables.Proofs.CommandLine.Spelling
import TokenTables.Proofs.Except

/-!
What reading a command line gives. The arguments of options in any spelling are read as these options, set
one after the other; so a line is accepted exactly if it writes one infile, one outfile and at most one
config in some order, and what it gives are their values. A line that lacks one of the first two is
refused as missing it, and one that repeats an option as repeating it.
-/

namespace TokenTables.CommandLine

namespace Given

def setAll (g : Given) (pairs : List (Key × Text)) : Except Stop Given :=
  pairs.foldlM (fun g pair => g.set pair.1 pair.2) g

variable {g g' : Given} {key : Key} {value : Text} {pairs : List (Key × Text)}

theorem setAll_nil : g.setAll [] = .ok g := rfl

theorem setAll_cons : g.setAll ((key, value) :: pairs) = g.set key value >>= fun g => g.setAll pairs :=
  rfl

theorem ext_get? {a b : Given} (same : ∀ key, a.get? key = b.get? key) : a = b := by
  cases a
  cases b
  have infile := same .infile
  have outfile := same .outfile
  have config := same .config
  simp only [get?] at infile outfile config
  rw [infile, outfile, config]

theorem set_of_some (taken : g.get? key ≠ none) : g.set key value = .error (.repeated key) := by
  unfold set
  rw [if_pos (Option.isSome_iff_ne_none.2 taken)]

theorem set_of_none (value : Text) (free : g.get? key = none) :
    ∃ g', g.set key value = .ok g' ∧
      ∀ other, g'.get? other = if other = key then some value else g.get? other := by
  have unset : ¬ (g.get? key).isSome := by simp [free]
  unfold set
  rw [if_neg unset]
  cases key with
  | infile | outfile | config =>
    refine ⟨_, rfl, fun other => ?_⟩
    cases other <;> rfl

/-- Options are set one after the other if no key is there twice; then all of them are, and no other. -/
theorem setAll_eq_ok_iff : g.setAll pairs = .ok g' ↔ (pairs.map Prod.fst).Nodup ∧
    (∀ key ∈ pairs.map Prod.fst, g.get? key = none) ∧
    ∀ key value, g'.get? key = some value ↔ g.get? key = some value ∨ (key, value) ∈ pairs := by
  induction pairs generalizing g with
  | nil =>
    rw [setAll_nil, Except.ok.injEq]
    constructor
    · rintro rfl
      simp
    · rintro ⟨-, -, same⟩
      refine ext_get? fun key => Option.ext fun value => ?_
      simpa using (same key value).symm
  | cons pair pairs ih =>
    obtain ⟨key, value⟩ := pair
    rw [setAll_cons]
    by_cases free : g.get? key = none
    · obtain ⟨next, done, get⟩ := set_of_none value free
      rw [done]
      change next.setAll pairs = .ok g' ↔ _
      -- After this option what is given is the old and its own, so the rest may name neither.
      have held (k : Key) (v : Text) :
          next.get? k = some v ↔ g.get? k = some v ∨ (k, v) = (key, value) := by
        rw [get]
        by_cases same : k = key
        · simp [same, free, eq_comm]
        · simp [same]
      have later : (∀ k ∈ pairs.map Prod.fst, next.get? k = none) ↔
          key ∉ pairs.map Prod.fst ∧ ∀ k ∈ pairs.map Prod.fst, g.get? k = none := by
        constructor
        · intro none
          refine ⟨fun again => ?_, fun k mem => ?_⟩
          · simpa [get] using none key again
          · by_cases same : k = key
            · rw [same, free]
            · simpa [get, same] using none k mem
        · rintro ⟨apart, none⟩ k mem
          have other : k ≠ key := by
            rintro rfl
            exact apart mem
          rw [get, if_neg other, none k mem]
      rw [ih, later, List.map_cons, List.nodup_cons, List.forall_mem_cons]
      simp only [held, or_assoc, List.mem_cons, free, true_and]
      tauto
    · rw [set_of_some free]
      refine iff_of_false nofun fun all => free (all.2.1 key ?_)
      simp

theorem setAll_error {stop : Stop} (failed : g.setAll pairs = .error stop) :
    ∃ key, stop = .repeated key ∧ key ∈ pairs.map Prod.fst ∧
      (g.get? key ≠ none ∨ 2 ≤ (pairs.map Prod.fst).count key) := by
  induction pairs generalizing g with
  | nil => cases failed
  | cons pair pairs ih =>
    obtain ⟨key, value⟩ := pair
    rw [setAll_cons] at failed
    by_cases free : g.get? key = none
    · obtain ⟨next, done, get⟩ := set_of_none value free
      rw [done] at failed
      obtain ⟨again, rfl, mem, twice⟩ := ih failed
      refine ⟨again, rfl, List.mem_cons_of_mem _ mem, ?_⟩
      rw [get] at twice
      by_cases same : again = key
      · subst same
        have count := List.count_pos_iff.2 mem
        rw [List.map_cons, List.count_cons_self]
        exact .inr (by omega)
      · simpa [same, List.count_cons, Ne.symm same] using twice
    · rw [set_of_some free] at failed
      cases failed
      exact ⟨key, rfl, by simp, .inl free⟩

@[simp] theorem get?_empty (key : Key) : ({} : Given).get? key = none := by cases key <;> rfl

theorem setAll_empty_eq_ok_iff : ({} : Given).setAll pairs = .ok g ↔ (pairs.map Prod.fst).Nodup ∧
    ∀ key value, g.get? key = some value ↔ (key, value) ∈ pairs := by
  simp [setAll_eq_ok_iff]

theorem setAll_empty_error {stop : Stop} (failed : ({} : Given).setAll pairs = .error stop) :
    ∃ key, stop = .repeated key ∧ 2 ≤ (pairs.map Prod.fst).count key := by
  obtain ⟨key, refused, -, given | twice⟩ := setAll_error failed
  · exact absurd (get?_empty key) given
  · exact ⟨key, refused, twice⟩

theorem exists_setAll (apart : (pairs.map Prod.fst).Nodup) : ∃ g, ({} : Given).setAll pairs = .ok g := by
  cases set : ({} : Given).setAll pairs with
  | ok g => exact ⟨g, rfl⟩
  | error stop =>
    obtain ⟨key, -, twice⟩ := setAll_empty_error set
    have once := List.nodup_iff_count_le_one.1 apart key
    omega

theorem setAll_repeated {before after : List (Key × Text)} (apart : ((before ++ after).map Prod.fst).Nodup)
    (mem : key ∈ (before ++ after).map Prod.fst) :
    ({} : Given).setAll (before ++ (key, value) :: after) = .error (.repeated key) := by
  have more (other : Key) : ((before ++ (key, value) :: after).map Prod.fst).count other =
      ((before ++ after).map Prod.fst).count other + if key = other then 1 else 0 := by
    have moved : (before ++ (key, value) :: after).Perm ((key, value) :: (before ++ after)) :=
      List.perm_middle
    rw [(moved.map Prod.fst).count_eq, List.map_cons, List.count_cons]
    simp
  cases set : ({} : Given).setAll (before ++ (key, value) :: after) with
  | ok g =>
    have once := List.nodup_iff_count_le_one.1 (setAll_empty_eq_ok_iff.1 set).1 key
    have there := List.count_pos_iff.2 mem
    rw [more, if_pos rfl] at once
    omega
  | error stop =>
    obtain ⟨other, rfl, twice⟩ := setAll_empty_error set
    have once := List.nodup_iff_count_le_one.1 apart other
    rw [more] at twice
    split at twice
    case isTrue same => rw [same]
    case isFalse => omega

theorem request_missing (required : key.required = true) (lacks : g.get? key = none) :
    g.request = .error (.missing (Key.all.filter fun key => key.required && (g.get? key).isNone)) := by
  obtain ⟨infile, outfile, config⟩ := g
  cases key with
  | infile =>
    obtain rfl : infile = none := lacks
    rfl
  | outfile =>
    obtain rfl : outfile = none := lacks
    cases infile <;> rfl
  | config => cases required

end Given

namespace Request

def pairs (r : Request) : List (Key × Text) :=
  (.infile, r.infile) :: (.outfile, r.outfile) :: r.config.toList.map (Prod.mk .config)

def given (r : Request) : Given := ⟨some r.infile, some r.outfile, r.config⟩

variable {r : Request}

theorem request_eq_ok_iff {g : Given} : g.request = .ok r ↔ g = r.given := by
  obtain ⟨infile, outfile, config⟩ := g
  obtain ⟨i, o, c⟩ := r
  cases infile <;> cases outfile <;> simp [Given.request, given]

theorem mem_pairs {key : Key} {value : Text} :
    (key, value) ∈ r.pairs ↔ r.given.get? key = some value := by
  cases key <;> simp [pairs, given, Given.get?, eq_comm]

theorem nodup_keys (r : Request) : (r.pairs.map Prod.fst).Nodup := by
  cases config : r.config <;> simp [pairs, config]

theorem mem_keys_of_required {key : Key} (required : key.required = true) : key ∈ r.pairs.map Prod.fst := by
  cases key with
  | infile | outfile => simp [pairs]
  | config => cases required

theorem setAll_eq_given_iff {pairs : List (Key × Text)} :
    ({} : Given).setAll pairs = .ok r.given ↔ pairs.Perm r.pairs := by
  rw [Given.setAll_empty_eq_ok_iff]
  constructor
  · rintro ⟨apart, all⟩
    refine (List.perm_ext_iff_of_nodup (.of_map _ apart) (.of_map _ r.nodup_keys)).2 fun pair => ?_
    exact ((all pair.1 pair.2).symm.trans mem_pairs.symm)
  · intro order
    refine ⟨(order.map Prod.fst).nodup_iff.2 r.nodup_keys, fun key value => ?_⟩
    rw [order.mem_iff, mem_pairs]

end Request

/-! ## Reading what is written -/

/-- The option held back is settled before those that are still to come. -/
theorem readFrom_written {args : List Text} {pairs : List (Key × Text)} (written : Written args pairs)
    (g : Given) : readFrom g none args = g.setAll pairs ∧
      ∀ key value, readFrom g (some ⟨key, some value⟩) args = g.setAll ((key, value) :: pairs) := by
  induction written generalizing g with
  | done => exact ⟨rfl, fun key value => (bind_pure _).symm⟩
  | ended => exact ⟨rfl, fun key value => (bind_pure _).symm⟩
  | option spelling taken rest ih =>
    rcases classify_args spelling taken with ⟨name, args, option, plain⟩ | ⟨arg, args, option⟩
    · rw [args, List.cons_append, List.cons_append, List.nil_append]
      refine ⟨?_, fun key value => ?_⟩
      · simp only [readFrom, option, plain]
        exact (ih g).2 _ _
      · simp only [readFrom, option, plain]
        exact bind_congr fun next => (ih next).2 _ _
    · rw [args, List.cons_append, List.nil_append]
      refine ⟨?_, fun key value => ?_⟩
      · simp only [readFrom, option]
        exact bind_congr fun next => (ih next).1
      · simp only [readFrom, option]
        exact bind_congr fun next => bind_congr fun last => (ih last).1

theorem read_written {args : List Text} {pairs : List (Key × Text)} (written : Written args pairs) :
    read args = ({} : Given).setAll pairs >>= Given.request := by
  rw [read, (readFrom_written written {}).1]

/-- What is still to come if an option is held back: its value too, if that has not come yet. -/
def Follows : Option Held → List Text → List (Key × Text) → Prop
  | none, args, pairs => Written args pairs
  | some ⟨key, some value⟩, args, pairs => ∃ rest, pairs = (key, value) :: rest ∧ Written args rest
  | some ⟨key, none⟩, args, pairs => ∃ value others rest, args = value :: others ∧ StandsAlone value ∧
      pairs = (key, value) :: rest ∧ Written others rest

theorem settle_ok {g g' : Given} {held : Option Held} (settled : settle g held = .ok g') :
    ∃ first, (∀ args pairs, Written args pairs → Follows held args (first ++ pairs)) ∧
      ∀ pairs, g.setAll (first ++ pairs) = g'.setAll pairs := by
  match held, settled with
  | none, settled =>
    obtain rfl : g = g' := Except.ok.inj settled
    exact ⟨[], fun args pairs written => written, fun pairs => rfl⟩
  | some ⟨key, some value⟩, settled =>
    refine ⟨[(key, value)], fun args pairs written => ⟨pairs, rfl, written⟩, fun pairs => ?_⟩
    rw [List.singleton_append, Given.setAll_cons]
    change settle g (some ⟨key, some value⟩) >>= _ = _
    rw [settled]
    rfl

theorem exists_written_of_readFrom {args : List Text} {g given : Given} {held : Option Held}
    (accepted : readFrom g held args = .ok given) :
    ∃ pairs, Follows held args pairs ∧ g.setAll pairs = .ok given := by
  -- An option held back is settled before the next word counts, so its pair comes first.
  induction args generalizing g held with
  | nil =>
    obtain ⟨first, follows, same⟩ := settle_ok accepted
    exact ⟨first ++ [], follows [] [] .done, same []⟩
  | cons arg args ih =>
    cases word : classify arg with
    | endOfOptions =>
      obtain rfl := eq_of_endOfOptions word
      cases args with
      | nil =>
        simp only [readFrom, word] at accepted
        obtain ⟨first, follows, same⟩ := settle_ok accepted
        exact ⟨first ++ [], follows _ [] .ended, same []⟩
      | cons next rest =>
        simp only [readFrom, word] at accepted
        cases accepted
    | attached key value =>
      simp only [readFrom, word, bind_eq_ok_iff] at accepted
      obtain ⟨settled, before, next, done, accepted⟩ := accepted
      obtain ⟨first, follows, same⟩ := settle_ok before
      obtain ⟨pairs, rest, all⟩ := ih accepted
      refine ⟨first ++ (key, value) :: pairs, follows _ _ (.attached word rest), ?_⟩
      rw [same, Given.setAll_cons, done]
      exact all
    | separate key =>
      simp only [readFrom, word, bind_eq_ok_iff] at accepted
      obtain ⟨settled, before, accepted⟩ := accepted
      obtain ⟨first, follows, same⟩ := settle_ok before
      obtain ⟨_, ⟨value, others, pairs, rfl, alone, rfl, rest⟩, all⟩ := ih accepted
      refine ⟨first ++ (key, value) :: pairs, follows _ _ (.separate word alone rest), ?_⟩
      rw [same]
      exact all
    | flag flag isLong =>
      simp only [readFrom, word, bind_eq_ok_iff] at accepted
      obtain ⟨_, _, stopped⟩ := accepted
      cases stopped
    | flagWithValue _ _ | unknown _ =>
      simp only [readFrom, word] at accepted
      cases accepted
    | plain =>
      have alone := classify_eq_plain_iff.1 word
      simp only [readFrom, word] at accepted
      split at accepted
      · obtain ⟨_, ⟨pairs, rfl, rest⟩, all⟩ := ih accepted
        exact ⟨_, ⟨arg, args, pairs, rfl, alone, rfl, rest⟩, all⟩
      · cases accepted

theorem read_eq_ok_iff {args : List Text} {r : Request} :
    read args = .ok r ↔ ∃ pairs, Written args pairs ∧ pairs.Perm r.pairs := by
  constructor
  · intro accepted
    obtain ⟨given, parsed, found⟩ := bind_eq_ok_iff.1 accepted
    obtain rfl := Request.request_eq_ok_iff.1 found
    obtain ⟨pairs, written, all⟩ := exists_written_of_readFrom parsed
    exact ⟨pairs, written, Request.setAll_eq_given_iff.1 all⟩
  · rintro ⟨pairs, written, order⟩
    rw [read_written written, Request.setAll_eq_given_iff.2 order]
    exact Request.request_eq_ok_iff.2 rfl

theorem read_lacking {args : List Text} {pairs : List (Key × Text)} {key : Key} (written : Written args pairs)
    (apart : (pairs.map Prod.fst).Nodup) (required : key.required = true) (lacks : key ∉ pairs.map Prod.fst) :
    read args =
      .error (.missing (Key.all.filter fun key => key.required && key ∉ pairs.map Prod.fst)) := by
  obtain ⟨g, set⟩ := Given.exists_setAll apart
  have none_iff (other : Key) : g.get? other = none ↔ other ∉ pairs.map Prod.fst := by
    have get := (Given.setAll_empty_eq_ok_iff.1 set).2 other
    simp [Option.eq_none_iff_forall_ne_some, get]
  have same : (fun key : Key => key.required && (g.get? key).isNone) =
      fun key => key.required && decide (key ∉ pairs.map Prod.fst) := by
    funext other
    rw [Bool.eq_iff_iff]
    simp only [Bool.and_eq_true, Option.isNone_iff_eq_none, none_iff, decide_eq_true_eq]
  rw [read_written written, set, ← same]
  exact Given.request_missing required ((none_iff key).2 lacks)

theorem readFrom_of_read {args : List Text} {r : Request} (accepted : read args = .ok r) :
    readFrom {} none args = .ok r.given := by
  obtain ⟨given, parsed, found⟩ := bind_eq_ok_iff.1 accepted
  rw [parsed, Request.request_eq_ok_iff.1 found]

/-! ## Lines of proper values -/

section Lines

variable {r : Request} {spell : (key : Key) → Spelling key} {order : List (Key × Text)}

theorem read_line (proper : ∀ pair ∈ r.pairs, Proper pair.2) (same : order.Perm r.pairs) :
    read (line spell order) = .ok r :=
  read_eq_ok_iff.2 ⟨order, written_line fun pair mem => (proper pair (same.mem_iff.1 mem)).taken _, same⟩

theorem read_line_lacking {kept : Key → Bool} {key : Key} (proper : ∀ pair ∈ r.pairs, Proper pair.2)
    (same : order.Perm r.pairs) (required : key.required = true) (dropped : kept key = false) :
    read (line spell (order.filter fun pair => kept pair.1)) =
      .error (.missing (Key.all.filter fun key => key.required && !kept key)) := by
  have apart : (order.map Prod.fst).Nodup := (same.map Prod.fst).nodup_iff.2 r.nodup_keys
  have rest : (order.filter fun pair => kept pair.1).Sublist order := List.filter_sublist
  have written : Written (line spell (order.filter fun pair => kept pair.1)) _ :=
    written_line fun pair mem => (proper pair (same.mem_iff.1 (rest.subset mem))).taken _
  have left (other : Key) (needed : other.required = true) :
      other ∈ (order.filter fun pair => kept pair.1).map Prod.fst ↔ kept other = true := by
    have mem := (same.map Prod.fst).mem_iff.2 (Request.mem_keys_of_required needed)
    obtain ⟨pair, inside, rfl⟩ := List.mem_map.1 mem
    constructor
    · intro stays
      obtain ⟨other, mem, eq⟩ := List.mem_map.1 stays
      rw [← eq]
      exact (List.mem_filter.1 mem).2
    · exact fun stays => List.mem_map_of_mem (List.mem_filter.2 ⟨inside, stays⟩)
  rw [read_lacking written (apart.sublist (rest.map Prod.fst)) required (by simp [left key required, dropped])]
  congr 3
  funext other
  cases needed : other.required with
  | false => rfl
  | true =>
    rw [Bool.eq_iff_iff, Bool.true_and, Bool.true_and, decide_eq_true_eq, left other needed]
    simp

theorem read_line_repeated {before after : List (Key × Text)} {key : Key} {value : Text}
    (proper : ∀ pair ∈ r.pairs, Proper pair.2) (same : (before ++ after).Perm r.pairs)
    (mem : key ∈ (before ++ after).map Prod.fst) (again : Spelling key) (also : Proper value) :
    read (line spell before ++ again.args value ++ line spell after) = .error (.repeated key) := by
  have apart : ((before ++ after).map Prod.fst).Nodup := (same.map Prod.fst).nodup_iff.2 r.nodup_keys
  have taken : ∀ pair ∈ before ++ after, (spell pair.1).Takes pair.2 :=
    fun pair inside => (proper pair (same.mem_iff.1 inside)).taken _
  obtain ⟨front, back⟩ := List.forall_mem_append.1 taken
  have written := Written.line_append front (.option again (also.taken again) (written_line back))
  rw [List.append_assoc, read_written written, Given.setAll_repeated apart mem]
  rfl

end Lines

theorem command_of_refused {g : Generator} {args : List Text} {stop : Stop} (refused : read args = .error stop)
    (d : Disk) (time : Instant) : g.command args d time = (.error (.commandLine stop), d) := by
  rw [Generator.command_eq, refused]

theorem command_of_accepted {g : Generator} {args : List Text} {r : Request} (accepted : read args = .ok r)
    (d : Disk) (time : Instant) : g.command args d time =
      ((g.perform r d time).1.mapError .failure, (g.perform r d time).2) := by
  rw [Generator.command_eq, accepted]

/-- A line is accepted exactly if it writes one infile, one outfile and at most one config, in any order and
any spelling, and then each has the value it was written with. Every spelling takes a proper value; such
a line without its infile or its outfile is refused as missing what it lacks, and with one of its options
put in again, anywhere and in any spelling, as repeating it. Both generators read their command line so. -/
theorem read_exactly_written :
    (∀ args r, read args = .ok r ↔ ∃ pairs, Written args pairs ∧ pairs.Perm r.pairs) ∧
    (∀ args r, read args = .ok r → ∃ given, readFrom {} none args = .ok given ∧
      given.infile = some r.infile ∧ given.outfile = some r.outfile ∧ given.config = r.config) ∧
    (∀ (r : Request) (spell : (key : Key) → Spelling key) (order : List (Key × Text)),
      (∀ pair ∈ r.pairs, Proper pair.2) → order.Perm r.pairs →
      read (line spell order) = .ok r ∧
      (∀ kept : Key → Bool, (∃ key, key.required = true ∧ kept key = false) →
        read (line spell (order.filter fun pair => kept pair.1)) =
          .error (.missing (Key.all.filter fun key => key.required && !kept key))) ∧
      ∀ before after, order = before ++ after → ∀ key ∈ order.map Prod.fst,
        ∀ (again : Spelling key) (value : Text), Proper value →
        read (line spell before ++ again.args value ++ line spell after) = .error (.repeated key)) ∧
    ∀ (g : Generator) (d : Disk) (time : Instant) (args : List Text),
      (∀ stop, read args = .error stop → g.command args d time = (.error (.commandLine stop), d)) ∧
      ∀ r, read args = .ok r → g.command args d time =
        ((g.perform r d time).1.mapError .failure, (g.perform r d time).2) := by
  refine ⟨fun args r => read_eq_ok_iff, fun args r accepted => ⟨_, readFrom_of_read accepted, rfl, rfl, rfl⟩,
    fun r spell order proper same => ⟨read_line proper same,
      fun kept ⟨_, required, dropped⟩ => read_line_lacking proper same required dropped, ?_⟩,
    fun g d time args => ⟨fun stop refused => command_of_refused refused d time,
      fun r accepted => command_of_accepted accepted d time⟩⟩
  rintro before after rfl key mem again value also
  exact read_line_repeated proper same mem again also

/-- Three options backwards and each in another spelling, then without the outfile, then with two infiles. -/
theorem read_exactly_written_mixed :
    read ["--config", "{}", "-ob", "--infile=a"] = .ok ⟨"a", "b", some "{}"⟩ ∧
    read ["--config", "{}", "--infile=a"] = .error (.missing [.outfile]) ∧
    read ["--config", "{}", "-i", "c", "-ob", "--infile=a"] = .error (.repeated .infile) := by
  let r : Request := ⟨"a", "b", some "{}"⟩
  let spell (key : Key) : Spelling key := key.casesOn .longEquals (.shortJoined 'o' rfl) .long
  have proper : ∀ pair ∈ r.pairs, Proper pair.2 := by
    intro pair mem
    simp only [r, Request.pairs, Option.toList, List.map, List.mem_cons, List.not_mem_nil, or_false] at mem
    rcases mem with rfl | rfl | rfl <;> exact ⟨by decide, by decide, by decide⟩
  obtain ⟨accepted, missing, repeated⟩ :=
    read_exactly_written.2.2.1 r spell r.pairs.reverse proper (List.reverse_perm _)
  have proper' : Proper ("c" : Text) := ⟨by decide, by decide, by decide⟩
  refine ⟨accepted, missing (· ≠ .outfile) ⟨.outfile, rfl, by decide⟩, ?_⟩
  exact repeated [(.config, "{}")] [(.outfile, "b"), (.infile, "a")] rfl .infile (by decide)
    (.short 'i' rfl) "c" proper'

end TokenTables.CommandLine
