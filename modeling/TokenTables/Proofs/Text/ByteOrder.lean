import Mathlib.Data.List.Basic
import Mathlib.Data.List.Sort
import TokenTables.Text.Utf8

/-!
Code point order is the order of UTF-8 bytes. Of two characters the one with the lower code point has
the bytes that come first, whatever follows either of them: a longer encoding starts with a higher
byte, and encodings of one length agree up to a byte that is higher for the higher code point.
-/

namespace TokenTables.Text

def bytes (t : Text) : List UInt8 := (utf8 t).data.toList

theorem bytes_eq_flatMap (t : Text) : bytes t = t.flatMap String.utf8EncodeChar := by
  rw [bytes, utf8, String.toByteArray_ofList, List.utf8Encode]
  exact List.toList_data_toByteArray

theorem bytes_cons (c : Char) (t : Text) : bytes (c :: t) = String.utf8EncodeChar c ++ bytes t := by
  simp only [bytes_eq_flatMap, List.flatMap_cons]

theorem utf8EncodeChar_append_lt {c d : Char} (h : c.toNat < d.toNat) (s t : List UInt8) :
    String.utf8EncodeChar c ++ s < String.utf8EncodeChar d ++ t := by
  have valid := d.valid
  simp only [UInt32.isValidChar, Nat.isValidChar] at valid
  change c.val.toNat < d.val.toNat at h
  -- The payloads of the bytes are digits to the base 64, and all are cut out of one number.
  have digits : ∀ n, n / 64 / 64 = n / 4096 ∧ n / 4096 / 64 = n / 262144 := by
    intro n
    omega
  have exact_byte : ∀ n, n < 256 → (UInt8.ofNat n).toNat = n := fun n => UInt8.toNat_ofNat_of_lt'
  unfold String.utf8EncodeChar
  dsimp only
  generalize c.val.toNat = v at h ⊢
  generalize d.val.toNat = w at h valid ⊢
  have digits_v := digits v
  have digits_w := digits w
  have high_v : v / 262144 % 8 = v / 262144 := Nat.mod_eq_of_lt (by omega)
  have high_w : w / 262144 % 8 = w / 262144 := Nat.mod_eq_of_lt (by omega)
  split_ifs <;>
    simp (disch := omega) only [List.cons_append, List.nil_append, List.cons_lt_cons_iff,
      UInt8.lt_iff_toNat_lt, ← UInt8.toNat_inj, exact_byte, high_v, high_w] <;>
    omega

theorem bytes_lt_of_le {a b : Text} (h : le a b = true) (differ : a ≠ b) : bytes a < bytes b := by
  induction a generalizing b with
  | nil =>
    cases b with
    | nil => exact absurd rfl differ
    | cons d b =>
      rw [bytes_cons]
      have filled := String.utf8EncodeChar_ne_nil (c := d)
      cases first : String.utf8EncodeChar d with
      | nil => exact absurd first filled
      | cons x rest => exact List.nil_lt_cons x _
  | cons c a ih =>
    cases b with
    | nil => simp [le] at h
    | cons d b =>
      rw [bytes_cons, bytes_cons]
      by_cases same : c = d
      · subst same
        have rest : le a b = true := by simpa [le] using h
        exact List.append_left_lt (ih rest fun eq => differ (congrArg (c :: ·) eq))
      · have below : c.toNat < d.toNat := by simpa [le, same] using h
        exact utf8EncodeChar_append_lt below (bytes a) (bytes b)

theorem le_iff_bytes_le {a b : Text} : le a b = true ↔ bytes a ≤ bytes b := by
  constructor
  · intro h
    by_cases same : a = b
    · exact same ▸ List.le_refl _
    · exact List.le_of_lt (bytes_lt_of_le h same)
  · intro h
    by_contra other
    have swapped : le b a = true := by
      have total := le_total a b
      simpa [other] using total
    have differ : b ≠ a := by
      rintro rfl
      exact other (by simpa using le_total b b)
    exact List.not_lt.2 h (bytes_lt_of_le swapped differ)

theorem pairwise_bytes_sort (ts : List Text) :
    (sort ts).Pairwise fun a b => bytes a ≤ bytes b :=
  (List.pairwise_mergeSort le_trans le_total ts).imp le_iff_bytes_le.1

theorem sort_perm (ts : List Text) : (sort ts).Perm ts := List.mergeSort_perm ts le

/-- The sorted list is a canonical form of a list up to order. -/
theorem sort_eq_sort_iff {a b : List Text} : sort a = sort b ↔ a.Perm b := by
  constructor
  · intro same
    exact (sort_perm a).symm.trans (same ▸ sort_perm b)
  · intro perm
    refine List.Perm.eq_of_pairwise (fun s t _ _ => le_antisymm)
      (List.pairwise_mergeSort le_trans le_total a) (List.pairwise_mergeSort le_trans le_total b)
      ((sort_perm a).trans (perm.trans (sort_perm b).symm))

theorem sort_filter (p : Text → Bool) (ts : List Text) : sort (ts.filter p) = (sort ts).filter p := by
  refine List.Perm.eq_of_pairwise (fun s t _ _ => le_antisymm)
    (List.pairwise_mergeSort le_trans le_total _)
    ((List.pairwise_mergeSort le_trans le_total ts).filter p) ?_
  exact (sort_perm _).trans ((sort_perm ts).symm.filter p)

end TokenTables.Text
