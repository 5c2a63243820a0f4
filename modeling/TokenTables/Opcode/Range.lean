/-!
The byte values open to opcodes: from `start` up to `stop`, which is excluded. Opcodes are packed
against the top, so the last of them is always `stop - 1`. A range whose start is not below its stop
holds none.
-/

namespace TokenTables

structure ValueRange where
  start : UInt8 := 0
  stop : UInt8 := 255
deriving DecidableEq, Repr

structure ValueRange.Overflow where
  count : Nat
  capacity : Nat
deriving DecidableEq, Repr

namespace ValueRange

def capacity (r : ValueRange) : Nat := r.stop.toNat - r.start.toNat

/-- The value of the first of `count` opcodes. -/
def lowest (r : ValueRange) (count : Nat) : Except ValueRange.Overflow UInt8 :=
  if count ≤ r.capacity then .ok (r.stop - UInt8.ofNat count) else .error ⟨count, r.capacity⟩

theorem capacity_le (r : ValueRange) : r.capacity ≤ 255 := by
  have := r.stop.toNat_lt
  unfold capacity; omega

/-- The subtraction does not wrap: with the count added the first value is `stop` again. -/
theorem toNat_lowest {r : ValueRange} {count : Nat} {first : UInt8}
    (h : r.lowest count = .ok first) : first.toNat + count = r.stop.toNat := by
  unfold lowest at h
  split at h
  · rename_i fits
    have small := r.stop.toNat_lt
    have below : count ≤ r.stop.toNat := Nat.le_trans fits (Nat.sub_le _ _)
    have count_small : (UInt8.ofNat count).toNat = count :=
      UInt8.toNat_ofNat_of_lt' (by change count < 256; omega)
    have le : UInt8.ofNat count ≤ r.stop := UInt8.le_iff_toNat_le.2 (by omega)
    simp only [Except.ok.injEq] at h
    rw [← h, UInt8.toNat_sub_of_le _ _ le, count_small]
    omega
  · simp at h

end ValueRange

end TokenTables
