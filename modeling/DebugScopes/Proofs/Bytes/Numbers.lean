import DebugScopes.Proofs.Decoding.Step

/-!
# How large the numbers are that are read

A number of so many bytes is below the power of 256. The widths of items are 1, 2 and 4, so whatever
is read of an item is below `2 ^ 32`.

* `ofBytes_lt`: a row of bytes;
* `Segment.sized_lt`: an item.
-/

namespace DebugScopes

theorem ofBytes_lt (bytes : List UInt8) : ofBytes bytes < 256 ^ bytes.length := by
  induction bytes with
  | nil => exact Nat.one_pos
  | cons b rest ih =>
    have small : b.toNat < 256 := b.toNat_lt
    rw [ofBytes, List.length_cons, Nat.pow_succ]
    omega

theorem ByteOrder.number_lt (order : ByteOrder) (bytes : List UInt8) :
    order.number bytes < 256 ^ bytes.length := by
  cases order with
  | little => exact ofBytes_lt bytes
  | big =>
    have small := ofBytes_lt bytes.reverse
    rwa [List.length_reverse] at small

namespace Segment

variable {s : Segment} {pos after : Int} {n : Nat}

theorem byte_lt (read : s.byte pos = .ok n after) : n < 256 := by
  obtain ⟨-, -, held, -⟩ := byte_eq_ok.1 read
  obtain ⟨b, -, rfl⟩ := Option.map_eq_some_iff.1 held
  exact b.toNat_lt

theorem number_lt {count : Nat} (read : s.number count pos = .ok n after) : n < 256 ^ count := by
  obtain ⟨start, between, -, found⟩ := bind_eq_ok.1 read
  cases order : s.order with
  | error fault =>
    rw [order] at found
    cases found
  | ok order' =>
    rw [order] at found
    cases found
    refine Nat.lt_of_lt_of_le (order'.number_lt _) (Nat.pow_le_pow_right (by decide) ?_)
    rw [Array.length_toList, Array.size_extract]
    omega

/-- A number as wide as an item is below `2 ^ 32`. -/
theorem sized_lt {size : Int} (read : s.sized size pos = .ok n after) : n < 2 ^ 32 := by
  unfold sized at read
  split at read
  · have := byte_lt (within_ok read)
    omega
  · split at read
    · have := number_lt (within_ok read)
      omega
    · split at read
      · exact number_lt (within_ok read)
      · cases read

end Segment

end DebugScopes
