import GoTen.Verified.BigInt

/-!
# Fixed-width big-endian byte strings

A Go value of a fixed-size byte array type, such as a hash or an address, is
written out by `Bytes()` as exactly its `w` big-endian bytes, and read back
from a byte slice by `BytesToHash` or `BytesToAddress`, which keep the last
`w` bytes of the slice and pad them with zeros on the left.

## Main results

* `setBytes_toBytes`: the `w` bytes of `v` spell `v` modulo `256 ^ w`.
* `fromBytes_toBytes`: reading them back as a `w`-byte array gives the same.
-/

namespace GoTen.Verified.FixedBytes

/-- The `w` big-endian bytes of `v`, the higher ones dropped. -/
def toBytes : Nat → Nat → List UInt8
  | 0, _ => []
  | w + 1, v => toBytes w (v / 256) ++ [UInt8.ofNat v]

/-- The number the last `w` bytes of `bs` spell: a slice copied into the
end of a `w`-byte array. -/
def fromBytes (w : Nat) (bs : List UInt8) : Nat :=
  BigInt.setBytes (bs.drop (bs.length - w))

@[simp] theorem length_toBytes (w v : Nat) : (toBytes w v).length = w := by
  induction w generalizing v with
  | zero => rfl
  | succ w ih => simp [toBytes, ih]

theorem setBytes_append_singleton (bs : List UInt8) (b : UInt8) :
    BigInt.setBytes (bs ++ [b]) = b.toNat + 256 * BigInt.setBytes bs := by
  simp [BigInt.setBytes, Nat.ofDigits_cons]

theorem setBytes_toBytes (w v : Nat) : BigInt.setBytes (toBytes w v) = v % 256 ^ w := by
  induction w generalizing v with
  | zero => simp [toBytes, BigInt.setBytes, Nat.mod_one]
  | succ w ih =>
      rw [toBytes, setBytes_append_singleton, ih, pow_succ', Nat.mod_mul, UInt8.toNat_ofNat']

theorem fromBytes_toBytes (w v : Nat) : fromBytes w (toBytes w v) = v % 256 ^ w := by
  rw [fromBytes, length_toBytes, Nat.sub_self, List.drop_zero, setBytes_toBytes]

end GoTen.Verified.FixedBytes
