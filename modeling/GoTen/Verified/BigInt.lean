import Mathlib

/-!
# Go's `math/big.Int` at its boundaries with fixed-width integers and bytes

A `*big.Int` is an integer of any size; this file models it as a Lean `Int`
and gives the operations through which a Go program moves such a value to
and from machine integers and bytes:

* `x.Int64()` and `x.Uint64()` keep the low 64 bits (of the two's complement
  for `Int64`, of the magnitude for `Uint64`);
* `x.GobEncode()` writes a version-and-sign byte followed by the big-endian
  magnitude without leading zeros, and `GobDecode` reads it back.

Go's `int64` and `uint64` are Lean's `Int64` and `UInt64`, whose arithmetic
wraps as Go's does.

## Main results

* `int64_eq_ofInt`: `Int64()` is reduction modulo `2 ^ 64` into the signed
  range, so `int64_toInt` (`big.NewInt(v).Int64() = v`) holds for every `v`.
* `toInt_toInt64`, `toInt_sub_add_one`: `int(x)` of a `uint64`, and `int`
  arithmetic where it does not overflow.
* `gobDecode_gobEncode`: decoding an encoded integer gives it back.
-/

namespace GoTen.Verified.BigInt

/-! ## Fixed-width conversions -/

/-- `Int.Int64`: the low 64 bits of the magnitude, negated for a negative
value. -/
def int64 (z : Int) : Int64 :=
  if z < 0 then -Int64.ofNat z.natAbs else Int64.ofNat z.natAbs

/-- `Int.Uint64`: the low 64 bits of the magnitude. -/
def uint64 (z : Int) : UInt64 :=
  UInt64.ofNat z.natAbs

theorem int64_eq_ofInt (z : Int) : int64 z = Int64.ofInt z := by
  unfold int64
  cases z with
  | ofNat n =>
      simp only [Int.ofNat_eq_natCast, Int.natAbs_natCast]
      rw [if_neg (by omega), Int64.ofInt_eq_ofNat]
  | negSucc n =>
      rw [if_pos (Int.negSucc_lt_zero n), Int.negSucc_eq, Int64.ofInt_neg,
        ← Int64.ofInt_eq_ofNat]
      rfl

/-- `big.NewInt(v).Int64() = v`. -/
@[simp] theorem int64_toInt (v : Int64) : int64 v.toInt = v := by
  rw [int64_eq_ofInt, Int64.ofInt_toInt]

theorem int64_toInt_of_lt {z : Int} (h0 : -2 ^ 63 ≤ z) (h1 : z < 2 ^ 63) :
    (int64 z).toInt = z := by
  rw [int64_eq_ofInt, Int64.toInt_ofInt]
  exact Int.bmod_eq_of_le (by norm_num; omega) (by norm_num; omega)

theorem uint64_natCast (n : Nat) : uint64 n = UInt64.ofNat n := by
  simp [uint64]

theorem uint64_natCast_inj {a b : Nat} (ha : a < 2 ^ 64) (hb : b < 2 ^ 64) :
    uint64 a = uint64 b ↔ a = b := by
  rw [uint64_natCast, uint64_natCast]
  constructor
  · intro h
    have hnat := congrArg UInt64.toNat h
    simp only [UInt64.toNat_ofNat', Nat.reducePow] at hnat
    omega
  · rintro rfl
    rfl

theorem toNat_uint64_natCast {n : Nat} (h : n < 2 ^ 64) : (uint64 n).toNat = n := by
  rw [uint64_natCast, UInt64.toNat_ofNat']
  exact Nat.mod_eq_of_lt h

theorem int64_natCast (n : Nat) : int64 n = Int64.ofNat n := by
  rw [int64_eq_ofInt, Int64.ofInt_eq_ofNat]

theorem int64_add (a b : Int) : int64 (a + b) = int64 a + int64 b := by
  simp only [int64_eq_ofInt, Int64.ofInt_add]

/-- `uint64(int64(n))` for a natural number. -/
theorem toUInt64_int64_natCast (n : Nat) : (int64 n).toUInt64 = UInt64.ofNat n := by
  rw [int64_natCast, Int64.toUInt64_ofNat']

/-- `int64(uint64(n))` for a natural number. -/
theorem toInt64_uint64_ofNat (n : Nat) : (UInt64.ofNat n).toInt64 = int64 n := by
  rw [int64_natCast, UInt64.toInt64_ofNat']

theorem int64_natCast_nonneg {n : Nat} (h : n < 2 ^ 63) : ¬ int64 n < 0 := by
  rw [Int64.lt_iff_toInt_lt, int64_toInt_of_lt (by omega) (by omega)]
  simp

/-! ## Go's conversions between `int` and `uint64`

On a 64-bit platform `int(x)` of a `uint64` reads the same bits as two's
complement, and `uint64(v)` of an `int` reads them back unsigned; neither
conversion fails. -/

/-- `int(x)` for a `uint64` `x`. -/
theorem toInt_toInt64 (x : UInt64) :
    x.toInt64.toInt = if x.toNat < 2 ^ 63 then (x.toNat : Int) else x.toNat - 2 ^ 64 := by
  rw [← Int64.toInt_toBitVec, UInt64.toBitVec_toInt64, BitVec.toInt_eq_toNat_cond]
  simp only [UInt64.toNat_toBitVec]
  split_ifs <;> omega

/-- `uint64(v)` for an `int` `v` that is not negative. -/
theorem toNat_toUInt64_of_nonneg {v : Int64} (h : 0 ≤ v.toInt) : v.toUInt64.toNat = v.toInt.toNat := by
  rw [Int64.toNat_toUInt64_of_le (Int64.le_iff_toInt_le.mpr (by simpa using h))]
  exact (Int64.toNat_toInt v).symm

/-- A `uint64` below `2 ^ 63` survives `big.NewInt(int64(x)).Uint64()`. -/
theorem uint64_toInt_toInt64 {x : UInt64} (h : x.toNat < 2 ^ 63) : uint64 x.toInt64.toInt = x := by
  rw [toInt_toInt64, if_pos h, uint64_natCast]
  exact UInt64.ofNat_toNat

/-- `a - b + 1` in `int64` arithmetic is the exact value when that is in range. -/
theorem toInt_sub_add_one {a b : Int64} (h0 : -2 ^ 63 ≤ a.toInt - b.toInt + 1)
    (h1 : a.toInt - b.toInt + 1 < 2 ^ 63) : (a - b + 1).toInt = a.toInt - b.toInt + 1 := by
  have hexact : a - b + 1 = Int64.ofInt (a.toInt - b.toInt + 1) := by
    rw [Int64.ofInt_add, Int64.ofInt_sub, Int64.ofInt_toInt, Int64.ofInt_toInt]
    rfl
  rw [hexact, ← int64_eq_ofInt, int64_toInt_of_lt h0 h1]

/-! ## Gob encoding -/

/-- `nat.bytes`: the big-endian bytes of `n`, without leading zeros. -/
def bytes (n : Nat) : List UInt8 :=
  ((Nat.digits 256 n).map UInt8.ofNat).reverse

/-- `nat.setBytes`: the number whose big-endian bytes are `bs`. -/
def setBytes (bs : List UInt8) : Nat :=
  Nat.ofDigits 256 (bs.reverse.map UInt8.toNat)

theorem setBytes_bytes (n : Nat) : setBytes (bytes n) = n := by
  unfold setBytes bytes
  rw [List.reverse_reverse, List.map_map]
  have hdigits : (Nat.digits 256 n).map (UInt8.toNat ∘ UInt8.ofNat) = Nat.digits 256 n := by
    conv_rhs => rw [← List.map_id (Nat.digits 256 n)]
    apply List.map_congr_left
    intro d hd
    have hlt : d < 256 := Nat.digits_lt_base (by norm_num) hd
    simp only [Function.comp_apply, id, UInt8.toNat_ofNat', Nat.reducePow]
    omega
  rw [hdigits, Nat.ofDigits_digits]

/-- `intGobVersion`. -/
def intGobVersion : UInt8 := 1

/-- `Int.GobEncode`: the version shifted left, the sign in the low bit, then
the magnitude. -/
def gobEncode (z : Int) : List UInt8 :=
  (intGobVersion <<< 1 ||| (if z < 0 then 1 else 0)) :: bytes z.natAbs

/-- `Int.GobDecode`. An empty buffer is the zero value. -/
def gobDecode : List UInt8 → Except String Int
  | [] => .ok 0
  | b :: rest =>
      if b >>> 1 ≠ intGobVersion then
        .error s!"Int.GobDecode: encoding version {b >>> 1} not supported"
      else
        let abs : Int := setBytes rest
        .ok (if b &&& 1 ≠ 0 then -abs else abs)

theorem gobDecode_gobEncode (z : Int) : gobDecode (gobEncode z) = .ok z := by
  by_cases hz : z < 0
  · have hhead : (intGobVersion <<< 1 ||| 1) = 3 := by decide
    simp only [gobEncode, gobDecode, hz, if_true, hhead, setBytes_bytes]
    rw [if_neg (by decide), if_pos (by decide)]
    congr 1
    omega
  · have hhead : (intGobVersion <<< 1 ||| 0) = 2 := by decide
    simp only [gobEncode, gobDecode, hz, if_false, hhead, setBytes_bytes]
    rw [if_neg (by decide), if_neg (by decide)]
    congr 1
    omega

end GoTen.Verified.BigInt
