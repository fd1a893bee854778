import GoTen.Common.Types
import GoTen.Verified.Result
import GoTen.Verified.Radix
import GoTen.Verified.Rlp

/-!
# Packing a rollup into EIP-4844 blobs (`go/ethadapter/blob.go`)

A blob is 4096 field elements of 32 bytes. `EncodeBlobs` RLP-encodes the
data and fills each blob in two passes: `fillBlobBytes` puts 31 bytes into
bytes 1 to 31 of every field element, then `fillBlobBits` spreads the next
bytes, six bits at a time and least significant bits first, over the low
bits of byte 0 of every field element (the bits a BLS scalar can spare).
A blob so holds `4096 * 31 + 4096 * 6 / 8 = 130048` bytes. `DecodeBlobs`
reads each blob back as its 4096 bodies followed by the bytes regrouped
from the six-bit pieces, and RLP-decodes the first item of the stream.

The `[131072]byte` of a blob is modelled as the function from an index to
the byte there; the code only reads and writes indices below 131072. geth's
RLP functions are parameters (`Rlp`); `gethRlp` is geth's own, over the
library's encoder and decoder, writing a rollup as geth writes its structs.

## Main results

* `fillBlobBitsFrom_piece`, `decodeBitsFrom_spec`: the two six-bit loops
  conserve the number their bits spell; `fillBlobBitsFrom_end` counts the
  bytes the first one takes, so `fillBlobBits` never fails.
* `decodeBlobsLoop_encodeBlobsLoop`: decoding the blobs of a byte string
  gives the string back, followed by zeros.
* `reconstructRollup_encodeBlobs`: with an RLP whose stream decoder reads one
  item and ignores trailing zeros, blobs round-trip every byte string whose
  encoding fits, and every rollup.
* `decodeRollup_encodeRollup`: geth's `DecodeBytes` reads every rollup back
  from its `EncodeToBytes`, so `gethRlp` meets the round trip's conditions.
-/

set_option linter.dupNamespace false

namespace GoTen.EthAdapter.Blob

open GoTen.Common
open GoTen.Verified
open GoTen.Verified.Radix

/-- `params.BlobTxFieldElementsPerBlob`. -/
def BlobTxFieldElementsPerBlob : Nat := 4096

/-- `excessBlobBits`: the bits of byte 0 of a field element that carry data. -/
def excessBlobBits : Nat := 6

/-- `MaxBlobBytes`. -/
def MaxBlobBytes : Nat := 32 * 4096

/-- `kzg4844.Blob`: the byte at each index of the `[131072]byte` array. -/
abbrev Blob := Nat → UInt8

/-- A fresh blob: every byte zero. -/
def emptyBlob : Blob := fun _ => 0

/-- geth's RLP as the blob code uses it. -/
structure Rlp where
  /-- `rlp.EncodeToBytes` of a byte string. -/
  encodeBytes : List UInt8 → List UInt8
  /-- `rlp.Decode` of a byte string from a reader over the given bytes. -/
  decodeStream : List UInt8 → Except String (List UInt8)
  /-- `rlp.EncodeToBytes` and `rlp.DecodeBytes` of an `ExtRollup`. -/
  encodeRollup : ExtRollup → List UInt8
  decodeRollup : List UInt8 → Except String ExtRollup

/-! ## Encoding -/

/-- `copy(blob[startIdx:startIdx+31], data)`: the first bytes of `data`, at
most 31, from `startIdx` on. -/
def copyBody (blob : Blob) (startIdx : Nat) (data : List UInt8) : Blob := fun i =>
  if startIdx ≤ i ∧ i < startIdx + 31 then (data[i - startIdx]?).getD (blob i) else blob i

/-- The loop of `fillBlobBytes` from field element `fieldElement` on, with
`n` field elements left. -/
def fillBlobBytesFrom (fieldElement : Nat) : Nat → Blob → List UInt8 → Blob × List UInt8
  | 0, blob, data => (blob, data)
  | n + 1, blob, data =>
      let blob := copyBody blob (fieldElement * 32 + 1) data
      if data.length ≤ 31 then (blob, [])
      else fillBlobBytesFrom (fieldElement + 1) n blob (data.drop 31)

/-- `fillBlobBytes`: the bodies of all field elements. -/
def fillBlobBytes (blob : Blob) (data : List UInt8) : Blob × List UInt8 :=
  fillBlobBytesFrom 0 BlobTxFieldElementsPerBlob blob data

/-- The `if accBits < excessBlobBits && len(data) > 0` block of
`fillBlobBits`: the next byte goes into the accumulator above the pending
bits. -/
def addByte (acc : UInt16) (accBits : Int) : List UInt8 → UInt16 × Int × List UInt8
  | d :: rest =>
      if accBits < excessBlobBits then
        (acc ||| (d.toUInt16 <<< accBits.toNat.toUInt16), accBits + 8, rest)
      else (acc, accBits, d :: rest)
  | [] => (acc, accBits, [])

/-- The loop of `fillBlobBits` from field element `fieldElement` on, with
the accumulator `acc` holding `accBits` pending bits. -/
def fillBlobBitsFrom (fieldElement : Nat) :
    Nat → Blob → UInt16 → Int → List UInt8 → Blob × Int × List UInt8
  | 0, blob, _, accBits, data => (blob, accBits, data)
  | n + 1, blob, acc, accBits, data =>
      let (acc, accBits, data) := addByte acc accBits data
      let blob := Function.update blob (fieldElement * 32)
        (acc &&& ((1 <<< excessBlobBits.toUInt16) - 1)).toUInt8
      let accBits := accBits - excessBlobBits
      if accBits < 0 then (blob, accBits, data)
      else fillBlobBitsFrom (fieldElement + 1) n blob (acc >>> excessBlobBits.toUInt16) accBits data

/-- `fillBlobBits`: the excess bits of all field elements. -/
def fillBlobBits (blob : Blob) (data : List UInt8) : Except String (Blob × List UInt8) :=
  let (blob, accBits, data) := fillBlobBitsFrom 0 BlobTxFieldElementsPerBlob blob 0 0 data
  if accBits > 0 then .error s!"unexpected {accBits} spare accBits remaining"
  else .ok (blob, data)

/-- The loop of `EncodeBlobs`: one blob per pass while data is left. Every
pass consumes a byte at least, so as many passes as bytes suffice. -/
def encodeBlobsLoop : Nat → List UInt8 → Except String (List Blob)
  | 0, _ => .ok []
  | fuel + 1, data =>
      if data.length > 0 then do
        let (b, data) := fillBlobBytes emptyBlob data
        let (b, data) ← fillBlobBits b data
        let blobs ← encodeBlobsLoop fuel data
        return b :: blobs
      else .ok []

/-- `EncodeBlobs`. -/
def encodeBlobs (rlp : Rlp) (data : List UInt8) : Except String (List Blob) := do
  let data := rlp.encodeBytes data
  Result.check (data.length ≥ MaxBlobBytes) "data too large to encode in blobs"
  encodeBlobsLoop data.length data

/-! ## Decoding -/

/-- The first loop of `DecodeBlobs` for one blob: the 31-byte bodies of the
field elements, in order. -/
def bodies (blob : Blob) : List UInt8 :=
  (List.range BlobTxFieldElementsPerBlob).flatMap fun fieldIndex =>
    (List.range 31).map fun k => blob (fieldIndex * 32 + 1 + k)

/-- The second loop of `DecodeBlobs` for one blob from field element
`fieldIndex` on: the bytes regrouped from the six-bit pieces, and the bits
left over. -/
def decodeBitsFrom (blob : Blob) (fieldIndex : Nat) :
    Nat → UInt16 → Nat → List UInt8 × Nat
  | 0, _, cumulativeBits => ([], cumulativeBits)
  | n + 1, acc, cumulativeBits =>
      let acc := acc ||| ((blob (fieldIndex * 32)).toUInt16 <<< cumulativeBits.toUInt16)
      let cumulativeBits := cumulativeBits + excessBlobBits
      if cumulativeBits ≥ 8 then
        let (rest, bits) := decodeBitsFrom blob (fieldIndex + 1) n (acc >>> 8) (cumulativeBits - 8)
        (acc.toUInt8 :: rest, bits)
      else decodeBitsFrom blob (fieldIndex + 1) n acc cumulativeBits

/-- The blob loop of `DecodeBlobs`: each blob gives its bodies, then its
regrouped bits. -/
def decodeBlobsLoop : List Blob → Except String (List UInt8)
  | [] => .ok []
  | blob :: blobs => do
      let (bits, cumulativeBits) := decodeBitsFrom blob 0 BlobTxFieldElementsPerBlob 0 0
      Result.check (cumulativeBits ≠ 0)
        s!"somehow ended up with {cumulativeBits} spare cumulative bits"
      let rest ← decodeBlobsLoop blobs
      return bodies blob ++ bits ++ rest

/-- `DecodeBlobs`. -/
def decodeBlobs (rlp : Rlp) (blobs : List Blob) : Except String (List UInt8) := do
  let rlpData ← decodeBlobsLoop blobs
  rlp.decodeStream rlpData

/-- `ReconstructRollup`. -/
def reconstructRollup (rlp : Rlp) (blobs : List Blob) : Except String ExtRollup := do
  let data ← (decodeBlobs rlp blobs).mapError fun e => s!"could not decode rollup blob. Cause: {e} "
  (rlp.decodeRollup data).mapError fun e => s!"could not decode rollup bytes. Cause: {e}"

/-! ## The byte pass -/

section Bodies

variable {blob : Blob} {data : List UInt8}

theorem copyBody_of_not_mem {s i : Nat} (h : i < s ∨ s + 31 ≤ i) :
    copyBody blob s data i = blob i := by
  unfold copyBody
  rw [if_neg (by omega)]

theorem copyBody_add {s k : Nat} (hk : k < 31) :
    copyBody blob s data (s + k) = data[k]?.getD (blob (s + k)) := by
  unfold copyBody
  rw [if_pos (by omega), Nat.add_sub_cancel_left]

/-- The byte pass leaves the data after the bodies of its field elements. -/
theorem fillBlobBytesFrom_snd (fe n : Nat) (blob : Blob) (data : List UInt8) :
    (fillBlobBytesFrom fe n blob data).2 = data.drop (31 * n) := by
  induction n generalizing fe blob data with
  | zero => rfl
  | succ n ih =>
      unfold fillBlobBytesFrom
      by_cases hlen : data.length ≤ 31
      · rw [if_pos hlen]
        exact (List.drop_eq_nil_of_le (by omega)).symm
      · rw [if_neg hlen, ih, List.drop_drop]
        congr 1
        omega

/-- The byte pass writes only the bodies of its own field elements. -/
theorem fillBlobBytesFrom_frame {fe n i : Nat} (blob : Blob) (data : List UInt8)
    (h : i % 32 = 0 ∨ i < fe * 32) : (fillBlobBytesFrom fe n blob data).1 i = blob i := by
  induction n generalizing fe blob data with
  | zero => rfl
  | succ n ih =>
      unfold fillBlobBytesFrom
      have hcopy : copyBody blob (fe * 32 + 1) data i = blob i := copyBody_of_not_mem (by omega)
      by_cases hlen : data.length ≤ 31
      · rw [if_pos hlen]
        exact hcopy
      · rw [if_neg hlen, ih _ _ (by omega)]
        exact hcopy

/-- Byte `k` of the body of field element `fe + t` is byte `31 * t + k` of
the data, or stays as it was past the end of the data. -/
theorem fillBlobBytesFrom_body {fe n t k : Nat} (blob : Blob) (data : List UInt8)
    (ht : t < n) (hk : k < 31) :
    (fillBlobBytesFrom fe n blob data).1 ((fe + t) * 32 + 1 + k) =
      data[31 * t + k]?.getD (blob ((fe + t) * 32 + 1 + k)) := by
  induction n generalizing fe blob data t with
  | zero => omega
  | succ n ih =>
      unfold fillBlobBytesFrom
      by_cases hlen : data.length ≤ 31
      · rw [if_pos hlen]
        cases t with
        | zero =>
            simp only [Nat.add_zero, Nat.mul_zero, Nat.zero_add]
            exact copyBody_add hk
        | succ t =>
            -- the data ran out in this element: later bodies keep their bytes
            dsimp only
            rw [copyBody_of_not_mem (by omega), List.getElem?_eq_none (by omega)]
            rfl
      · rw [if_neg hlen]
        cases t with
        | zero =>
            rw [fillBlobBytesFrom_frame _ _ (by omega)]
            simp only [Nat.add_zero, Nat.mul_zero, Nat.zero_add]
            exact copyBody_add hk
        | succ t =>
            have hidx : (fe + (t + 1)) * 32 + 1 + k = (fe + 1 + t) * 32 + 1 + k := by omega
            rw [hidx, ih _ _ (by omega), List.getElem?_drop, copyBody_of_not_mem (by omega)]
            congr 2
            omega

/-- The bodies of a blob whose body bytes are the data, read row by row,
are the first `4096 * 31` bytes of the data padded with zeros. -/
theorem bodies_eq_resize {blob : Blob}
    (h : ∀ fe < 4096, ∀ k < 31, blob (fe * 32 + 1 + k) = data[fe * 31 + k]?.getD 0) :
    bodies blob = resize data (4096 * 31) 0 := by
  unfold bodies BlobTxFieldElementsPerBlob
  rw [← map_range_getD, ← flatMap_range_map]
  apply List.flatMap_congr
  intro fe hfe
  apply List.map_congr_left
  intro k hk
  exact h fe (List.mem_range.mp hfe) k (List.mem_range.mp hk)

end Bodies

/-! ## The six-bit pass -/

section Bits

/-- The number that the pending bits of the accumulator and the bytes still
to come spell, least significant first. -/
def pendingValue (acc : UInt16) (accBits : Nat) (data : List UInt8) : Nat :=
  acc.toNat + 2 ^ accBits * littleEndian data

/-- Once six bits are pending, or no data is left, the next piece is the low
six bits of the accumulator. -/
theorem pendingValue_mod {acc : UInt16} {k : Nat} {data : List UInt8} (h : 6 ≤ k ∨ data = []) :
    pendingValue acc k data % 64 = acc.toNat % 64 := by
  unfold pendingValue
  rcases h with hk | rfl
  · have hpow : 2 ^ k = 64 * 2 ^ (k - 6) := by
      rw [show (64 : Nat) = 2 ^ 6 by norm_num, ← pow_add]
      congr 1
      omega
    rw [hpow, Nat.mul_assoc, Nat.add_mul_mod_self_left]
  · simp

/-- Shifting six bits out of the accumulator divides the pending value by 64. -/
theorem pendingValue_shift {acc : UInt16} {k : Nat} (data : List UInt8) (h : 6 ≤ k) :
    pendingValue (acc >>> excessBlobBits.toUInt16) (k - 6) data = pendingValue acc k data / 64 := by
  have hpow : 2 ^ k = 64 * 2 ^ (k - 6) := by
    rw [show (64 : Nat) = 2 ^ 6 by norm_num, ← pow_add]
    congr 1
    omega
  unfold pendingValue
  rw [toNat_shiftRight acc (by decide : excessBlobBits < 16), hpow, Nat.mul_assoc,
    Nat.add_mul_div_left _ _ (by norm_num)]
  rfl

/-- What `addByte` does, on numbers: it takes at most one byte, keeps the
pending value, and leaves at least six bits pending unless the data is
exhausted. -/
theorem addByte_spec {acc : UInt16} {k : Nat} (data : List UInt8) (hk : k ≤ 7)
    (hacc : acc.toNat < 2 ^ k) :
    ∃ (acc' : UInt16) (k' m : Nat), addByte acc k data = (acc', (k' : Int), data.drop m) ∧ m ≤ data.length ∧
      k' = k + 8 * m ∧ k' ≤ 13 ∧ acc'.toNat < 2 ^ k' ∧ (6 ≤ k' ∨ data.drop m = []) ∧
      pendingValue acc' k' (data.drop m) = pendingValue acc k data := by
  cases data with
  | nil => exact ⟨acc, k, 0, rfl, le_refl _, by omega, by omega, hacc, Or.inr rfl, rfl⟩
  | cons d rest =>
      by_cases hlt : k < 6
      · -- the byte goes in at weight `2 ^ k`
        have hpow : 2 ^ k ≤ 2 ^ 5 := Nat.pow_le_pow_right (by norm_num) (by omega)
        have hd : d.toUInt16.toNat < 256 := by
          rw [UInt8.toNat_toUInt16]
          exact d.toNat_lt
        have hfit : d.toUInt16.toNat * 2 ^ k < 2 ^ 16 := by
          calc d.toUInt16.toNat * 2 ^ k < 256 * 2 ^ 5 := by
                apply Nat.mul_lt_mul_of_lt_of_le hd hpow (by positivity)
            _ < 2 ^ 16 := by norm_num
        have hor := toNat_or_shiftLeft (by omega) hacc hfit
        refine ⟨acc ||| (d.toUInt16 <<< k.toUInt16), k + 8, 1, ?_, by simp, by omega, by omega,
          ?_, Or.inl (by omega), ?_⟩
        · have hlt' : (k : Int) < excessBlobBits := by
            unfold excessBlobBits
            omega
          simp only [addByte, if_pos hlt', Int.toNat_natCast, List.drop_one, List.tail_cons,
            Nat.cast_add, Nat.cast_ofNat]
        · rw [hor, UInt8.toNat_toUInt16, pow_add]
          have hd' := d.toNat_lt
          nlinarith
        · unfold pendingValue
          rw [hor, List.drop_one, List.tail_cons, littleEndian_cons, UInt8.toNat_toUInt16, pow_add]
          ring
      · have hge : ¬ (k : Int) < excessBlobBits := by
          unfold excessBlobBits
          omega
        refine ⟨acc, k, 0, ?_, by simp, by omega, by omega, hacc, Or.inl (by omega), rfl⟩
        simp only [addByte, if_neg hge, List.drop_zero]

/-- One pass of the loop of `fillBlobBits`: it writes the low six bits of
the pending value, then either stops with the data exhausted or goes on with
the pending value divided by 64. -/
theorem fillBlobBitsFrom_succ (fe n : Nat) (blob : Blob) {acc : UInt16} {k : Nat}
    (data : List UInt8) (hk : k ≤ 7) (hacc : acc.toNat < 2 ^ k) :
    (pendingValue acc k data < 64 ∧ 8 * data.length + k < 6 ∧
        ∃ r < 0, fillBlobBitsFrom fe (n + 1) blob acc k data =
          (Function.update blob (fe * 32) (UInt8.ofNat (pendingValue acc k data % 64)), r, [])) ∨
      (∃ acc' k' m, k' ≤ 7 ∧ acc'.toNat < 2 ^ k' ∧ m ≤ data.length ∧ 8 * m + k = 6 + k' ∧
        pendingValue acc' k' (data.drop m) = pendingValue acc k data / 64 ∧
        fillBlobBitsFrom fe (n + 1) blob acc k data =
          fillBlobBitsFrom (fe + 1) n
            (Function.update blob (fe * 32) (UInt8.ofNat (pendingValue acc k data % 64)))
            acc' k' (data.drop m)) := by
  obtain ⟨acc1, k1, m, hadd, hm, hk1, hk13, hacc1, hfull, hval⟩ := addByte_spec data hk hacc
  have hpiece : (acc1 &&& ((1 <<< excessBlobBits.toUInt16) - 1)).toUInt8 =
      UInt8.ofNat (pendingValue acc k data % 64) := by
    apply UInt8.toNat_inj.mp
    rw [UInt16.toNat_toUInt8, toNat_and_mask acc1 (by decide : excessBlobBits < 16),
      UInt8.toNat_ofNat', ← hval, pendingValue_mod hfull]
    rfl
  rw [fillBlobBitsFrom, hadd]
  dsimp only
  rw [hpiece]
  by_cases hbrk : k1 < 6
  · -- fewer than six bits were pending: the data is exhausted and the loop breaks
    left
    have hnil : data.drop m = [] := hfull.resolve_left (by omega)
    have hlen : data.length ≤ m := List.drop_eq_nil_iff.mp hnil
    have hP : pendingValue acc k data < 64 := by
      rw [← hval, hnil]
      unfold pendingValue
      have hpow : 2 ^ k1 ≤ 2 ^ 5 := Nat.pow_le_pow_right (by norm_num) (by omega)
      simp only [littleEndian_nil, Nat.mul_zero, Nat.add_zero]
      omega
    have hneg : (k1 : Int) - excessBlobBits < 0 := by
      unfold excessBlobBits
      omega
    refine ⟨hP, by omega, _, hneg, ?_⟩
    rw [if_pos hneg, hnil]
  · right
    have hnonneg : ¬ ((k1 : Int) - excessBlobBits < 0) := by
      unfold excessBlobBits
      omega
    have hk' : ((k1 : Int) - excessBlobBits) = ((k1 - 6 : Nat) : Int) := by
      unfold excessBlobBits
      omega
    refine ⟨acc1 >>> excessBlobBits.toUInt16, k1 - 6, m, by omega, ?_, hm, by omega, ?_, ?_⟩
    · rw [toNat_shiftRight acc1 (by decide : excessBlobBits < 16)]
      have hpow : 2 ^ k1 = 2 ^ (k1 - 6) * 2 ^ excessBlobBits := by
        rw [← pow_add]
        congr 1
        unfold excessBlobBits
        omega
      rw [Nat.div_lt_iff_lt_mul (by positivity), ← hpow]
      exact hacc1
    · rw [pendingValue_shift _ (by omega), hval]
    · rw [if_neg hnonneg, hk']

/-- The six-bit pass writes only byte 0 of its own field elements. -/
theorem fillBlobBitsFrom_frame {fe n i : Nat} {blob : Blob} {acc : UInt16} {accBits : Int}
    {data : List UInt8} {blob' : Blob} {r : Int} {rest : List UInt8}
    (h : fillBlobBitsFrom fe n blob acc accBits data = (blob', r, rest))
    (hi : i % 32 ≠ 0 ∨ i < fe * 32) : blob' i = blob i := by
  induction n generalizing fe blob acc accBits data with
  | zero => cases h; rfl
  | succ n ih =>
      have hne : i ≠ fe * 32 := by omega
      rcases hadd : addByte acc accBits data with ⟨acc1, r1, data1⟩
      rw [fillBlobBitsFrom, hadd] at h
      dsimp only at h
      split at h
      · cases h
        exact Function.update_of_ne hne _ _
      · rw [ih h (by omega)]
        exact Function.update_of_ne hne _ _

/-- The six-bit pass writes piece `t` of the pending value into byte 0 of
field element `fe + t`: pieces after the data ran out are zero. -/
theorem fillBlobBitsFrom_piece {fe n t : Nat} {blob : Blob} {acc : UInt16} {k : Nat}
    {data : List UInt8} {blob' : Blob} {r : Int} {rest : List UInt8} (hk : k ≤ 7)
    (hacc : acc.toNat < 2 ^ k) (hzero : ∀ t < n, blob ((fe + t) * 32) = 0)
    (h : fillBlobBitsFrom fe n blob acc k data = (blob', r, rest)) (ht : t < n) :
    (blob' ((fe + t) * 32)).toNat = pendingValue acc k data / 64 ^ t % 64 := by
  induction n generalizing fe blob acc k data t with
  | zero => omega
  | succ n ih =>
      have hfirst : (Function.update blob (fe * 32)
          (UInt8.ofNat (pendingValue acc k data % 64)) (fe * 32)).toNat =
          pendingValue acc k data % 64 := by
        rw [Function.update_self, UInt8.toNat_ofNat']
        omega
      rcases fillBlobBitsFrom_succ fe n blob data hk hacc with
        ⟨hP, -, r', -, heq⟩ | ⟨acc', k', m, hk', hacc', -, -, hval, heq⟩
      · rw [heq] at h
        cases h
        cases t with
        | zero => simpa using hfirst
        | succ t =>
            -- after the break every later piece is zero
            have hpow : 64 ≤ 64 ^ (t + 1) := Nat.le_self_pow (by omega) 64
            rw [Function.update_of_ne (by omega), hzero (t + 1) ht, Nat.div_eq_of_lt (by omega)]
            rfl
      · rw [heq] at h
        cases t with
        | zero =>
            rw [Nat.add_zero, fillBlobBitsFrom_frame h (by omega), pow_zero, Nat.div_one]
            exact hfirst
        | succ t =>
            have hzero' : ∀ t < n, Function.update blob (fe * 32)
                (UInt8.ofNat (pendingValue acc k data % 64)) ((fe + 1 + t) * 32) = 0 := by
              intro t' ht'
              rw [Function.update_of_ne (by omega), show fe + 1 + t' = fe + (t' + 1) by omega]
              exact hzero (t' + 1) (by omega)
            rw [show fe + (t + 1) = fe + 1 + t by omega, ih hk' hacc' hzero' h (by omega), hval,
              Nat.div_div_eq_div_mul, ← pow_succ']

/-- Where the six-bit pass stops: either after all its field elements, with at
most seven bits pending and six bits written for every eight taken, or at a
break, with the data exhausted before its field elements were. -/
theorem fillBlobBitsFrom_end {fe n : Nat} {blob : Blob} {acc : UInt16} {k : Nat}
    {data : List UInt8} {blob' : Blob} {r : Int} {rest : List UInt8} (hk : k ≤ 7)
    (hacc : acc.toNat < 2 ^ k) (h : fillBlobBitsFrom fe n blob acc k data = (blob', r, rest)) :
    (∃ k' m : Nat, r = k' ∧ rest = data.drop m ∧ k' ≤ 7 ∧ 8 * m + k = 6 * n + k') ∨
      (r < 0 ∧ rest = [] ∧ 8 * data.length + k < 6 * n) := by
  induction n generalizing fe blob acc k data with
  | zero =>
      cases h
      exact .inl ⟨k, 0, rfl, rfl, hk, by omega⟩
  | succ n ih =>
      rcases fillBlobBitsFrom_succ fe n blob data hk hacc with
        ⟨-, hlen, r', hr', heq⟩ | ⟨acc', k', m, hk', hacc', hm, hcount, -, heq⟩
      · rw [heq] at h
        cases h
        exact .inr ⟨hr', rfl, by omega⟩
      · rw [heq] at h
        rcases ih hk' hacc' h with ⟨k'', m', rfl, rfl, hk'', hcount'⟩ | ⟨hr, rfl, hlen⟩
        · exact .inl ⟨k'', m + m', rfl, List.drop_drop .., hk'', by omega⟩
        · rw [List.length_drop] at hlen
          exact .inr ⟨hr, rfl, by omega⟩

/-- `fillBlobBits` on a blob whose bytes 0 are zero succeeds, consumes 3072
bytes (all of them when fewer are left), writes the six-bit pieces of the
number they spell, and changes no body byte. -/
theorem fillBlobBits_spec {blob : Blob} (data : List UInt8)
    (hzero : ∀ t < 4096, blob (t * 32) = 0) :
    ∃ blob', fillBlobBits blob data = .ok (blob', data.drop 3072) ∧
      (∀ t < 4096, (blob' (t * 32)).toNat = littleEndian data / 64 ^ t % 64) ∧
      ∀ i, i % 32 ≠ 0 → blob' i = blob i := by
  rcases hrun : fillBlobBitsFrom 0 4096 blob 0 0 data with ⟨blob', r, rest⟩
  have hrun' : fillBlobBitsFrom 0 4096 blob 0 ((0 : Nat) : Int) data = (blob', r, rest) := hrun
  have hpending : pendingValue 0 0 data = littleEndian data := by simp [pendingValue]
  have hzero' : ∀ t < 4096, blob ((0 + t) * 32) = 0 := by simpa using hzero
  refine ⟨blob', ?_, ?_, ?_⟩
  · unfold fillBlobBits BlobTxFieldElementsPerBlob
    rw [hrun]
    dsimp only
    rcases fillBlobBitsFrom_end (by omega) (by simp) hrun' with
      ⟨k', m, rfl, rfl, hk', hcount⟩ | ⟨hr, rfl, hlen⟩
    · -- six bits for every eight: all 4096 pieces take exactly 3072 bytes
      have hk0 : k' = 0 := by omega
      have hm : m = 3072 := by omega
      subst hk0 hm
      rfl
    · rw [if_neg (by omega), List.drop_eq_nil_of_le (by omega)]
  · intro t ht
    have hpiece := fillBlobBitsFrom_piece (by omega) (by simp) hzero' hrun' ht
    rwa [hpending, Nat.zero_add] at hpiece
  · intro i hi
    exact fillBlobBitsFrom_frame hrun (.inl hi)

end Bits

/-! ## Decoding -/

section Decode

/-- Byte 0 of field elements `fieldIndex` to `fieldIndex + n - 1` as
numbers: the six-bit pieces the second loop of `DecodeBlobs` reads. -/
def pieces (blob : Blob) (fieldIndex : Nat) : Nat → List Nat
  | 0 => []
  | n + 1 => (blob (fieldIndex * 32)).toNat :: pieces blob (fieldIndex + 1) n

@[simp] theorem length_pieces (blob : Blob) (fi n : Nat) : (pieces blob fi n).length = n := by
  induction n generalizing fi with
  | zero => rfl
  | succ n ih => simp [pieces, ih]

theorem getElem_pieces (blob : Blob) (fi n t : Nat) (ht : t < (pieces blob fi n).length) :
    (pieces blob fi n)[t] = (blob ((fi + t) * 32)).toNat := by
  induction n generalizing fi t with
  | zero => simp at ht
  | succ n ih =>
      cases t with
      | zero => rfl
      | succ t =>
          simp only [pieces, List.getElem_cons_succ]
          rw [ih, show fi + 1 + t = fi + (t + 1) by omega]

/-- The second loop of `DecodeBlobs` regroups six-bit pieces into bytes: it
emits a byte for every eight bits, keeps fewer than eight, and the bytes and
the bits kept spell what the pending bits and the pieces spell. -/
theorem decodeBitsFrom_spec {blob : Blob} {fi n : Nat} {acc : UInt16} {cum : Nat}
    {out : List UInt8} {bits : Nat} (hcum : cum < 8) (hacc : acc.toNat < 2 ^ cum)
    (hsmall : ∀ t < n, (blob ((fi + t) * 32)).toNat < 64)
    (h : decodeBitsFrom blob fi n acc cum = (out, bits)) :
    bits < 8 ∧ 8 * out.length + bits = cum + 6 * n ∧
      ∃ a < 2 ^ bits, acc.toNat + 2 ^ cum * Nat.ofDigits 64 (pieces blob fi n) =
        littleEndian out + 2 ^ (8 * out.length) * a := by
  induction n generalizing fi acc cum out bits with
  | zero =>
      cases h
      exact ⟨hcum, by simp, acc.toNat, hacc, by simp [pieces]⟩
  | succ n ih =>
      have hc : (blob (fi * 32)).toNat < 64 := by simpa using hsmall 0 (by omega)
      have hsmall' : ∀ t < n, (blob ((fi + 1 + t) * 32)).toNat < 64 := by
        intro t ht
        rw [show fi + 1 + t = fi + (t + 1) by omega]
        exact hsmall (t + 1) (by omega)
      have hpow7 : 2 ^ cum ≤ 2 ^ 7 := Nat.pow_le_pow_right (by norm_num) (by omega)
      -- the piece goes in above the `cum` pending bits
      have hacc1 : (acc ||| ((blob (fi * 32)).toUInt16 <<< cum.toUInt16)).toNat =
          acc.toNat + (blob (fi * 32)).toNat * 2 ^ cum := by
        have hfit : (blob (fi * 32)).toUInt16.toNat * 2 ^ cum < 2 ^ 16 := by
          rw [UInt8.toNat_toUInt16]
          calc (blob (fi * 32)).toNat * 2 ^ cum < 64 * 2 ^ 7 :=
                Nat.mul_lt_mul_of_lt_of_le hc hpow7 (by positivity)
            _ < 2 ^ 16 := by norm_num
        rw [toNat_or_shiftLeft (by omega) hacc hfit, UInt8.toNat_toUInt16]
      have hacc1_lt : acc.toNat + (blob (fi * 32)).toNat * 2 ^ cum < 2 ^ (cum + 6) := by
        rw [pow_add]
        nlinarith
      have hexp : Nat.ofDigits 64 (pieces blob fi (n + 1)) =
          (blob (fi * 32)).toNat + 64 * Nat.ofDigits 64 (pieces blob (fi + 1) n) := by
        rw [pieces, Nat.ofDigits_cons]
      rw [decodeBitsFrom] at h
      unfold excessBlobBits at h
      dsimp only at h
      by_cases h8 : cum + 6 ≥ 8
      · -- a byte is complete: emit its low eight bits and keep the rest
        rw [if_pos h8] at h
        rcases hrec : decodeBitsFrom blob (fi + 1) n
            ((acc ||| ((blob (fi * 32)).toUInt16 <<< cum.toUInt16)) >>> 8) (cum + 6 - 8) with
          ⟨rest, bits'⟩
        rw [hrec] at h
        cases h
        have hshift : ((acc ||| ((blob (fi * 32)).toUInt16 <<< cum.toUInt16)) >>> 8).toNat =
            (acc.toNat + (blob (fi * 32)).toNat * 2 ^ cum) / 2 ^ 8 := by
          rw [← hacc1]
          exact toNat_shiftRight _ (by omega : 8 < 16)
        have hpow : 2 ^ (cum + 6) = 2 ^ (cum + 6 - 8) * 2 ^ 8 := by
          rw [← pow_add]
          congr 1
          omega
        have hbound : ((acc ||| ((blob (fi * 32)).toUInt16 <<< cum.toUInt16)) >>> 8).toNat <
            2 ^ (cum + 6 - 8) := by
          rw [hshift, Nat.div_lt_iff_lt_mul (by positivity), ← hpow]
          exact hacc1_lt
        obtain ⟨hbits, hcount, a, ha, hval⟩ := ih (by omega) hbound hsmall' hrec
        refine ⟨hbits, by simp only [List.length_cons]; omega, a, ha, ?_⟩
        rw [hshift] at hval
        have hbyte : ((acc ||| ((blob (fi * 32)).toUInt16 <<< cum.toUInt16)).toUInt8).toNat =
            (acc.toNat + (blob (fi * 32)).toNat * 2 ^ cum) % 2 ^ 8 := by
          rw [UInt16.toNat_toUInt8, hacc1]
        calc acc.toNat + 2 ^ cum * Nat.ofDigits 64 (pieces blob fi (n + 1))
            = (acc.toNat + (blob (fi * 32)).toNat * 2 ^ cum) +
                2 ^ (cum + 6) * Nat.ofDigits 64 (pieces blob (fi + 1) n) := by
              rw [hexp, pow_add]
              ring
          _ = (acc.toNat + (blob (fi * 32)).toNat * 2 ^ cum) % 2 ^ 8 +
                2 ^ 8 * ((acc.toNat + (blob (fi * 32)).toNat * 2 ^ cum) / 2 ^ 8 +
                  2 ^ (cum + 6 - 8) * Nat.ofDigits 64 (pieces blob (fi + 1) n)) := by
              rw [hpow, Nat.mul_add, ← Nat.add_assoc, Nat.mod_add_div]
              ring
          _ = littleEndian (_ :: rest) + 2 ^ (8 * (rest.length + 1)) * a := by
              rw [hval, littleEndian_cons, hbyte, Nat.mul_add, Nat.mul_add, pow_add]
              ring
      · rw [if_neg h8] at h
        obtain ⟨hbits, hcount, a, ha, hval⟩ := ih (by omega) (hacc1 ▸ hacc1_lt) hsmall' h
        refine ⟨hbits, by omega, a, ha, ?_⟩
        rw [← hval, hacc1, hexp, pow_add]
        ring

/-- A blob whose bytes 0 hold the six-bit pieces of `P` decodes, in the
second loop of `DecodeBlobs`, to the first 3072 bytes of `P`, with no bit
left over. -/
theorem decodeBitsFrom_of_pieces {blob : Blob} {P : Nat}
    (h : ∀ t < 4096, (blob (t * 32)).toNat = P / 64 ^ t % 64) :
    ∃ out, decodeBitsFrom blob 0 4096 0 0 = (out, 0) ∧ out.length = 3072 ∧
      littleEndian out = P % 256 ^ 3072 := by
  rcases hdec : decodeBitsFrom blob 0 4096 0 0 with ⟨out, bits⟩
  have hsmall : ∀ t < 4096, (blob ((0 + t) * 32)).toNat < 64 := by
    intro t ht
    rw [Nat.zero_add, h t ht]
    exact Nat.mod_lt _ (by norm_num)
  obtain ⟨hbits, hcount, a, ha, hval⟩ := decodeBitsFrom_spec (by omega) (by simp) hsmall hdec
  have hbits0 : bits = 0 := by omega
  subst hbits0
  have ha0 : a = 0 := by simpa using ha
  subst ha0
  have hpieces : Nat.ofDigits 64 (pieces blob 0 4096) = P % 64 ^ 4096 := by
    have hofDigits := ofDigits_eq_mod_of_getElem (pieces blob 0 4096) P (by
      intro t ht
      rw [getElem_pieces, Nat.zero_add]
      exact h t (by simpa using ht))
    rwa [length_pieces] at hofDigits
  have h64 : (64 : Nat) ^ 4096 = 256 ^ 3072 := by
    rw [show (64 : Nat) = 2 ^ 6 by norm_num, show (256 : Nat) = 2 ^ 8 by norm_num, ← pow_mul,
      ← pow_mul]
  refine ⟨out, rfl, by omega, ?_⟩
  simp only [UInt16.toNat_zero, pow_zero, Nat.one_mul, Nat.zero_add, Nat.mul_zero,
    Nat.add_zero] at hval
  rw [← hval, hpieces, h64]

/-- The bits the second loop leaves over do not depend on the blob: six
come in per field element and eight go out per byte. -/
theorem decodeBitsFrom_snd (blob : Blob) (fi n : Nat) (acc : UInt16) {cum : Nat}
    (hcum : cum < 8) : (decodeBitsFrom blob fi n acc cum).2 = (cum + 6 * n) % 8 := by
  induction n generalizing fi acc cum with
  | zero => simp [decodeBitsFrom, Nat.mod_eq_of_lt hcum]
  | succ n ih =>
      have hsix : excessBlobBits = 6 := rfl
      simp only [decodeBitsFrom]
      by_cases hge : cum + excessBlobBits ≥ 8
      · rw [if_pos hge, ih _ _ (by omega)]
        omega
      · rw [if_neg hge, ih _ _ (by omega)]
        omega

/-- The check for spare bits in `DecodeBlobs` never fires, since 4096 pieces
of six bits make whole bytes: the blob loop reads every blob. -/
theorem decodeBlobsLoop_eq (blobs : List Blob) :
    decodeBlobsLoop blobs = .ok (blobs.flatMap fun blob =>
      bodies blob ++ (decodeBitsFrom blob 0 BlobTxFieldElementsPerBlob 0 0).1) := by
  induction blobs with
  | nil => rfl
  | cons blob blobs ih =>
      have hbits : (decodeBitsFrom blob 0 BlobTxFieldElementsPerBlob 0 0).2 = 0 := by
        rw [decodeBitsFrom_snd blob 0 _ 0 (by norm_num)]
        rfl
      simp [decodeBlobsLoop, hbits, ih, Result.check, pure, Except.pure]

end Decode

/-! ## The round trip -/

section RoundTrip

/-- One pass of the loop of `EncodeBlobs`, read back by `DecodeBlobs`: the
bodies hold the first 126976 bytes and the six-bit pieces the next 3072,
each padded with zeros, and the pass leaves the data after 130048 bytes. -/
theorem decode_encodePass (data : List UInt8) :
    ∃ blob, fillBlobBits (fillBlobBytes emptyBlob data).1 (fillBlobBytes emptyBlob data).2 =
        .ok (blob, data.drop 130048) ∧
      decodeBitsFrom blob 0 4096 0 0 = (resize (data.drop 126976) 3072 0, 0) ∧
      bodies blob = resize data 126976 0 := by
  have hsnd : (fillBlobBytes emptyBlob data).2 = data.drop 126976 :=
    fillBlobBytesFrom_snd 0 4096 emptyBlob data
  have hzero : ∀ t < 4096, (fillBlobBytes emptyBlob data).1 (t * 32) = 0 := by
    intro t _
    exact fillBlobBytesFrom_frame emptyBlob data (.inl (by omega))
  obtain ⟨blob, hbits, hpieces, hframe⟩ := fillBlobBits_spec (data.drop 126976) hzero
  refine ⟨blob, by rw [hsnd, hbits, List.drop_drop], ?_, ?_⟩
  · obtain ⟨out, hdec, hlen, hval⟩ := decodeBitsFrom_of_pieces hpieces
    rw [hdec, ← littleEndian_resize] at *
    congr
    exact littleEndian_inj (by simp [hlen]) hval
  · -- the six-bit pass keeps the bodies the byte pass wrote
    apply bodies_eq_resize
    intro fe hfe k hk
    have hbody := @fillBlobBytesFrom_body 0 4096 fe k emptyBlob data hfe hk
    rw [Nat.zero_add] at hbody
    rw [hframe _ (by omega)]
    unfold fillBlobBytes BlobTxFieldElementsPerBlob
    rw [hbody, Nat.mul_comm 31 fe]
    rfl

/-- Decoding the blobs that the loop of `EncodeBlobs` makes, with a pass of
fuel for every byte, gives the data back followed by zeros. -/
theorem decodeBlobsLoop_encodeBlobsLoop (fuel : Nat) (data : List UInt8)
    (hfuel : data.length ≤ fuel) :
    ∃ blobs k, encodeBlobsLoop fuel data = .ok blobs ∧
      decodeBlobsLoop blobs = .ok (data ++ List.replicate k 0) := by
  induction fuel generalizing data with
  | zero =>
      have hnil : data = [] := List.eq_nil_of_length_eq_zero (by omega)
      subst hnil
      exact ⟨[], 0, rfl, rfl⟩
  | succ fuel ih =>
      by_cases hpos : data.length > 0
      · obtain ⟨blob, hpass, hdec, hbodies⟩ := decode_encodePass data
        obtain ⟨blobs, k, henc, hdecRest⟩ := ih (data.drop 130048) (by
          rw [List.length_drop]
          omega)
        refine ⟨blob :: blobs, 130048 - data.length + k, ?_, ?_⟩
        · rcases hfill : fillBlobBytes emptyBlob data with ⟨b, rest⟩
          rw [hfill] at hpass
          rw [encodeBlobsLoop, if_pos hpos, hfill]
          simp only [hpass, henc, bind, Except.bind, pure, Except.pure]
        · rw [decodeBlobsLoop]
          unfold BlobTxFieldElementsPerBlob
          rw [hdec]
          simp only [ne_eq, not_true_eq_false, decide_false, Result.check_false, hdecRest, bind,
            Except.bind, pure, Except.pure, hbodies]
          -- the window of one blob, then the data past it
          rw [← resize_add, show 126976 + 3072 = 130048 from rfl, ← List.append_assoc,
            resize_append_drop, List.append_assoc, ← List.replicate_add]
      · have hnil : data = [] := List.eq_nil_of_length_eq_zero (by omega)
        subst hnil
        exact ⟨[], 0, rfl, rfl⟩

/-- Blobs round-trip every byte string whose RLP encoding fits, given an RLP
decoder that reads one item and ignores the zeros after it. -/
theorem decodeBlobs_encodeBlobs (rlp : Rlp) (d : List UInt8)
    (hfit : (rlp.encodeBytes d).length < MaxBlobBytes)
    (hrlp : ∀ k, rlp.decodeStream (rlp.encodeBytes d ++ List.replicate k 0) = .ok d) :
    ∃ blobs, encodeBlobs rlp d = .ok blobs ∧ decodeBlobs rlp blobs = .ok d := by
  obtain ⟨blobs, k, henc, hdec⟩ :=
    decodeBlobsLoop_encodeBlobsLoop _ (rlp.encodeBytes d) (le_refl _)
  refine ⟨blobs, ?_, ?_⟩
  · have hcheck : decide ((rlp.encodeBytes d).length ≥ MaxBlobBytes) = false :=
      decide_eq_false (by omega)
    simp only [encodeBlobs, hcheck, Result.check_false, henc, bind, Except.bind]
  · simp only [decodeBlobs, hdec, hrlp, bind, Except.bind]

/-- Blobs round-trip byte strings and rollups: every byte string whose RLP
encoding fits comes back from the blobs of its encoding, and so does the RLP
encoding of a rollup, which `ReconstructRollup` then decodes to the rollup. -/
theorem reconstructRollup_encodeBlobs (rlp : Rlp) :
    (∀ d, (rlp.encodeBytes d).length < MaxBlobBytes →
      (∀ k, rlp.decodeStream (rlp.encodeBytes d ++ List.replicate k 0) = .ok d) →
      ∃ blobs, encodeBlobs rlp d = .ok blobs ∧ decodeBlobs rlp blobs = .ok d) ∧
    ∀ r, (rlp.encodeBytes (rlp.encodeRollup r)).length < MaxBlobBytes →
      (∀ k, rlp.decodeStream (rlp.encodeBytes (rlp.encodeRollup r) ++ List.replicate k 0) =
        .ok (rlp.encodeRollup r)) →
      rlp.decodeRollup (rlp.encodeRollup r) = .ok r →
      ∃ blobs, encodeBlobs rlp (rlp.encodeRollup r) = .ok blobs ∧
        reconstructRollup rlp blobs = .ok r := by
  refine ⟨decodeBlobs_encodeBlobs rlp, ?_⟩
  intro r hfit hrlp hrollup
  obtain ⟨blobs, henc, hdec⟩ := decodeBlobs_encodeBlobs rlp _ hfit hrlp
  refine ⟨blobs, henc, ?_⟩
  simp only [reconstructRollup, hdec, hrollup, Except.mapError, bind, Except.bind]

/-! ### geth's RLP of a rollup -/

/-- A `StructsCrossChainMessage` as geth's RLP writes it: its fields in
order, the sender as its 20 bytes. -/
def crossChainMessageItem (m : CrossChainMessage) : Rlp.Item :=
  .list [.bytes (FixedBytes.toBytes 20 m.sender.toNat), Rlp.uintItem m.sequence.toNat,
    Rlp.uintItem m.nonce.toNat, Rlp.uintItem m.topic.toNat, .bytes m.payload,
    Rlp.uintItem m.consistencyLevel.toNat]

/-- A `RollupHeader` as geth's RLP writes it. -/
def rollupHeaderItem (h : RollupHeader) : Rlp.Item :=
  .list [.bytes (FixedBytes.toBytes 32 h.compressionL1Head.toNat),
    .list (h.crossChainMessages.map crossChainMessageItem),
    .bytes (FixedBytes.toBytes 32 h.payloadHash.toNat), .bytes h.signature,
    Rlp.uintItem h.lastBatchSeqNo.toNat]

/-- An `ExtRollup` as geth's RLP writes it; its cached hash is not exported. -/
def extRollupItem (r : ExtRollup) : Rlp.Item :=
  .list [rollupHeaderItem r.header, .bytes r.calldataRollupHeader, .bytes r.batchPayloads]

/-- geth's error for a struct read from a list with the wrong number of items. -/
def fieldCountError (fields : Nat) (items : List Rlp.Item) : String :=
  if items.length < fields then "rlp: too few elements" else "rlp: input list has too many elements"

/-- A `StructsCrossChainMessage` read from an item. -/
def crossChainMessageOfItem : Rlp.Item → Except String CrossChainMessage
  | .list [sender, sequence, nonce, topic, payload, consistencyLevel] => do
      let sender ← sender.fixedBytes 20
      let sequence ← sequence.uint 8
      let nonce ← nonce.uint 4
      let topic ← topic.uint 4
      let payload ← payload.byteString
      let consistencyLevel ← consistencyLevel.uint 1
      pure ⟨BitVec.ofNat 160 (BigInt.setBytes sender), UInt64.ofNat sequence, UInt32.ofNat nonce,
        UInt32.ofNat topic, payload, UInt8.ofNat consistencyLevel⟩
  | .list items => .error (fieldCountError 6 items)
  | .bytes _ => .error "rlp: expected input list"

/-- A `RollupHeader` read from an item. -/
def rollupHeaderOfItem : Rlp.Item → Except String RollupHeader
  | .list [compressionL1Head, crossChainMessages, payloadHash, signature, lastBatchSeqNo] => do
      let compressionL1Head ← compressionL1Head.fixedBytes 32
      let crossChainMessages ← crossChainMessages.items
      let crossChainMessages ← crossChainMessages.mapM crossChainMessageOfItem
      let payloadHash ← payloadHash.fixedBytes 32
      let signature ← signature.byteString
      let lastBatchSeqNo ← lastBatchSeqNo.uint 8
      pure ⟨BitVec.ofNat 256 (BigInt.setBytes compressionL1Head), crossChainMessages,
        BitVec.ofNat 256 (BigInt.setBytes payloadHash), signature, UInt64.ofNat lastBatchSeqNo⟩
  | .list items => .error (fieldCountError 5 items)
  | .bytes _ => .error "rlp: expected input list"

/-- An `ExtRollup` read from an item. -/
def extRollupOfItem : Rlp.Item → Except String ExtRollup
  | .list [header, calldataRollupHeader, batchPayloads] => do
      let header ← rollupHeaderOfItem header
      let calldataRollupHeader ← calldataRollupHeader.byteString
      let batchPayloads ← batchPayloads.byteString
      pure ⟨header, calldataRollupHeader, batchPayloads⟩
  | .list items => .error (fieldCountError 3 items)
  | .bytes _ => .error "rlp: expected input list"

/-- geth's RLP as the blob code uses it: `EncodeToBytes` of a byte slice,
`Decode` of a byte slice from a reader, and `EncodeToBytes` and
`DecodeBytes` of an `ExtRollup`. -/
def gethRlp : Rlp where
  encodeBytes := Rlp.encodeString
  decodeStream := Rlp.decodeString
  encodeRollup r := Rlp.encode (extRollupItem r)
  decodeRollup bs := do
    let item ← Rlp.decodeBytes bs
    extRollupOfItem item

/-- A fixed-size array is read back from its bytes. -/
theorem ofNat_setBytes_toBytes {w : Nat} (x : BitVec (8 * w)) :
    BitVec.ofNat (8 * w) (BigInt.setBytes (FixedBytes.toBytes w x.toNat)) = x := by
  have hlt : x.toNat < 256 ^ w := by
    have := x.isLt
    rwa [pow_mul, show (2 : Nat) ^ 8 = 256 by norm_num] at this
  rw [FixedBytes.setBytes_toBytes, Nat.mod_eq_of_lt hlt]
  simp

theorem crossChainMessageOfItem_item (m : CrossChainMessage) :
    crossChainMessageOfItem (crossChainMessageItem m) = .ok m := by
  have hsender := ofNat_setBytes_toBytes (w := 20) m.sender
  simp only [crossChainMessageItem, crossChainMessageOfItem,
    Rlp.Item.fixedBytes_bytes (FixedBytes.length_toBytes 20 _),
    Rlp.Item.uint_uint (show m.sequence.toNat < 256 ^ 8 from m.sequence.toNat_lt),
    Rlp.Item.uint_uint (show m.nonce.toNat < 256 ^ 4 from m.nonce.toNat_lt),
    Rlp.Item.uint_uint (show m.topic.toNat < 256 ^ 4 from m.topic.toNat_lt),
    Rlp.Item.uint_uint (show m.consistencyLevel.toNat < 256 ^ 1 from m.consistencyLevel.toNat_lt),
    Rlp.Item.byteString, Result.ok_bind, hsender, UInt64.ofNat_toNat, UInt32.ofNat_toNat,
    UInt8.ofNat_toNat]
  rfl

theorem rollupHeaderOfItem_item (h : RollupHeader) :
    rollupHeaderOfItem (rollupHeaderItem h) = .ok h := by
  have hhead := ofNat_setBytes_toBytes (w := 32) h.compressionL1Head
  have hpayload := ofNat_setBytes_toBytes (w := 32) h.payloadHash
  simp only [rollupHeaderItem, rollupHeaderOfItem,
    Rlp.Item.fixedBytes_bytes (FixedBytes.length_toBytes 32 _), Rlp.Item.items,
    Result.mapM_map_eq_ok crossChainMessageOfItem_item,
    Rlp.Item.uint_uint (show h.lastBatchSeqNo.toNat < 256 ^ 8 from h.lastBatchSeqNo.toNat_lt),
    Rlp.Item.byteString, Result.ok_bind, hhead, hpayload, UInt64.ofNat_toNat]
  rfl

/-- `DecodeBytes` reads every rollup back from `EncodeToBytes`. -/
theorem decodeRollup_encodeRollup (r : ExtRollup)
    (hlen : (gethRlp.encodeRollup r).length < 2 ^ 64) :
    gethRlp.decodeRollup (gethRlp.encodeRollup r) = .ok r := by
  show (do let item ← Rlp.decodeBytes (Rlp.encode (extRollupItem r)); extRollupOfItem item) = .ok r
  rw [Rlp.decodeBytes_encode _ hlen, Result.ok_bind]
  simp only [extRollupItem, extRollupOfItem, rollupHeaderOfItem_item, Rlp.Item.byteString,
    Result.ok_bind]
  rfl

/-- A rollup with an empty header and a three-byte payload. -/
def payloadRollup : ExtRollup := ⟨⟨0, [], 0, [], 0⟩, [], [7, 8, 9]⟩

/-- geth writes it in 78 bytes: the header's two hashes, its empty list of
messages, signature and sequence number, the empty calldata header and the
payload. -/
example : gethRlp.encodeRollup payloadRollup =
    [0xf8, 0x4c, 0xf8, 0x45, 0xa0] ++ List.replicate 32 0 ++ [0xc0, 0xa0] ++
      List.replicate 32 0 ++ [0x80, 0x80, 0x80, 0x83, 7, 8, 9] := by
  decide

theorem reconstructRollup_gethRlp :
    (∃ blobs, encodeBlobs gethRlp [1, 2] = .ok blobs ∧ decodeBlobs gethRlp blobs = .ok [1, 2]) ∧
    ∃ blobs, encodeBlobs gethRlp (gethRlp.encodeRollup payloadRollup) = .ok blobs ∧
      reconstructRollup gethRlp blobs = .ok payloadRollup :=
  ⟨(reconstructRollup_encodeBlobs gethRlp).1 [1, 2] (by decide)
      (fun k => Rlp.decodeString_encodeString (b := [1, 2]) (by decide) _),
    (reconstructRollup_encodeBlobs gethRlp).2 payloadRollup (by decide)
      (fun k => Rlp.decodeString_encodeString (b := gethRlp.encodeRollup payloadRollup)
        (by decide) _)
      (decodeRollup_encodeRollup payloadRollup (by decide))⟩

end RoundTrip

end GoTen.EthAdapter.Blob
