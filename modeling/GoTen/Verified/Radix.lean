import Mathlib

/-!
# Little-endian numbers, fixed-size windows and small bit accumulators

Code that regroups a byte string into pieces of another width (six-bit
pieces, bytes of 31) is correct when the number the pieces spell is the
number the bytes spell. This file gives the vocabulary for that argument:

* `littleEndian bs`: the number whose base-256 digits, least significant
  first, are the bytes `bs`;
* `resize l m d`: the first `m` elements of `l`, padded with `d` up to `m`,
  which is what a reader of a fixed-size window sees;
* the values of `|||`, `<<<`, `>>>` and masks on a `UInt16` accumulator when
  no bit is lost, as sums, quotients and remainders.

## Main results

* `ofDigits_eq_mod_of_getElem`: digits that are the successive remainders of
  `P` spell `P` modulo the base to their number.
* `littleEndian_resize`, `littleEndian_inj`: a window of bytes spells the
  remainder of the whole, and bytes of one length are fixed by their number.
* `map_range_getD`, `flatMap_range_map`: reading a window index by index,
  in rows or at once, gives the same list.
-/

namespace GoTen.Verified.Radix

variable {α : Type}

/-! ## Fixed-size windows of a list -/

/-- The first `m` elements of `l`, padded with `d` up to length `m`. -/
def resize (l : List α) (m : Nat) (d : α) : List α :=
  l.take m ++ List.replicate (m - l.length) d

@[simp] theorem length_resize (l : List α) (m : Nat) (d : α) : (resize l m d).length = m := by
  simp only [resize, List.length_append, List.length_take, List.length_replicate]
  omega

theorem resize_of_length_le {l : List α} {m : Nat} (h : l.length ≤ m) (d : α) :
    resize l m d = l ++ List.replicate (m - l.length) d := by
  rw [resize, List.take_of_length_le h]

/-- A window of `m + n` is the window of `m` followed by the window of `n`
after it. -/
theorem resize_add (l : List α) (m n : Nat) (d : α) :
    resize l (m + n) d = resize l m d ++ resize (l.drop m) n d := by
  unfold resize
  rw [List.take_add, List.length_drop]
  by_cases h : l.length ≤ m
  · have hrep : m + n - l.length = (m - l.length) + n := by omega
    rw [List.drop_eq_nil_of_le h, List.take_nil, hrep, List.replicate_add,
      Nat.sub_eq_zero_of_le h, Nat.sub_zero]
    simp
  · have hrep : m + n - l.length = n - (l.length - m) := by omega
    have hm : m - l.length = 0 := by omega
    rw [hrep, hm]
    simp

/-- A window followed by what lies past it is the whole list, padded. -/
theorem resize_append_drop (l : List α) (m : Nat) (d : α) :
    resize l m d ++ l.drop m = l ++ List.replicate (m - l.length) d := by
  by_cases h : l.length ≤ m
  · rw [resize_of_length_le h, List.drop_eq_nil_of_le h, List.append_nil]
  · have hm : m - l.length = 0 := by omega
    rw [resize, hm, List.replicate_zero, List.append_nil, List.append_nil, List.take_append_drop]

/-- Reading the first `m` indices one by one, with `d` past the end. -/
theorem map_range_getD (l : List α) (m : Nat) (d : α) :
    (List.range m).map (fun j => l[j]?.getD d) = resize l m d := by
  induction m with
  | zero => simp [resize]
  | succ m ih =>
      rw [List.range_succ, List.map_append, ih, resize_add]
      congr 1
      -- the window of one after `m` is the element at `m`, or `d`
      cases hdrop : l.drop m with
      | nil =>
          have hlen : l.length ≤ m := List.drop_eq_nil_iff.mp hdrop
          simp [resize, List.getElem?_eq_none hlen]
      | cons x rest =>
          have hx : l[m]? = some x := by
            rw [← List.head?_drop, hdrop, List.head?_cons]
          simp [resize, hx]

/-- Reading `m` rows of `w` consecutive indices is reading the first
`m * w` indices. -/
theorem flatMap_range_map (f : Nat → α) (m w : Nat) :
    (List.range m).flatMap (fun i => (List.range w).map fun k => f (i * w + k)) =
      (List.range (m * w)).map f := by
  induction m with
  | zero => simp
  | succ m ih =>
      rw [List.range_succ, List.flatMap_append, ih, Nat.succ_mul, List.range_add,
        List.map_append, List.map_map]
      simp [Function.comp_def]

/-- A list read index by index from `i` that starts with `y` goes on, from
`i + 1`, as the rest. -/
theorem window_tail {xs ys : List α} {y : α} {i : Nat}
    (h : ∀ j, xs[i + j]? = (y :: ys)[j]?) (j : Nat) : xs[i + 1 + j]? = ys[j]? := by
  have hj := h (j + 1)
  rw [List.getElem?_cons_succ] at hj
  rw [show i + 1 + j = i + (j + 1) by omega]
  exact hj

/-! ## Numbers spelled by digits -/

/-- Digits that are the successive remainders of `P` spell `P` modulo the
base to the number of digits. -/
theorem ofDigits_eq_mod_of_getElem {b : Nat} (L : List Nat) (P : Nat)
    (h : ∀ t (ht : t < L.length), L[t] = P / b ^ t % b) :
    Nat.ofDigits b L = P % b ^ L.length := by
  induction L generalizing P with
  | nil => rw [Nat.ofDigits_nil, List.length_nil, pow_zero, Nat.mod_one]
  | cons x L ih =>
      have hx := h 0 (by simp)
      rw [List.getElem_cons_zero, pow_zero, Nat.div_one] at hx
      have hL : ∀ t (ht : t < L.length), L[t] = P / b / b ^ t % b := by
        intro t ht
        have hsucc := h (t + 1) (by simpa using ht)
        rw [List.getElem_cons_succ] at hsucc
        rw [hsucc, Nat.div_div_eq_div_mul, ← pow_succ']
      rw [Nat.ofDigits_cons, ih (P / b) hL, hx, List.length_cons, pow_succ', Nat.mod_mul]

/-- The first `m` digits spell the number modulo the base to the `m`. -/
theorem ofDigits_take {b : Nat} (hb : 1 < b) {l : List Nat} (hl : ∀ x ∈ l, x < b) (m : Nat) :
    Nat.ofDigits b (l.take m) = Nat.ofDigits b l % b ^ m := by
  by_cases h : m ≤ l.length
  · have hlt : Nat.ofDigits b (l.take m) < b ^ (l.take m).length :=
      Nat.ofDigits_lt_base_pow_length hb fun x hx => hl x (List.mem_of_mem_take hx)
    rw [List.length_take_of_le h] at hlt
    conv_rhs => rw [← List.take_append_drop m l, Nat.ofDigits_append, List.length_take_of_le h]
    rw [Nat.add_mul_mod_self_left, Nat.mod_eq_of_lt hlt]
  · have hlt : Nat.ofDigits b l < b ^ l.length := Nat.ofDigits_lt_base_pow_length hb hl
    have hpow : b ^ l.length ≤ b ^ m := Nat.pow_le_pow_right (by omega) (by omega)
    rw [List.take_of_length_le (by omega), Nat.mod_eq_of_lt (by omega)]

/-! ## Little-endian byte strings -/

/-- The number whose base-256 digits, least significant first, are `bs`. -/
def littleEndian (bs : List UInt8) : Nat :=
  Nat.ofDigits 256 (bs.map UInt8.toNat)

@[simp] theorem littleEndian_nil : littleEndian [] = 0 := rfl

@[simp] theorem littleEndian_cons (b : UInt8) (bs : List UInt8) :
    littleEndian (b :: bs) = b.toNat + 256 * littleEndian bs := by
  simp [littleEndian, Nat.ofDigits_cons]

theorem toNat_mem_lt {bs : List UInt8} : ∀ x ∈ bs.map UInt8.toNat, x < 256 := by
  simp only [List.mem_map]
  rintro _ ⟨b, -, rfl⟩
  exact b.toNat_lt

/-- Byte strings of one length are fixed by the number they spell. -/
theorem littleEndian_inj {bs cs : List UInt8} (hlen : bs.length = cs.length)
    (h : littleEndian bs = littleEndian cs) : bs = cs := by
  have hdigits : bs.map UInt8.toNat = cs.map UInt8.toNat :=
    Nat.ofDigits_inj_of_len_eq (by norm_num) (by simpa using hlen) toNat_mem_lt toNat_mem_lt h
  exact List.map_injective_iff.mpr (fun _ _ hx => UInt8.toNat_inj.mp hx) hdigits

/-- A window of bytes padded with zeros spells the remainder of the whole. -/
theorem littleEndian_resize (bs : List UInt8) (m : Nat) :
    littleEndian (resize bs m 0) = littleEndian bs % 256 ^ m := by
  have hzero : (List.replicate (m - bs.length) (0 : UInt8)).map UInt8.toNat =
      List.replicate (m - bs.length) 0 := by simp
  rw [littleEndian, resize, List.map_append, hzero, Nat.ofDigits_append_replicate_zero,
    List.map_take, ofDigits_take (by norm_num) toNat_mem_lt, littleEndian]

/-! ## Sixteen-bit accumulators -/

/-- Putting `x` above `k` pending bits adds it at weight `2 ^ k`, when the
result fits. -/
theorem toNat_or_shiftLeft {acc x : UInt16} {k : Nat} (hk : k < 16)
    (hacc : acc.toNat < 2 ^ k) (hx : x.toNat * 2 ^ k < 2 ^ 16) :
    (acc ||| (x <<< k.toUInt16)).toNat = acc.toNat + x.toNat * 2 ^ k := by
  have hshift : k.toUInt16.toNat % 16 = k := by
    rw [Nat.toUInt16_eq, UInt16.toNat_ofNat']
    omega
  rw [UInt16.toNat_or, UInt16.toNat_shiftLeft, hshift, Nat.shiftLeft_eq,
    Nat.mod_eq_of_lt hx, Nat.or_comm, ← Nat.shiftLeft_eq,
    ← Nat.shiftLeft_add_eq_or_of_lt hacc, Nat.shiftLeft_eq]
  omega

theorem toNat_shiftRight (x : UInt16) {k : Nat} (hk : k < 16) :
    (x >>> k.toUInt16).toNat = x.toNat / 2 ^ k := by
  have hshift : k.toUInt16.toNat % 16 = k := by
    rw [Nat.toUInt16_eq, UInt16.toNat_ofNat']
    omega
  rw [UInt16.toNat_shiftRight, hshift, Nat.shiftRight_eq_div_pow]

/-- Masking with `(1 << k) - 1` keeps the low `k` bits. -/
theorem toNat_and_mask (x : UInt16) {k : Nat} (hk : k < 16) :
    (x &&& ((1 <<< k.toUInt16) - 1)).toNat = x.toNat % 2 ^ k := by
  have hmask : ((1 <<< k.toUInt16) - 1 : UInt16).toNat = 2 ^ k - 1 := by
    have hone : ((1 : UInt16) <<< k.toUInt16).toNat = 2 ^ k := by
      rw [UInt16.toNat_shiftLeft, Nat.toUInt16_eq, UInt16.toNat_ofNat']
      have hk' : k % 2 ^ 16 % 16 = k := by omega
      have hpow : 2 ^ k < 2 ^ 16 := Nat.pow_lt_pow_right (by norm_num) hk
      simp only [hk', UInt16.toNat_one, Nat.one_shiftLeft]
      exact Nat.mod_eq_of_lt hpow
    rw [UInt16.toNat_sub_of_le _ _ (by rw [UInt16.le_iff_toNat_le, hone]; exact Nat.one_le_two_pow),
      hone, UInt16.toNat_one]
  rw [UInt16.toNat_and, hmask, Nat.and_two_pow_sub_one_eq_mod]

end GoTen.Verified.Radix
