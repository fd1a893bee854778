import GoTen.Verified.FixedBytes
import GoTen.Verified.Result

/-!
# Recursive length prefix

RLP serialises byte strings and nested lists of them. A byte below `0x80`
stands for itself; any other string, and every list, is written after a tag:
`0x80` or `0xc0` plus the payload's size for payloads below 56 bytes, and
otherwise `0xb7` or `0xf7` plus the number of bytes of the size, followed by
the size in big-endian bytes without leading zeros.

The decoder follows geth's `rlp.Stream` on a byte reader: the reader's
length limits every size, a tag must be the shortest one for its payload
(`ErrCanonSize`), and `Decode` into a byte slice reads one string and leaves
what follows it, while `DecodeBytes` reads one item that must take the whole
input. geth's errors carry the Go type being decoded; here they carry the
kind of error only. Lists are decoded with fuel, and twice the input's
length is enough (`decodeItem_encode`).

## Main results

* `setBytes_beBytes`, `length_beBytes_le`: the big-endian bytes of a size
  spell it, in at most eight bytes below `2 ^ 64`.
* `readItem_encodeString`, `readItem_listHeader`: a tag and its payload are
  read back, whatever follows them.
* `decodeString_encodeString`: `Decode` reads a byte string back from its
  encoding, whatever follows it.
* `decodeItem_encode`, `decodeBytes_encode`: every item is read back from its
  encoding.
-/

namespace GoTen.Verified.Rlp

/-- An RLP item: a byte string, or a list of items. -/
inductive Item where
  | bytes (b : List UInt8)
  | list (items : List Item)
  deriving Repr

/-! ## Encoding -/

/-- The big-endian bytes of `n` without leading zeros, from at most `fuel`
divisions by 256. -/
def beBytesAux : Nat → Nat → List UInt8
  | 0, _ => []
  | fuel + 1, n => if n = 0 then [] else beBytesAux fuel (n / 256) ++ [UInt8.ofNat n]

/-- The big-endian bytes of `n` without leading zeros; zero has none. -/
def beBytes (n : Nat) : List UInt8 := beBytesAux n n

/-- The tag of a payload of `size` bytes, for strings at `offset = 0x80` and
for lists at `offset = 0xc0`. -/
def header (offset : UInt8) (size : Nat) : List UInt8 :=
  if size < 56 then [offset + UInt8.ofNat size]
  else (offset + 55 + UInt8.ofNat (beBytes size).length) :: beBytes size

/-- The encoding of a byte string: a single byte below `0x80` is itself. -/
def encodeString (b : List UInt8) : List UInt8 :=
  match b with
  | [x] => if x < 0x80 then [x] else header 0x80 1 ++ [x]
  | _ => header 0x80 b.length ++ b

mutual

/-- `rlp.EncodeToBytes` of an item. -/
def encode : Item → List UInt8
  | .bytes b => encodeString b
  | .list items => header 0xc0 (encodeItems items).length ++ encodeItems items

/-- The payload of a list: its items' encodings, one after the other. -/
def encodeItems : List Item → List UInt8
  | [] => []
  | item :: items => encode item ++ encodeItems items

end

/-- An unsigned integer as geth writes it: its big-endian bytes without
leading zeros, zero as the empty string. -/
def uintItem (n : Nat) : Item := .bytes (beBytes n)

/-! ## Decoding -/

/-- `Stream.readUint` of the size in a long tag: `n` big-endian bytes, with
no leading zero and spelling at least 56. -/
def readSize (n : Nat) (rest : List UInt8) : Except String Nat :=
  if rest.length < n then .error "unexpected EOF"
  else if (rest.take n).head? = some 0 then .error "rlp: non-canonical size information"
  else if BigInt.setBytes (rest.take n) < 56 then .error "rlp: non-canonical size information"
  else .ok (BigInt.setBytes (rest.take n))

/-- `Stream.readKind`: whether the item at the head of the input is a list,
the length of its tag and the size of its payload. A byte below `0x80` is a
string of itself, with no tag. -/
def readKind : List UInt8 → Except String (Bool × Nat × Nat)
  | [] => .error "EOF"
  | b :: rest =>
      if b < 0x80 then .ok (false, 0, 1)
      else if b < 0xb8 then .ok (false, 1, (b - 0x80).toNat)
      else if b < 0xc0 then
        (readSize (b - 0xb7).toNat rest).map fun size => (false, (b - 0xb7).toNat + 1, size)
      else if b < 0xf8 then .ok (true, 1, (b - 0xc0).toNat)
      else (readSize (b - 0xf7).toNat rest).map fun size => (true, (b - 0xf7).toNat + 1, size)

/-- The item at the head of the input: whether it is a list, its payload,
and the input after it. The size must fit the input, and a string of one
byte below `0x80` must not have a tag. -/
def readItem (input : List UInt8) : Except String (Bool × List UInt8 × List UInt8) := do
  let (isList, tag, size) ← readKind input
  if input.length < tag + size then throw "rlp: value size exceeds available input length"
  let payload := (input.drop tag).take size
  if !isList && tag == 1 && size == 1 && payload.all (· < 0x80) then
    throw "rlp: non-canonical size information"
  pure (isList, payload, input.drop (tag + size))

mutual

/-- One item off the head of the input, and the input after it. -/
def decodeItem : Nat → List UInt8 → Except String (Item × List UInt8)
  | 0, _ => .error "rlp: out of fuel"
  | fuel + 1, input => do
      let (isList, payload, rest) ← readItem input
      if isList then
        let items ← decodeItems fuel payload
        pure (.list items, rest)
      else pure (.bytes payload, rest)

/-- The items of a list's payload, which they must take up entirely. -/
def decodeItems : Nat → List UInt8 → Except String (List Item)
  | _, [] => .ok []
  | 0, _ :: _ => .error "rlp: out of fuel"
  | fuel + 1, input => do
      let (item, rest) ← decodeItem fuel input
      let items ← decodeItems fuel rest
      pure (item :: items)

end

/-- `rlp.Decode` from a byte reader into a byte slice: one string, the input
after it left unread. -/
def decodeString (input : List UInt8) : Except String (List UInt8) := do
  let (isList, payload, _) ← readItem input
  if isList then throw "rlp: expected input string or byte for []uint8"
  pure payload

/-- `rlp.DecodeBytes`: one item, which must take the whole input. -/
def decodeBytes (input : List UInt8) : Except String Item := do
  let (item, rest) ← decodeItem (2 * input.length + 1) input
  if rest ≠ [] then throw "rlp: input contains more than one value"
  pure item

/-- A fixed-size byte array `[w]byte`: a string of exactly `w` bytes. -/
def Item.fixedBytes (w : Nat) : Item → Except String (List UInt8)
  | .bytes b =>
      if b.length < w then .error "rlp: input string too short"
      else if w < b.length then .error "rlp: input string too long"
      else .ok b
  | .list _ => .error "rlp: expected input string or byte"

/-- An unsigned integer of at most `w` bytes, with no leading zero. -/
def Item.uint (w : Nat) : Item → Except String Nat
  | .bytes b =>
      if w < b.length then .error "rlp: uint overflow"
      else if b.head? = some 0 then .error "rlp: non-canonical integer (leading zero bytes)"
      else .ok (BigInt.setBytes b)
  | .list _ => .error "rlp: expected input string or byte"

/-- A byte slice `[]byte`. -/
def Item.byteString : Item → Except String (List UInt8)
  | .bytes b => .ok b
  | .list _ => .error "rlp: expected input string or byte for []uint8"

/-- A list's items. -/
def Item.items : Item → Except String (List Item)
  | .list items => .ok items
  | .bytes _ => .error "rlp: expected input list"

/-! ## Sizes in big-endian bytes -/

theorem setBytes_beBytesAux : ∀ {fuel n : Nat}, n ≤ fuel →
    BigInt.setBytes (beBytesAux fuel n) = n
  | 0, n, h => by simp [beBytesAux, BigInt.setBytes]; omega
  | fuel + 1, n, h => by
      by_cases hn : n = 0
      · simp [beBytesAux, hn, BigInt.setBytes]
      · rw [beBytesAux, if_neg hn, FixedBytes.setBytes_append_singleton,
          setBytes_beBytesAux (by omega), UInt8.toNat_ofNat']
        omega

theorem setBytes_beBytes (n : Nat) : BigInt.setBytes (beBytes n) = n :=
  setBytes_beBytesAux (le_refl n)

theorem length_beBytesAux_le : ∀ {fuel n w : Nat}, n < 256 ^ w →
    (beBytesAux fuel n).length ≤ w
  | 0, _, _, _ => by simp [beBytesAux]
  | fuel + 1, n, w, h => by
      by_cases hn : n = 0
      · simp [beBytesAux, hn]
      · cases w with
        | zero => simp at h; omega
        | succ w =>
            have hdiv : n / 256 < 256 ^ w := by
              rw [pow_succ] at h
              exact Nat.div_lt_of_lt_mul (by rw [Nat.mul_comm]; exact h)
            rw [beBytesAux, if_neg hn, List.length_append, List.length_singleton]
            have := @length_beBytesAux_le fuel _ _ hdiv
            omega

/-- A size below `2 ^ 64` takes at most eight bytes. -/
theorem length_beBytes_le {n : Nat} (h : n < 2 ^ 64) : (beBytes n).length ≤ 8 :=
  length_beBytesAux_le (show n < 256 ^ 8 by norm_num; omega)

theorem beBytesAux_zero (fuel : Nat) : beBytesAux fuel 0 = [] := by
  cases fuel <;> simp [beBytesAux]

theorem beBytesAux_ne_nil : ∀ {fuel n : Nat}, n ≤ fuel → n ≠ 0 → beBytesAux fuel n ≠ []
  | 0, _, h, hn => by omega
  | fuel + 1, n, _, hn => by simp [beBytesAux, hn]

theorem head_beBytesAux_ne_zero : ∀ {fuel n : Nat}, n ≤ fuel →
    (beBytesAux fuel n).head? ≠ some 0
  | 0, _, _ => by simp [beBytesAux]
  | fuel + 1, n, h => by
      by_cases hn : n = 0
      · simp [beBytesAux, hn]
      · rw [beBytesAux, if_neg hn]
        by_cases hsmall : n / 256 = 0
        · -- one byte: the number itself, which is not zero
          rw [hsmall, beBytesAux_zero, List.nil_append, List.head?_cons]
          intro h0
          have hbyte := congrArg UInt8.toNat (Option.some.inj h0)
          rw [UInt8.toNat_ofNat'] at hbyte
          simp at hbyte
          omega
        · rw [List.head?_append_of_ne_nil _ (beBytesAux_ne_nil (by omega) hsmall)]
          exact head_beBytesAux_ne_zero (by omega)

theorem beBytes_ne_nil {n : Nat} (hn : n ≠ 0) : beBytes n ≠ [] :=
  beBytesAux_ne_nil (le_refl n) hn

theorem head_beBytes_ne_zero (n : Nat) : (beBytes n).head? ≠ some 0 :=
  head_beBytesAux_ne_zero (le_refl n)

/-! ## Reading a tag back -/

/-- `Stream.readUint` reads back the size of a long tag. -/
theorem readSize_beBytes {size : Nat} (h : 56 ≤ size) (rest : List UInt8) :
    readSize (beBytes size).length (beBytes size ++ rest) = .ok size := by
  simp only [readSize, List.length_append, List.take_left', setBytes_beBytes]
  rw [if_neg (by omega), if_neg (head_beBytes_ne_zero size), if_neg (by omega)]

/-- A short tag is one byte, the offset plus the size. -/
theorem toNat_shortTag {offset : UInt8} {size : Nat} (h : offset.toNat + size < 256) :
    (offset + UInt8.ofNat size).toNat = offset.toNat + size := by
  have hs : size % 2 ^ 8 = size := Nat.mod_eq_of_lt (by omega)
  rw [UInt8.toNat_add, UInt8.toNat_ofNat', hs]
  exact Nat.mod_eq_of_lt h

/-- A string's tag, read back whatever follows it. -/
theorem readKind_stringHeader {size : Nat} (hsize : size < 2 ^ 64) (rest : List UInt8) :
    readKind (header 0x80 size ++ rest) = .ok (false, (header 0x80 size).length, size) := by
  by_cases hshort : size < 56
  · have htag : ((0x80 : UInt8) + UInt8.ofNat size).toNat = 128 + size :=
      toNat_shortTag (by simp; omega)
    simp only [header, hshort, if_true, List.singleton_append, List.length_singleton, readKind,
      UInt8.lt_iff_toNat_lt, htag, UInt8.reduceToNat]
    rw [if_neg (by omega), if_pos (by omega)]
    simp [UInt8.toNat_ofNat']
    omega
  · have hlen := length_beBytes_le hsize
    have hpos : 0 < (beBytes size).length := List.length_pos_iff.mpr (beBytes_ne_nil (by omega))
    have hoff : (0x80 : UInt8) + 55 = 0xb7 := by decide
    have htag : ((0xb7 : UInt8) + UInt8.ofNat (beBytes size).length).toNat =
        183 + (beBytes size).length := toNat_shortTag (by simp; omega)
    simp only [header, hshort, if_false, hoff, List.cons_append, List.length_cons, readKind,
      UInt8.lt_iff_toNat_lt, htag, UInt8.reduceToNat]
    rw [if_neg (by omega), if_neg (by omega), if_pos (by omega)]
    have hsub : ((0xb7 : UInt8) + UInt8.ofNat (beBytes size).length - 0xb7).toNat =
        (beBytes size).length := by
      simp [UInt8.toNat_ofNat']
      omega
    rw [hsub, readSize_beBytes (by omega)]
    rfl

/-- A list's tag, read back whatever follows it. -/
theorem readKind_listHeader {size : Nat} (hsize : size < 2 ^ 64) (rest : List UInt8) :
    readKind (header 0xc0 size ++ rest) = .ok (true, (header 0xc0 size).length, size) := by
  by_cases hshort : size < 56
  · have htag : ((0xc0 : UInt8) + UInt8.ofNat size).toNat = 192 + size :=
      toNat_shortTag (by simp; omega)
    simp only [header, hshort, if_true, List.singleton_append, List.length_singleton, readKind,
      UInt8.lt_iff_toNat_lt, htag, UInt8.reduceToNat]
    rw [if_neg (by omega), if_neg (by omega), if_neg (by omega),
      if_pos (by omega)]
    simp [UInt8.toNat_ofNat']
    omega
  · have hlen := length_beBytes_le hsize
    have hpos : 0 < (beBytes size).length := List.length_pos_iff.mpr (beBytes_ne_nil (by omega))
    have hoff : (0xc0 : UInt8) + 55 = 0xf7 := by decide
    have htag : ((0xf7 : UInt8) + UInt8.ofNat (beBytes size).length).toNat =
        247 + (beBytes size).length := toNat_shortTag (by simp; omega)
    simp only [header, hshort, if_false, hoff, List.cons_append, List.length_cons, readKind,
      UInt8.lt_iff_toNat_lt, htag, UInt8.reduceToNat]
    rw [if_neg (by omega), if_neg (by omega), if_neg (by omega),
      if_neg (by omega)]
    have hsub : ((0xf7 : UInt8) + UInt8.ofNat (beBytes size).length - 0xf7).toNat =
        (beBytes size).length := by
      simp [UInt8.toNat_ofNat']
      omega
    rw [hsub, readSize_beBytes (by omega)]
    rfl

/-! ## Reading an item back -/

/-- An item read back from its tag, its payload and what follows, when the
tag announces the payload and is the shortest for it. -/
theorem readItem_eq {pre payload rest : List UInt8} {isList : Bool}
    (hkind : readKind (pre ++ payload ++ rest) = .ok (isList, pre.length, payload.length))
    (hcanon : (!isList && pre.length == 1 && payload.length == 1 &&
      payload.all (· < 0x80)) = false) :
    readItem (pre ++ payload ++ rest) = .ok (isList, payload, rest) := by
  have hpayload : ((pre ++ payload ++ rest).drop pre.length).take payload.length = payload := by
    simp
  have hrest : (pre ++ payload ++ rest).drop (pre.length + payload.length) = rest := by
    simp [List.drop_append]
  simp only [readItem, hkind, Result.ok_bind, List.length_append, hpayload, hcanon, hrest]
  rw [if_neg (by omega)]
  rfl

theorem encodeString_ne_nil (b : List UInt8) : encodeString b ≠ [] := by
  unfold encodeString header
  split
  · split <;> simp
  · split <;> simp

theorem length_le_encodeString (b : List UInt8) : b.length ≤ (encodeString b).length := by
  unfold encodeString
  split
  · split <;> simp
  · simp

/-- A byte string read back from its encoding, whatever follows it. -/
theorem readItem_encodeString {b : List UInt8} (hb : b.length < 2 ^ 64) (rest : List UInt8) :
    readItem (encodeString b ++ rest) = .ok (false, b, rest) := by
  match b with
  | [x] =>
      by_cases hx : x < 0x80
      · -- a byte below `0x80` is its own encoding
        have hkind : readKind ([] ++ [x] ++ rest) = .ok (false, 0, 1) := by
          simp [readKind, hx]
        simpa [encodeString, hx] using readItem_eq hkind (by simp)
      · have hkind := @readKind_stringHeader 1 (by norm_num) ([x] ++ rest)
        rw [← List.append_assoc] at hkind
        have hcanon : (!false && (header 0x80 1).length == 1 && [x].length == 1 &&
            [x].all (· < 0x80)) = false := by simp [hx]
        simpa [encodeString, hx] using readItem_eq hkind hcanon
  | [] =>
      have hkind := @readKind_stringHeader 0 (by norm_num) ([] ++ rest)
      rw [← List.append_assoc] at hkind
      simpa [encodeString] using readItem_eq hkind (by simp)
  | x :: y :: t =>
      have hkind := @readKind_stringHeader (x :: y :: t).length hb ((x :: y :: t) ++ rest)
      rw [← List.append_assoc] at hkind
      simpa [encodeString] using readItem_eq hkind (by simp)

/-- `Decode` reads a byte string back from its encoding, whatever follows. -/
theorem decodeString_encodeString {b : List UInt8} (hb : b.length < 2 ^ 64) (rest : List UInt8) :
    decodeString (encodeString b ++ rest) = .ok b := by
  simp only [decodeString, readItem_encodeString hb rest, Result.ok_bind]
  rfl

/-- A list read back from its tag and payload, whatever follows. -/
theorem readItem_listHeader {payload : List UInt8} (hp : payload.length < 2 ^ 64)
    (rest : List UInt8) :
    readItem (header 0xc0 payload.length ++ payload ++ rest) = .ok (true, payload, rest) := by
  have hkind := readKind_listHeader hp (payload ++ rest)
  rw [← List.append_assoc] at hkind
  exact readItem_eq hkind (by simp)

theorem encode_ne_nil (item : Item) : encode item ≠ [] := by
  cases item with
  | bytes b => exact encodeString_ne_nil b
  | list items => simp [encode, header]; split <;> simp

theorem length_encodeItems_cons (item : Item) (items : List Item) :
    (encodeItems (item :: items)).length = (encode item).length + (encodeItems items).length := by
  simp [encodeItems]

mutual

/-- Every item is read back from its encoding, whatever follows it, with
fuel of twice the encoding's length. The induction follows the item. -/
theorem decodeItem_encode : ∀ (item : Item) {fuel : Nat} (rest : List UInt8),
    (encode item).length < 2 ^ 64 → 2 * (encode item).length ≤ fuel →
    decodeItem fuel (encode item ++ rest) = .ok (item, rest)
  | .bytes b, fuel, rest, hlen, hfuel => by
      obtain ⟨f, rfl⟩ : ∃ f, fuel = f + 1 := by
        have := List.length_pos_iff.mpr (encodeString_ne_nil b)
        exact ⟨fuel - 1, by simp [encode] at hfuel; omega⟩
      have hb : b.length < 2 ^ 64 := by
        have := length_le_encodeString b
        simp [encode] at hlen
        omega
      simp only [encode, decodeItem, readItem_encodeString hb rest, Result.ok_bind]
      rfl
  | .list items, fuel, rest, hlen, hfuel => by
      have hheader := List.length_pos_iff.mpr (show header 0xc0 (encodeItems items).length ≠ [] by
        unfold header; split <;> simp)
      simp only [encode, List.length_append] at hlen hfuel
      obtain ⟨f, rfl⟩ : ∃ f, fuel = f + 1 := ⟨fuel - 1, by omega⟩
      have hitems := decodeItems_encodeItems items (f := f) (by omega) (by omega)
      simp only [encode, decodeItem,
        readItem_listHeader (show (encodeItems items).length < 2 ^ 64 by omega), Result.ok_bind,
        if_true, hitems]
      rfl

/-- The items of a list are read back from its payload, with fuel of twice
its length and one more. -/
theorem decodeItems_encodeItems : ∀ (items : List Item) {f : Nat},
    (encodeItems items).length < 2 ^ 64 → 2 * (encodeItems items).length + 1 ≤ f →
    decodeItems f (encodeItems items) = .ok items
  | [], f, _, _ => by cases f <;> rfl
  | item :: items, f, hlen, hfuel => by
      rw [length_encodeItems_cons] at hlen hfuel
      have hpos := List.length_pos_iff.mpr (encode_ne_nil item)
      obtain ⟨g, rfl⟩ : ∃ g, f = g + 1 := ⟨f - 1, by omega⟩
      obtain ⟨x, xs, hx⟩ := List.exists_cons_of_ne_nil (encode_ne_nil item)
      have hitem := @decodeItem_encode item g (encodeItems items) (by omega) (by omega)
      have hrest := decodeItems_encodeItems items (f := g) (by omega) (by omega)
      rw [encodeItems, hx, List.cons_append, decodeItems, ← List.cons_append, ← hx, hitem]
      · simp only [Result.ok_bind, hrest]
        rfl
      · exact List.cons_ne_nil _ _

end

/-- `DecodeBytes` reads every item back from its encoding. -/
theorem decodeBytes_encode (item : Item) (hlen : (encode item).length < 2 ^ 64) :
    decodeBytes (encode item) = .ok item := by
  have h := @decodeItem_encode item (2 * (encode item).length + 1) [] hlen (by omega)
  rw [List.append_nil] at h
  simp only [decodeBytes, h, Result.ok_bind, ne_eq, not_true_eq_false, if_false]
  rfl

/-! ## Go values read back -/

theorem Item.fixedBytes_bytes {w : Nat} {b : List UInt8} (h : b.length = w) :
    (Item.bytes b).fixedBytes w = .ok b := by
  simp [Item.fixedBytes, h]

/-- An unsigned integer that fits `w` bytes is read back from its encoding. -/
theorem Item.uint_uint {n w : Nat} (h : n < 256 ^ w) : (uintItem n).uint w = .ok n := by
  have hlen : (beBytes n).length ≤ w := length_beBytesAux_le h
  simp only [uintItem, Item.uint]
  rw [if_neg (by omega), if_neg (head_beBytes_ne_zero n), setBytes_beBytes]

end GoTen.Verified.Rlp
