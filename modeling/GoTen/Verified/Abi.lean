import Mathlib

/-!
# The Solidity contract ABI encoding of static and dynamic tuples

Values are unsigned integers and addresses (one 32-byte word each), byte
strings (dynamic: a length word and the bytes padded to a word boundary)
and tuples. A tuple is encoded as the heads of its components followed by
their tails: a static component is its own head and has no tail, a dynamic
one has the offset of its tail as head. `abiEncode` is both
`abi.encode(a₁, …, aₙ)` in Solidity and `abi.Arguments.Pack` in geth: the
encoding of the tuple of the arguments.

## Main results

* `encode_tuple`: a tuple value is encoded as the argument list of its
  components.
* `abiEncode_singleton_dynamic`, `abiEncode_singleton_static`: encoding one
  argument that is a tuple prepends an offset word exactly when the tuple is
  dynamic. So `abi.encode(s)` for a struct `s` and `Pack` of the fields of `s`
  agree when every field is static and differ by one leading word otherwise.
* `abiEncode_cons_static`: a static first argument is the start of the
  encoding. `wordAt` reads a word of an encoding back, as a decoder does.
-/

namespace GoTen.Verified.Abi

/-- An ABI value. `uint` covers every `uintN` and `address` a `uint160`. -/
inductive AbiValue where
  | uint (v : Nat)
  | address (a : Nat)
  | bytes (b : List UInt8)
  | tuple (vs : List AbiValue)
  deriving Repr

/-- The 32-byte big-endian word of `n` (taken modulo `2 ^ 256`). -/
def word (n : Nat) : List UInt8 :=
  (List.range 32).map fun i => UInt8.ofNat (n / 256 ^ (31 - i))

@[simp] theorem length_word (n : Nat) : (word n).length = 32 := by
  simp [word]

mutual
/-- A value is dynamic when it is a byte string or contains one. -/
def AbiValue.isDynamic : AbiValue → Bool
  | .bytes _ => true
  | .tuple vs => anyDynamic vs
  | _ => false

/-- Some component of the list is dynamic. -/
def anyDynamic : List AbiValue → Bool
  | [] => false
  | v :: vs => v.isDynamic || anyDynamic vs
end

/-- Head and tail sections of a tuple whose components have the given
dynamism and encodings; `offset` is where the next tail starts. -/
def headsTails (offset : Nat) : List (Bool × List UInt8) → List UInt8 × List UInt8
  | [] => ([], [])
  | (dyn, e) :: ps =>
      if dyn then
        let rest := headsTails (offset + e.length) ps
        (word offset ++ rest.1, e ++ rest.2)
      else
        let rest := headsTails offset ps
        (e ++ rest.1, rest.2)

/-- The size of the head section. -/
def headSize (parts : List (Bool × List UInt8)) : Nat :=
  (parts.map fun p => if p.1 then 32 else p.2.length).sum

/-- Heads, then tails, the first tail starting right after the heads. -/
def encodeTuple (parts : List (Bool × List UInt8)) : List UInt8 :=
  let ht := headsTails (headSize parts) parts
  ht.1 ++ ht.2

mutual
/-- The encoding of one value. -/
def encode : AbiValue → List UInt8
  | .uint v => word v
  | .address a => word a
  | .bytes b => word b.length ++ b ++ List.replicate ((32 - b.length % 32) % 32) 0
  | .tuple vs => encodeTuple (encodeParts vs)

/-- Every component with its dynamism and encoding. -/
def encodeParts : List AbiValue → List (Bool × List UInt8)
  | [] => []
  | v :: vs => (v.isDynamic, encode v) :: encodeParts vs
end

/-- `abi.encode(args…)` / `Arguments.Pack(args…)`. -/
def abiEncode (args : List AbiValue) : List UInt8 :=
  encodeTuple (encodeParts args)

theorem encode_tuple (vs : List AbiValue) : encode (.tuple vs) = abiEncode vs := by
  simp [encode, abiEncode]

theorem isDynamic_tuple (vs : List AbiValue) : (AbiValue.tuple vs).isDynamic = anyDynamic vs := by
  simp [AbiValue.isDynamic]

/-- One dynamic argument: an offset word pointing just past itself, then the value. -/
theorem abiEncode_singleton_dynamic (v : AbiValue) (h : v.isDynamic = true) :
    abiEncode [v] = word 32 ++ encode v := by
  simp [abiEncode, encodeParts, encodeTuple, headSize, headsTails, h]

/-- One static argument is encoded in place. -/
theorem abiEncode_singleton_static (v : AbiValue) (h : v.isDynamic = false) :
    abiEncode [v] = encode v := by
  simp [abiEncode, encodeParts, encodeTuple, headSize, headsTails, h]

/-- `abi.encode` of a struct against `Pack` of its fields. -/
theorem abiEncode_struct (fields : List AbiValue) :
    abiEncode [.tuple fields] =
      (if anyDynamic fields then word 32 else []) ++ abiEncode fields := by
  cases hdyn : anyDynamic fields with
  | true =>
      rw [abiEncode_singleton_dynamic _ (by rw [isDynamic_tuple, hdyn]), encode_tuple]
      rfl
  | false =>
      rw [abiEncode_singleton_static _ (by rw [isDynamic_tuple, hdyn]), encode_tuple]
      rfl

/-- A static first argument is encoded in place, at the start. -/
theorem abiEncode_cons_static (v : AbiValue) (vs : List AbiValue) (h : v.isDynamic = false) :
    (abiEncode (v :: vs)).take (encode v).length = encode v := by
  simp [abiEncode, encodeParts, encodeTuple, headsTails, h]

/-! ## Reading words back -/

/-- The number a big-endian byte string spells. -/
def wordValue (bs : List UInt8) : Nat :=
  bs.foldl (fun acc b => 256 * acc + b.toNat) 0

/-- The word that starts at byte `pos` of an encoding. -/
def wordAt (data : List UInt8) (pos : Nat) : Nat :=
  wordValue ((data.drop pos).take 32)

end GoTen.Verified.Abi
