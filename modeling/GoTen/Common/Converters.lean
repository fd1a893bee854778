import GoTen.Common.Types
import GoTen.Verified.FixedBytes

/-!
# Batches and rollups between host and enclave (`common/rpc/converters.go`)

The host and the enclave exchange batches and rollups as protobuf messages.
`ToBatchHeaderMsg` writes each hash and address as its bytes and each
`*big.Int` as a `uint64` or as its bytes; `FromBatchHeaderMsg` reads them
back. The `CrossChainMsg` message has no field for the consistency level of
a cross-chain message, and the `RollupHeaderMsg` message none for the
payload hash of a rollup header, so those two fields come back as zero.

A header's hash is the keccak of the RLP of all its fields but the
signature, so a header comes back with the hash it was signed over exactly
when it comes back as it was.

## Main results

* `fromBatchHeaderMsg_toBatchHeaderMsg`: with its heights below `2 ^ 63` and
  its base fee below `2 ^ 64`, a batch header comes back with every field,
  except the consistency levels of its cross-chain messages, which are zero.
* `fromRollupHeaderMsg_toRollupHeaderMsg`: a rollup header comes back with
  its payload hash and those consistency levels zero.
* `fromExtBatchMsg_toExtBatchMsg`: batches and rollups whose consistency
  levels and payload hash are zero, as the enclave builds them, come back
  exactly.
-/

namespace GoTen.Common.Converters

open GoTen.Verified

/-- `Hash.Bytes()`. -/
def hashBytes (h : Hash) : List UInt8 := FixedBytes.toBytes 32 h.toNat

/-- `common.BytesToHash`. -/
def bytesToHash (bs : List UInt8) : Hash := BitVec.ofNat 256 (FixedBytes.fromBytes 32 bs)

/-- `Address.Bytes()`. -/
def addressBytes (a : Address) : List UInt8 := FixedBytes.toBytes 20 a.toNat

/-- `common.BytesToAddress`. -/
def bytesToAddress (bs : List UInt8) : Address := BitVec.ofNat 160 (FixedBytes.fromBytes 20 bs)

/-- `big.NewInt(int64(x))`, negative from `2 ^ 63` on. The headers' numbers
are natural numbers here, so a negative one reads as zero. -/
def newIntOfUint64 (x : UInt64) : Nat := x.toInt64.toInt.toNat

/-! ## The protobuf messages -/

/-- `generated.CrossChainMsg`. -/
structure CrossChainMsg where
  sender : List UInt8
  sequence : UInt64
  nonce : UInt32
  topic : UInt32
  payload : List UInt8
  deriving DecidableEq, Repr

/-- `generated.BatchHeaderMsg`. -/
structure BatchHeaderMsg where
  parentHash : List UInt8
  proof : List UInt8
  root : List UInt8
  txHash : List UInt8
  number : UInt64
  sequencerOrderNo : UInt64
  receiptHash : List UInt8
  extra : List UInt8
  signature : List UInt8
  gasLimit : UInt64
  gasUsed : UInt64
  time : UInt64
  baseFee : UInt64
  latestInboundCrossChainHeight : List UInt8
  latestInboundCrossChainHash : List UInt8
  crossChainMessages : List CrossChainMsg
  transferTree : List UInt8
  coinbase : List UInt8
  crossChainTree : List UInt8
  deriving DecidableEq, Repr

/-- `generated.RollupHeaderMsg`. -/
structure RollupHeaderMsg where
  parentHash : List UInt8
  compressionL1Head : List UInt8
  proofNumber : UInt64
  number : UInt64
  time : UInt64
  enclaveID : List UInt8
  crossChainMessages : List CrossChainMsg
  signature : List UInt8
  lastBatchSeqNo : UInt64
  deriving DecidableEq, Repr

/-- `generated.ExtBatchMsg`; no header is a nil `Header`. -/
structure ExtBatchMsg where
  header : Option BatchHeaderMsg
  txHashes : List (List UInt8)
  txs : List UInt8
  deriving DecidableEq, Repr

/-- `generated.ExtRollupMsg`. -/
structure ExtRollupMsg where
  header : Option RollupHeaderMsg
  batchPayloads : List UInt8
  calldataRollupHeader : List UInt8
  deriving DecidableEq, Repr

/-- `common.ExtBatch`: a batch as the host sees it. -/
structure ExtBatch where
  header : Option BatchHeader
  txHashes : List Hash
  encryptedTxBlob : List UInt8
  deriving DecidableEq, Repr

/-! ## The conversions -/

/-- `ToCrossChainMsgs`. -/
def toCrossChainMsgs (messages : List CrossChainMessage) : List CrossChainMsg :=
  messages.map fun message =>
    ⟨addressBytes message.sender, message.sequence, message.nonce, message.topic,
      message.payload⟩

/-- `FromCrossChainMsgs`: the struct literal leaves `ConsistencyLevel` at its
zero value. -/
def fromCrossChainMsgs (messages : List CrossChainMsg) : List CrossChainMessage :=
  messages.map fun message =>
    { sender := bytesToAddress message.sender
      sequence := message.sequence
      nonce := message.nonce
      topic := message.topic
      payload := message.payload
      consistencyLevel := 0 }

/-- `ToBatchHeaderMsg`. -/
def toBatchHeaderMsg (header : BatchHeader) : BatchHeaderMsg :=
  { parentHash := hashBytes header.parentHash
    proof := hashBytes header.l1Proof
    root := hashBytes header.root
    txHash := hashBytes header.txHash
    number := BigInt.uint64 header.number
    sequencerOrderNo := BigInt.uint64 header.sequencerOrderNo
    receiptHash := hashBytes header.receiptHash
    extra := header.extra
    signature := header.signature
    gasLimit := header.gasLimit
    gasUsed := header.gasUsed
    time := header.time
    baseFee := BigInt.uint64 header.baseFee
    transferTree := hashBytes header.crossChainRoot
    coinbase := addressBytes header.coinbase
    crossChainMessages := toCrossChainMsgs header.crossChainMessages
    latestInboundCrossChainHash := hashBytes header.latestInboundCrossChainHash
    crossChainTree := header.crossChainTree
    latestInboundCrossChainHeight := BigInt.bytes header.latestInboundCrossChainHeight }

/-- `FromBatchHeaderMsg`. -/
def fromBatchHeaderMsg (header : BatchHeaderMsg) : BatchHeader :=
  { parentHash := bytesToHash header.parentHash
    l1Proof := bytesToHash header.proof
    root := bytesToHash header.root
    txHash := bytesToHash header.txHash
    number := newIntOfUint64 header.number
    sequencerOrderNo := newIntOfUint64 header.sequencerOrderNo
    receiptHash := bytesToHash header.receiptHash
    extra := header.extra
    signature := header.signature
    gasLimit := header.gasLimit
    gasUsed := header.gasUsed
    time := header.time
    crossChainRoot := bytesToHash header.transferTree
    baseFee := header.baseFee.toNat
    coinbase := bytesToAddress header.coinbase
    crossChainMessages := fromCrossChainMsgs header.crossChainMessages
    latestInboundCrossChainHash := bytesToHash header.latestInboundCrossChainHash
    latestInboundCrossChainHeight := BigInt.setBytes header.latestInboundCrossChainHeight
    crossChainTree := header.crossChainTree }

/-- `ToRollupHeaderMsg`: the other fields of the message keep their zero
values. -/
def toRollupHeaderMsg (header : RollupHeader) : RollupHeaderMsg :=
  { parentHash := []
    compressionL1Head := hashBytes header.compressionL1Head
    proofNumber := 0
    number := 0
    time := 0
    enclaveID := []
    crossChainMessages := toCrossChainMsgs header.crossChainMessages
    signature := header.signature
    lastBatchSeqNo := header.lastBatchSeqNo }

/-- `FromRollupHeaderMsg`: `PayloadHash` keeps its zero value. -/
def fromRollupHeaderMsg (header : RollupHeaderMsg) : RollupHeader :=
  { compressionL1Head := bytesToHash header.compressionL1Head
    crossChainMessages := fromCrossChainMsgs header.crossChainMessages
    payloadHash := 0
    signature := header.signature
    lastBatchSeqNo := header.lastBatchSeqNo }

/-- `ToExtBatchMsg`. -/
def toExtBatchMsg (batch : ExtBatch) : ExtBatchMsg :=
  match batch.header with
  | none => ⟨none, [], []⟩
  | some header => ⟨some (toBatchHeaderMsg header), batch.txHashes.map hashBytes,
      batch.encryptedTxBlob⟩

/-- `FromExtBatchMsg`. -/
def fromExtBatchMsg (msg : ExtBatchMsg) : ExtBatch :=
  match msg.header with
  | none => ⟨none, [], []⟩
  | some header => ⟨some (fromBatchHeaderMsg header), msg.txHashes.map bytesToHash, msg.txs⟩

/-- `ToExtRollupMsg`. -/
def toExtRollupMsg (rollup : ExtRollup) : ExtRollupMsg :=
  ⟨some (toRollupHeaderMsg rollup.header), rollup.batchPayloads, rollup.calldataRollupHeader⟩

/-- `FromExtRollupMsg`; `none` is the rollup with a nil header. -/
def fromExtRollupMsg (msg : ExtRollupMsg) : Option ExtRollup :=
  msg.header.map fun header =>
    ⟨fromRollupHeaderMsg header, msg.calldataRollupHeader, msg.batchPayloads⟩

/-! ## Round trips of the fields -/

@[simp] theorem bytesToHash_hashBytes (h : Hash) : bytesToHash (hashBytes h) = h := by
  have hlt : h.toNat < 256 ^ 32 := by
    have := h.isLt
    norm_num at this ⊢
    exact this
  rw [bytesToHash, hashBytes, FixedBytes.fromBytes_toBytes, Nat.mod_eq_of_lt hlt]
  simp

@[simp] theorem bytesToHash_comp_hashBytes : bytesToHash ∘ hashBytes = id := by
  funext h
  exact bytesToHash_hashBytes h

@[simp] theorem bytesToAddress_addressBytes (a : Address) :
    bytesToAddress (addressBytes a) = a := by
  have hlt : a.toNat < 256 ^ 20 := by
    have := a.isLt
    norm_num at this ⊢
    exact this
  rw [bytesToAddress, addressBytes, FixedBytes.fromBytes_toBytes, Nat.mod_eq_of_lt hlt]
  simp

/-- A number below `2 ^ 63` survives `uint64` and back through `int64`. -/
theorem newIntOfUint64_uint64 {n : Nat} (h : n < 2 ^ 63) :
    newIntOfUint64 (BigInt.uint64 n) = n := by
  rw [newIntOfUint64, BigInt.uint64_natCast, BigInt.toInt64_uint64_ofNat,
    BigInt.int64_toInt_of_lt (by omega) (by omega)]
  rfl

/-- Cross-chain messages come back without their consistency level. -/
theorem fromCrossChainMsgs_toCrossChainMsgs (messages : List CrossChainMessage) :
    fromCrossChainMsgs (toCrossChainMsgs messages) =
      messages.map fun m => { m with consistencyLevel := 0 } := by
  simp [fromCrossChainMsgs, toCrossChainMsgs]

/-- Clearing consistency levels that are zero changes nothing. -/
theorem map_consistencyLevel_zero {messages : List CrossChainMessage}
    (h : ∀ m ∈ messages, m.consistencyLevel = 0) :
    messages.map (fun m => { m with consistencyLevel := 0 }) = messages := by
  conv_rhs => rw [← List.map_id messages]
  apply List.map_congr_left
  intro m hm
  rw [← h m hm]
  rfl

/-! ## Round trips of the headers -/

theorem fromBatchHeaderMsg_toBatchHeaderMsg {h : BatchHeader} (hnum : h.number < 2 ^ 63)
    (hseq : h.sequencerOrderNo < 2 ^ 63) (hfee : h.baseFee < 2 ^ 64) :
    fromBatchHeaderMsg (toBatchHeaderMsg h) =
      { h with
        crossChainMessages := h.crossChainMessages.map (fun m => { m with consistencyLevel := 0 }) } := by
  simp only [fromBatchHeaderMsg, toBatchHeaderMsg, bytesToHash_hashBytes,
    bytesToAddress_addressBytes, newIntOfUint64_uint64 hnum, newIntOfUint64_uint64 hseq,
    BigInt.toNat_uint64_natCast hfee, BigInt.setBytes_bytes,
    fromCrossChainMsgs_toCrossChainMsgs]

theorem fromRollupHeaderMsg_toRollupHeaderMsg (r : RollupHeader) :
    fromRollupHeaderMsg (toRollupHeaderMsg r) =
      { r with
        crossChainMessages := r.crossChainMessages.map (fun m => { m with consistencyLevel := 0 })
        payloadHash := 0 } := by
  simp only [fromRollupHeaderMsg, toRollupHeaderMsg, bytesToHash_hashBytes,
    fromCrossChainMsgs_toCrossChainMsgs]

/-! ## Batches and rollups -/

/-- A batch with a header whose heights are below `2 ^ 63`, whose base fee is
below `2 ^ 64` and whose cross-chain messages have consistency level zero,
and a rollup whose header has such messages and a zero payload hash, come
back exactly: with the same header hashes and signatures. -/
theorem fromExtBatchMsg_toExtBatchMsg (b : ExtBatch) (h : BatchHeader) (hb : b.header = some h)
    (hnum : h.number < 2 ^ 63) (hseq : h.sequencerOrderNo < 2 ^ 63) (hfee : h.baseFee < 2 ^ 64)
    (hlevels : ∀ m ∈ h.crossChainMessages, m.consistencyLevel = 0) (x : ExtRollup)
    (hpayload : x.header.payloadHash = 0)
    (hrollup : ∀ m ∈ x.header.crossChainMessages, m.consistencyLevel = 0) :
    fromExtBatchMsg (toExtBatchMsg b) = b ∧ fromExtRollupMsg (toExtRollupMsg x) = some x := by
  constructor
  · have hheader : fromBatchHeaderMsg (toBatchHeaderMsg h) = h := by
      rw [fromBatchHeaderMsg_toBatchHeaderMsg hnum hseq hfee, map_consistencyLevel_zero hlevels]
    have hhashes : (b.txHashes.map hashBytes).map bytesToHash = b.txHashes := by
      simp
    obtain ⟨header, txHashes, blob⟩ := b
    cases hb
    simp only [toExtBatchMsg, fromExtBatchMsg, hheader]
    rw [hhashes]
  · obtain ⟨header, calldata, payloads⟩ := x
    have hheader : fromRollupHeaderMsg (toRollupHeaderMsg header) = header := by
      rw [fromRollupHeaderMsg_toRollupHeaderMsg, map_consistencyLevel_zero hrollup]
      rw [← hpayload]
    simp only [toExtRollupMsg, fromExtRollupMsg, Option.map_some, hheader]

/-- A header with one cross-chain message of consistency level zero. -/
def levelZeroHeader : BatchHeader :=
  ⟨0, 0, 0, 0, 1, 1, 0, 0, 0, [], 0, 0, 0, [1], [⟨7, 1, 0, 0, [], 0⟩], 0, 0, 0, []⟩

theorem fromExtBatchMsg_levelZero :
    fromExtBatchMsg (toExtBatchMsg ⟨some levelZeroHeader, [3], [1]⟩) =
        ⟨some levelZeroHeader, [3], [1]⟩ ∧
      fromExtRollupMsg (toExtRollupMsg ⟨⟨0, [⟨7, 1, 0, 0, [], 0⟩], 0, [1], 2⟩, [], []⟩) =
        some ⟨⟨0, [⟨7, 1, 0, 0, [], 0⟩], 0, [1], 2⟩, [], []⟩ :=
  fromExtBatchMsg_toExtBatchMsg ⟨some levelZeroHeader, [3], [1]⟩ levelZeroHeader rfl
    (by decide) (by decide) (by decide) (by simp [levelZeroHeader])
    ⟨⟨0, [⟨7, 1, 0, 0, [], 0⟩], 0, [1], 2⟩, [], []⟩ rfl (by simp)

/-- A header with one cross-chain message of consistency level one. -/
def levelOneHeader : BatchHeader :=
  ⟨0, 0, 0, 0, 1, 1, 0, 0, 0, [], 0, 0, 0, [1], [⟨7, 1, 0, 0, [], 1⟩], 0, 0, 0, []⟩

/-- A rollup header with a payload hash. -/
def payloadRollupHeader : RollupHeader := ⟨0, [], 5, [1], 2⟩

/-- The headers that are hashed, the signature cleared, differ after the
round trip. -/
theorem fromBatchHeaderMsg_levelOne :
    { fromBatchHeaderMsg (toBatchHeaderMsg levelOneHeader) with signature := [] } ≠
        { levelOneHeader with signature := [] } ∧
      { fromRollupHeaderMsg (toRollupHeaderMsg payloadRollupHeader) with signature := [] } ≠
        { payloadRollupHeader with signature := [] } := by
  rw [fromBatchHeaderMsg_toBatchHeaderMsg (by decide) (by decide) (by decide),
    fromRollupHeaderMsg_toRollupHeaderMsg]
  constructor
  · intro heq
    have hlevel := congrArg (fun h : BatchHeader => h.crossChainMessages.map
      CrossChainMessage.consistencyLevel) heq
    simp [levelOneHeader] at hlevel
  · intro heq
    have hpayload := congrArg RollupHeader.payloadHash heq
    simp [payloadRollupHeader] at hpayload

end GoTen.Common.Converters
