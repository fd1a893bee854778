import Mathlib

/-!
# The data model shared by the enclave, the host and the L1 adapter

These are the Go types of `go/common` (`BatchHeader`, the cross-chain
message structs of the generated `MessageBus` binding) and the
parts of geth's `types.Header`, `types.Transaction`, `types.Receipt` and
`types.Log` that the modelled code reads.

Representation choices, made once here:

* a 32-byte hash (`common.Hash`, an event topic) is a `BitVec 256` and a
  20-byte `common.Address` is a `BitVec 160`, so that the byte layout of a
  topic (an address lives in its low 20 bytes) is the layout of the source;
* `uint64`, `uint32` and `uint8` fields keep their width as `UInt64`,
  `UInt32` and `UInt8`; a `*big.Int` that is never negative is a `Nat`;
* geth computes a header's or a transaction's hash from its RLP encoding
  and memoises it; the L1 header and the transaction carry that value as a
  field, while a batch header's hash is computed by `BatchHeader.hash` from
  a keccak-of-RLP function supplied by the component that hashes it.
-/

namespace GoTen.Common

/-- How a Go call can end without a value: it returns an `error`, it panics,
or it calls `logger.Crit`, which logs and exits the process. -/
inductive Failure where
  | error (msg : String)
  | panic (msg : String)
  | crit (msg : String)
  deriving DecidableEq, Repr

/-- `fmt.Errorf(prefix + "%w", err)`: an error under a prefix. A panic or a
stop of the process is not a returned error and goes through unchanged. -/
def Failure.wrap (pre : String) : Failure → Failure
  | .error msg => .error (pre ++ msg)
  | f => f

/-- `common.Hash`: 32 bytes, big-endian. -/
abbrev Hash := BitVec 256

/-- `common.Address`: 20 bytes. -/
abbrev Address := BitVec 160

/-- `common.L2GenesisSeqNo`: the genesis batch has sequence number one. -/
def L2GenesisSeqNo : Nat := 1

/-- `common.L1GenesisHeight`. -/
def L1GenesisHeight : Nat := 0

/-- `common.L2GenesisHeight`. -/
def L2GenesisHeight : Nat := 0

/-- The fields of geth's `types.Header` that the enclave reads from an L1 block. -/
structure L1Header where
  hash : Hash
  parentHash : Hash
  number : Nat
  deriving DecidableEq, Repr

/-- `MessageBus.StructsCrossChainMessage`, the Go binding of
`Structs.CrossChainMessage`. -/
structure CrossChainMessage where
  sender : Address
  sequence : UInt64
  nonce : UInt32
  topic : UInt32
  payload : List UInt8
  consistencyLevel : UInt8
  deriving DecidableEq, Repr

/-- `common.ValueTransferEvent`. -/
structure ValueTransferEvent where
  sender : Address
  receiver : Address
  amount : Nat
  sequence : UInt64
  deriving DecidableEq, Repr

/-- `common.BatchHeader`, all nineteen fields in the order of the source. -/
structure BatchHeader where
  parentHash : Hash
  root : Hash
  txHash : Hash
  receiptHash : Hash
  number : Nat
  sequencerOrderNo : Nat
  gasLimit : UInt64
  gasUsed : UInt64
  time : UInt64
  extra : List UInt8
  baseFee : Nat
  coinbase : Address
  l1Proof : Hash
  signature : List UInt8
  crossChainMessages : List CrossChainMessage
  latestInboundCrossChainHash : Hash
  latestInboundCrossChainHeight : Nat
  crossChainRoot : Hash
  crossChainTree : List UInt8
  deriving DecidableEq, Repr

/-- `BatchHeader.Hash`: the keccak of the RLP encoding of the header with its
signature cleared. `rlpHash` is keccak-of-RLP. -/
def BatchHeader.hash (rlpHash : BatchHeader → Hash) (h : BatchHeader) : Hash :=
  rlpHash { h with signature := [] }

/-- The hash never reads the signature, so a signed batch keeps the hash of
the batch the sequencer computed. -/
theorem BatchHeader.hash_signature (rlpHash : BatchHeader → Hash) (h : BatchHeader)
    (sig : List UInt8) : BatchHeader.hash rlpHash { h with signature := sig } =
      BatchHeader.hash rlpHash h := rfl

/-- `BatchHeader.IsGenesis`. -/
def BatchHeader.isGenesis (b : BatchHeader) : Bool := b.number == L2GenesisHeight

/-- The fields of geth's `types.Transaction` that the modelled code reads:
its hash, the two gas prices whose vanishing marks a free transaction, and
`To()` (named `toAddr`, `to` being a Lean keyword). -/
structure Tx where
  hash : Hash
  gasFeeCap : Nat
  gasPrice : Nat
  toAddr : Option Address
  deriving DecidableEq, Repr

/-- `core.Batch`. -/
structure Batch where
  header : BatchHeader
  transactions : List Tx
  deriving DecidableEq, Repr

/-- geth's `types.Log`: the emitting contract, up to four topics, the data. -/
structure Log where
  address : Address
  topics : List Hash
  data : List UInt8
  index : Nat
  deriving DecidableEq, Repr

/-- geth's `types.Receipt`, the fields the enclave reads or rewrites. -/
structure Receipt where
  txHash : Hash
  status : UInt64
  transactionIndex : Nat
  gasUsed : UInt64
  logs : List Log
  blockHash : Hash
  deriving DecidableEq, Repr

/-- `common.L2PricedTransaction`: a transaction and its L1 publishing cost. -/
structure PricedTx where
  tx : Tx
  publishingCost : Nat
  deriving DecidableEq, Repr

/-- `core.TxExecResult`. A receipt is present exactly when the transaction
was executed; `err` carries the EVM's refusal otherwise. -/
structure TxExecResult where
  receipt : Option Receipt
  tx : Tx
  err : Option String
  deriving DecidableEq, Repr

/-- `common.RollupHeader`: what the management contract reads of a rollup. -/
structure RollupHeader where
  compressionL1Head : Hash
  crossChainMessages : List CrossChainMessage
  payloadHash : Hash
  signature : List UInt8
  lastBatchSeqNo : UInt64
  deriving DecidableEq, Repr

/-- `RollupHeader.Hash`: keccak of the RLP encoding without the signature. -/
def RollupHeader.hash (rlpHash : RollupHeader → Hash) (h : RollupHeader) : Hash :=
  rlpHash { h with signature := [] }

/-- `common.CalldataRollupHeader`: what a validator needs besides the
transactions to rebuild the batches of a rollup. Its `*big.Int` fields come
out of an RLP decoding, which yields no negative number. -/
structure CalldataRollupHeader where
  firstBatchSequence : Nat
  firstCanonBatchHeight : Nat
  firstCanonParentHash : Hash
  coinbase : Address
  baseFee : Nat
  gasLimit : UInt64
  startTime : UInt64
  batchTimeDeltas : List (List UInt8)
  l1HeightDeltas : List (List UInt8)
  reOrgs : List (List UInt8)
  deriving DecidableEq, Repr

/-- `core.Rollup`: the header, the batches, and the L1 blocks the batches
point to, keyed by hash. -/
structure Rollup where
  header : RollupHeader
  batches : List Batch
  blocks : Hash → Option L1Header

/-- `common.ExtRollup`: the header and the two encrypted payloads. -/
structure ExtRollup where
  header : RollupHeader
  calldataRollupHeader : List UInt8
  batchPayloads : List UInt8
  deriving DecidableEq, Repr

/-- `common.ChainFork`: what the walk from a new L1 block and the old head
to their latest common ancestor found. -/
structure ChainFork where
  newCanonical : L1Header
  oldCanonical : L1Header
  commonAncestor : L1Header
  canonicalPath : List Hash
  nonCanonicalPath : List Hash
  deriving DecidableEq, Repr

/-- `ChainFork.IsFork`: some block left the canonical chain. -/
def ChainFork.isFork (cf : ChainFork) : Bool :=
  !cf.nonCanonicalPath.isEmpty

end GoTen.Common
