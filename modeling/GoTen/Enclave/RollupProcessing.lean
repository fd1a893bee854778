import GoTen.Enclave.RollupCompression
import GoTen.Enclave.BatchExecutor
import GoTen.Enclave.Storage

/-!
# External rollups: `CreateExtRollup` and `ProcessExtRollup`

The sequencer turns an internal rollup into an external one: the rollup
header, the calldata rollup header (what a validator needs to rebuild the
batches) and the transactions of the batches, the last two serialised,
compressed and encrypted. It then signs `Header.Hash()`, the RLP hash of the
header without its signature, and the management contract checks that
signature. A validator's enclave runs `ProcessExtRollup`: it decrypts the two
payloads, rebuilds the batches (`createIncompleteBatches`), and executes and
stores each one it does not have yet.

`PayloadHash`, the header field meant to hold the hash of the payloads, is
never filled in, so the signed hash does not depend on the payloads.

## Main results

* `processExtRollup_swappedPayload`: two external rollups with one header,
  so one signed hash, whose payloads differ, store different transactions
  under one sequence number.
-/

namespace GoTen.Enclave.RollupProcessing

open GoTen.Common
open GoTen.Verified
open GoTen.Verified.BigInt
open GoTen.Enclave.RollupCompression
open GoTen.Enclave.BatchExecutor
open GoTen.Enclave.Storage

variable {σ η : Type}

/-- `serialiseCompressAndEncrypt` and `decryptDecompressAndDeserialise` for
the two payloads of an external rollup. -/
structure RollupCodec where
  encryptHeader : CalldataRollupHeader → Except String (List UInt8)
  encryptTransactions : List (List Tx) → Except String (List UInt8)
  decryptHeader : List UInt8 → Except String CalldataRollupHeader
  decryptTransactions : List UInt8 → Except String (List (List Tx))

/-- The collaborators of `RollupCompression` besides those compression uses:
the codec, the batch executor (whose `rlpHash` is also storage's) and
`CreateGenesisState`. -/
structure RollupProcessor (σ η : Type) where
  compression : RollupCompression
  codec : RollupCodec
  executor : BatchExecutor σ η
  createGenesisState : Hash → UInt64 → Address → Nat → Except Failure Batch

/-- `RollupCompression.CreateExtRollup`. -/
def createExtRollup (p : RollupProcessor σ η) (r : Rollup) : Except Failure ExtRollup := do
  let header ← createRollupHeader p.compression r
  let encryptedHeader ← (p.codec.encryptHeader header).mapError Failure.error
  let transactions := r.batches.map Batch.transactions
  let encryptedTransactions ← (p.codec.encryptTransactions transactions).mapError Failure.error
  return ⟨r.header, encryptedHeader, encryptedTransactions⟩

/-- The loop of `executeAndSaveIncompleteBatches`, with the hash of the batch
the next one chains to. A batch already stored is skipped; a re-orged batch
is stored with its header; the genesis batch is created; any other batch is
executed on its parent and stored. -/
def executeAndSaveLoop (p : RollupProcessor σ η) (header : CalldataRollupHeader) :
    Db → Hash → List BatchFromRollup → Except Failure Db
  | db, _, [] => .ok db
  | db, parentHash, incompleteBatch :: rest =>
      match fetchBatchBySeqNo db (uint64 incompleteBatch.seqNo).toNat with
      | .ok b =>
          -- chain to a parent only if the batch is not a reorg
          let parentHash := if incompleteBatch.header.isNone then b.header.hash p.executor.rlpHash
            else parentHash
          executeAndSaveLoop p header db parentHash rest
      | .error _ =>
          match incompleteBatch.header with
          | some reorgedHeader => do
              let db ← storeBatch p.executor.rlpHash db ⟨reorgedHeader, incompleteBatch.transactions⟩
              executeAndSaveLoop p header db parentHash rest
          | none =>
              if (uint64 incompleteBatch.seqNo).toNat = L2GenesisSeqNo then do
                let genBatch ← p.createGenesisState incompleteBatch.l1Proof incompleteBatch.time
                  header.coinbase header.baseFee
                let db ← storeBatch p.executor.rlpHash db genBatch
                executeAndSaveLoop p header db (genBatch.header.hash p.executor.rlpHash) rest
              else do
                let seq := incompleteBatch.seqNo
                let computedBatch ← computeBatch p.executor
                  ⟨incompleteBatch.l1Proof, parentHash, incompleteBatch.transactions,
                    incompleteBatch.time, incompleteBatch.seqNo.toNat, incompleteBatch.baseFee,
                    incompleteBatch.coinbase⟩ false
                let _ ← computedBatch.commit.mapError fun _ =>
                  Failure.error s!"cannot commit stateDB for incoming valid batch seq={seq}"
                let db ← storeBatch p.executor.rlpHash db computedBatch.batch
                executeAndSaveLoop p header db (computedBatch.batch.header.hash p.executor.rlpHash)
                  rest

/-- `RollupCompression.executeAndSaveIncompleteBatches`: unless the rollup
starts at genesis, the parent of its first canonical batch must be stored. -/
def executeAndSaveIncompleteBatches (p : RollupProcessor σ η) (db : Db)
    (calldataRollupHeader : CalldataRollupHeader) (incompleteBatches : List BatchFromRollup) :
    Except Failure Db := do
  let parentHash := calldataRollupHeader.firstCanonParentHash
  if (uint64 calldataRollupHeader.firstBatchSequence).toNat ≠ L2GenesisSeqNo then
    let _ ← fetchBatchHeader db parentHash
  executeAndSaveLoop p calldataRollupHeader db parentHash incompleteBatches

/-- `RollupCompression.ProcessExtRollup`: the calldata header and the
database after the rollup's batches are stored. -/
def processExtRollup (p : RollupProcessor σ η) (db : Db) (rollup : ExtRollup) :
    Except Failure (CalldataRollupHeader × Db) := do
  let transactionsPerBatch ←
    (p.codec.decryptTransactions rollup.batchPayloads).mapError Failure.error
  let calldataRollupHeader ←
    (p.codec.decryptHeader rollup.calldataRollupHeader).mapError Failure.error
  let incompleteBatches ← createIncompleteBatches p.compression calldataRollupHeader
    transactionsPerBatch rollup.header.compressionL1Head
  let db ← executeAndSaveIncompleteBatches p db calldataRollupHeader incompleteBatches
  return (calldataRollupHeader, db)

/-! ## One header, two payloads -/

/-- A calldata header for one canonical batch with sequence number 2 at
height 1, on the parent with hash zero, proved by the L1 block at height 0. -/
def swapHeader : CalldataRollupHeader :=
  { firstBatchSequence := 2
    firstCanonBatchHeight := 1
    firstCanonParentHash := 0
    coinbase := 0
    baseFee := 0
    gasLimit := 0
    startTime := 0
    batchTimeDeltas := [gobEncode 0]
    l1HeightDeltas := [gobEncode 0]
    reOrgs := [] }

/-- The transaction a payload byte names. -/
def swapTx (n : Nat) : Tx := ⟨BitVec.ofNat 256 n, 1, 1, none⟩

/-- A processor on the executor of `nonceExecutor`, whose codec decrypts any
calldata header to `swapHeader` and a payload to one batch with a
transaction per byte. -/
def swapProcessor : RollupProcessor Nat Unit where
  compression :=
    { fetchNonCanonicalBatchesBetween := fun _ _ => .ok []
      fetchBlock := Chain.storeOf L1Header.hash [⟨0, 0, 0⟩]
      rlpEncodeHeader := fun _ => []
      rlpDecodeHeader := fun _ => .error "rlp: expected input list"
      deriveShaTxs := fun _ => 0
      emptyRootHash := 0 }
  codec :=
    { encryptHeader := fun _ => .ok [0]
      encryptTransactions := fun txs => .ok (txs.flatten.map fun t => UInt8.ofNat t.hash.toNat)
      decryptHeader := fun _ => .ok swapHeader
      decryptTransactions := fun bs => .ok [bs.map fun b => swapTx b.toNat] }
  executor := nonceExecutor
  createGenesisState := fun _ _ _ _ => .error (.error "not a genesis rollup")

/-- A database holding the parent batch, `zeroHeader`, under hash zero. -/
def swapDb : Db := ⟨[], [⟨0, 0, 0, true, zeroHeader, 0⟩], []⟩

/-- An external rollup with a fixed header and the given transaction payload. -/
def swapRollup (payload : List UInt8) : ExtRollup := ⟨⟨0, [], 0, [], 2⟩, [0], payload⟩

set_option maxRecDepth 8000 in
theorem processExtRollup_swappedPayload (rollupHash : RollupHeader → Hash) :
    (swapRollup [1]).header.hash rollupHash = (swapRollup [2]).header.hash rollupHash ∧
    ∃ h₁ db₁ h₂ db₂,
      processExtRollup swapProcessor swapDb (swapRollup [1]) = .ok (h₁, db₁) ∧
      processExtRollup swapProcessor swapDb (swapRollup [2]) = .ok (h₂, db₂) ∧
      (fetchBatchBySeqNo db₁ 2).map Batch.transactions = .ok [swapTx 1] ∧
      (fetchBatchBySeqNo db₂ 2).map Batch.transactions = .ok [swapTx 2] ∧
      swapTx 1 ≠ swapTx 2 :=
  ⟨rfl, _, _, _, _, rfl, rfl, rfl, rfl, by decide⟩

end GoTen.Enclave.RollupProcessing
