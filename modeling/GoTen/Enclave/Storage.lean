import GoTen.Common.Types

/-!
# The enclave's block, batch and transaction tables (`go/enclave/storage`)

The enclave keeps L1 blocks, L2 batches and their transactions in three SQL
tables (`init/sqlite/001_init.sql`). This file models the rows that the
canonical-chain bookkeeping and the batch readers use, and the
`storageImpl` operations that write and read them, with the database cache
cold:

* `block(hash, is_canonical, header, height)`: `StoreBlock` inserts a block
  the first time it is seen, as canonical, then moves the canonical flags of
  blocks and batches along the paths of a fork;
* `batch(sequence, hash, height, is_canonical, header, l1_proof_hash)`:
  `StoreBatch` writes a batch canonical exactly when its L1 proof block is
  stored and canonical;
* `tx(content, idx, batch_height)`: `StoreBatch` writes the transactions of
  the first batch stored at a height only, and `ReadBatchTransactions` reads
  them back by height.

A table is the list of its rows in insertion order; a query is a `find?` or
a `filter` of it. The hash of a batch is `BatchHeader.hash rlpHash`.

## Main results

* `storeBlock_blocks_of_stored`: storing a block that is already stored,
  outside a fork, changes no block row.
* `fetchBatchBySeqNo_storeBatch`: after `StoreBatch`, the batch read back
  by its sequence number has its header and the transactions stored at its
  height: its own for the first batch at that height
  (`fetchBatchBySeqNo_storeBatch_first`), those of the earlier batch for
  any later one (`fetchBatchBySeqNo_storeBatch_shared`).
* `fetchBatchBySeqNo_secondAtFive`: two batches stored at one height read
  back with the same transactions.
-/

namespace GoTen.Enclave.Storage

open GoTen.Common

/-- A row of the `block` table. -/
structure BlockRow where
  header : L1Header
  isCanonical : Bool
  deriving DecidableEq, Repr

/-- A row of the `batch` table, without the converted hash, the block id of
the L1 proof and the executed flag, which nothing modelled reads. -/
structure BatchRow where
  sequence : Nat
  hash : Hash
  height : Nat
  isCanonical : Bool
  header : BatchHeader
  l1ProofHash : Hash
  deriving DecidableEq, Repr

/-- A row of the `tx` table: the transaction, its index in its batch and the
height of that batch. -/
structure TxRow where
  tx : Tx
  idx : Nat
  batchHeight : Nat
  deriving DecidableEq, Repr

/-- The three tables, each in insertion order. -/
structure Db where
  blocks : List BlockRow
  batches : List BatchRow
  txs : List TxRow
  deriving DecidableEq, Repr

/-- A database with no rows. -/
def Db.empty : Db := ⟨[], [], []⟩

/-! ## Blocks -/

/-- `select ... from block where hash=?`. -/
def findBlock (db : Db) (hash : Hash) : Option BlockRow :=
  db.blocks.find? fun r => r.header.hash == hash

/-- The stored header under a hash, as a partial map. -/
def storedHeader (db : Db) (hash : Hash) : Option L1Header :=
  (findBlock db hash).map BlockRow.header

/-- `enclavedb.WriteBlock`: a block is inserted as canonical. -/
def writeBlock (db : Db) (b : L1Header) : Db :=
  { db with blocks := db.blocks ++ [⟨b, true⟩] }

/-- `enclavedb.UpdateCanonicalBlock`. -/
def updateCanonicalBlock (db : Db) (isCanonical : Bool) (blocks : List Hash) : Db :=
  { db with blocks := db.blocks.map fun r =>
      if r.header.hash ∈ blocks then { r with isCanonical := isCanonical } else r }

/-- `enclavedb.IsCanonicalBlock`: a block that is not stored is not canonical. -/
def isCanonicalBlock (db : Db) (hash : Hash) : Bool :=
  match findBlock db hash with
  | some r => r.isCanonical
  | none => false

/-- `enclavedb.HandleBlockArrivedAfterBatches`: every batch proved by the
block becomes canonical. -/
def handleBlockArrivedAfterBatches (db : Db) (blockHash : Hash) : Db :=
  { db with batches := db.batches.map fun r =>
      if r.l1ProofHash = blockHash then { r with isCanonical := true } else r }

/-- `enclavedb.UpdateCanonicalBatch`. -/
def updateCanonicalBatch (db : Db) (isCanonical : Bool) (blocks : List Hash) : Db :=
  { db with batches := db.batches.map fun r =>
      if r.l1ProofHash ∈ blocks then { r with isCanonical := isCanonical } else r }

/-- `storageImpl.FetchBlock`. -/
def fetchBlock (db : Db) (blockHash : Hash) : Except Failure L1Header :=
  match findBlock db blockHash with
  | some r => .ok r.header
  | none => .error (.error "not found")

/-- `storageImpl.StoreBlock`. -/
def storeBlock (db : Db) (block : L1Header) (chainFork : Option ChainFork) : Db :=
  -- only insert the block if it doesn't exist already
  let db := if (findBlock db block.hash).isSome then db else writeBlock db block
  let db := handleBlockArrivedAfterBatches db block.hash
  match chainFork with
  | some fork =>
      if fork.isFork then
        let db := updateCanonicalBlock db false fork.nonCanonicalPath
        let db := updateCanonicalBlock db true fork.canonicalPath
        let db := updateCanonicalBatch db false fork.nonCanonicalPath
        updateCanonicalBatch db true fork.canonicalPath
      else db
  | none => db

/-- With no fork, `StoreBlock` on a stored block changes no block row. -/
theorem storeBlock_blocks_of_stored {db : Db} {block : L1Header} {row : BlockRow}
    (hstored : findBlock db block.hash = some row) : (storeBlock db block none).blocks = db.blocks := by
  simp [storeBlock, hstored, handleBlockArrivedAfterBatches]

/-! ## Batches and their transactions -/

section Batches

variable (rlpHash : BatchHeader → Hash)

/-- `enclavedb.ReadBatchHeaderBySeqNo`. -/
def fetchBatchHeaderBySeqNo (db : Db) (seqNum : Nat) : Except Failure BatchHeader :=
  match db.batches.find? fun r => r.sequence == seqNum with
  | some r => .ok r.header
  | none => .error (.error "not found")

/-- `storageImpl.FetchBatchHeader` with the cache cold: the header stored
under the hash. -/
def fetchBatchHeader (db : Db) (hash : Hash) : Except Failure BatchHeader :=
  match db.batches.find? fun r => r.hash == hash with
  | some r => .ok r.header
  | none => .error (.error "not found")

/-- `enclavedb.ReadBatchTransactions`: the transactions stored at a height,
in the order of their index. -/
def readBatchTransactions (db : Db) (height : Nat) : List Tx :=
  ((db.txs.filter fun r => r.batchHeight == height).insertionSort fun a b => a.idx ≤ b.idx).map
    TxRow.tx

/-- `storageImpl.FetchBatchBySeqNo` with the cache cold: the header stored
under the sequence number, and the transactions read by its height. -/
def fetchBatchBySeqNo (db : Db) (seqNum : Nat) : Except Failure Batch := do
  let h ← fetchBatchHeaderBySeqNo db seqNum
  pure ⟨h, readBatchTransactions db h.number⟩

/-- `enclavedb.IsCanonicalBatchHash`: a batch that is not stored is not
canonical. -/
def isCanonicalBatchHash (db : Db) (hash : Hash) : Bool :=
  match db.batches.find? fun r => r.hash == hash with
  | some r => r.isCanonical
  | none => false

/-- `enclavedb.ExistsBatchAtHeight`. -/
def existsBatchAtHeight (db : Db) (height : Nat) : Bool :=
  db.batches.any fun r => r.height == height

/-- `enclavedb.WriteBatchHeader`. -/
def writeBatchHeader (db : Db) (batch : Batch) (isCanonical : Bool) : Db :=
  { db with batches := db.batches ++
      [⟨batch.header.sequencerOrderNo, batch.header.hash rlpHash, batch.header.number,
        isCanonical, batch.header, batch.header.l1Proof⟩] }

/-- `enclavedb.WriteTransactions`: the rows carry the batch's height, not
its sequence number. -/
def writeTransactions (db : Db) (batch : Batch) : Db :=
  { db with txs := db.txs ++ batch.transactions.mapIdx fun i tx => ⟨tx, i, batch.header.number⟩ }

/-- `storageImpl.StoreBatch`. Both `logger.Crit` calls exit the process. -/
def storeBatch (db : Db) (batch : Batch) : Except Failure Db :=
  let seq := batch.header.sequencerOrderNo
  -- sanity check that this is not overlapping
  match fetchBatchBySeqNo db seq with
  | .ok existing =>
      if existing.header.hash rlpHash ≠ batch.header.hash rlpHash then
        .error (.crit s!"Conflicting batches for the same sequence {seq}")
      else .ok db
  | .error _ =>
      -- the batch is canonical only if the l1 proof is canonical
      let isL1ProofCanonical := isCanonicalBlock db batch.header.l1Proof
      let parentIsCanon :=
        isCanonicalBatchHash db batch.header.parentHash || decide (seq ≤ L2GenesisSeqNo + 2)
      if isL1ProofCanonical && !parentIsCanon then
        .error (.crit "invalid chaining. Batch  is canonical. Parent  is not")
      else
        let existsHeight := existsBatchAtHeight db batch.header.number
        let db := writeBatchHeader rlpHash db batch isL1ProofCanonical
        -- only insert transactions if this is the first time a batch of this height is created
        .ok (if existsHeight then db else writeTransactions db batch)

/-! ### Reading a stored batch back -/

variable {rlpHash}

/-- The rows `WriteTransactions` adds are in index order. -/
theorem pairwise_idx_mapIdx (txs : List Tx) (height : Nat) :
    (txs.mapIdx fun i tx => (⟨tx, i, height⟩ : TxRow)).Pairwise fun a b => a.idx ≤ b.idx := by
  rw [List.pairwise_iff_getElem]
  intro i j hi hj hij
  simp only [List.getElem_mapIdx]
  omega

/-- A batch's transactions read back by its height, when no other rows are
at that height. -/
theorem readBatchTransactions_writeTransactions {db : Db} {batch : Batch}
    (hnone : ∀ r ∈ db.txs, r.batchHeight ≠ batch.header.number) :
    readBatchTransactions (writeTransactions db batch) batch.header.number = batch.transactions := by
  have hold : db.txs.filter (fun r => r.batchHeight == batch.header.number) = [] := by
    rw [List.filter_eq_nil_iff]
    intro r hr
    simpa using hnone r hr
  have hnew : (batch.transactions.mapIdx fun i tx => (⟨tx, i, batch.header.number⟩ : TxRow)).filter
      (fun r => r.batchHeight == batch.header.number) =
      batch.transactions.mapIdx fun i tx => (⟨tx, i, batch.header.number⟩ : TxRow) := by
    rw [List.filter_eq_self]
    intro r hr
    obtain ⟨i, hi, rfl⟩ := List.mem_mapIdx.mp hr
    simp
  have htx : (batch.transactions.mapIdx fun i tx => (⟨tx, i, batch.header.number⟩ : TxRow)).map
      TxRow.tx = batch.transactions := by
    apply List.ext_getElem (by simp)
    intro i h₁ h₂
    simp
  simp only [readBatchTransactions, writeTransactions, List.filter_append, hold, hnew,
    List.nil_append, (pairwise_idx_mapIdx _ _).insertionSort_eq, htx]

/-- `StoreBatch` of a batch whose sequence number is not stored writes its
header row, and its transactions only when no batch was at its height. -/
theorem storeBatch_of_fresh {db db' : Db} {batch : Batch}
    (hfresh : ∀ r ∈ db.batches, r.sequence ≠ batch.header.sequencerOrderNo)
    (h : storeBatch rlpHash db batch = .ok db') :
    db' = if existsBatchAtHeight db batch.header.number then
        writeBatchHeader rlpHash db batch (isCanonicalBlock db batch.header.l1Proof)
      else writeTransactions (writeBatchHeader rlpHash db batch (isCanonicalBlock db batch.header.l1Proof))
        batch := by
  have hnone : db.batches.find? (fun r => r.sequence == batch.header.sequencerOrderNo) = none := by
    rw [List.find?_eq_none]
    intro r hr
    simpa using hfresh r hr
  have hfetch : fetchBatchBySeqNo db batch.header.sequencerOrderNo =
      .error (.error "not found") := by
    simp [fetchBatchBySeqNo, fetchBatchHeaderBySeqNo, hnone, bind, Except.bind]
  unfold storeBatch at h
  dsimp only at h
  rw [hfetch] at h
  dsimp only at h
  split at h
  · cases h
  · exact (Except.ok.inj h).symm

/-- After `StoreBatch` with a fresh sequence number, the batch read back
under it has its header and the transactions stored at its height. -/
theorem fetchBatchBySeqNo_storeBatch {db db' : Db} {batch : Batch}
    (hfresh : ∀ r ∈ db.batches, r.sequence ≠ batch.header.sequencerOrderNo)
    (h : storeBatch rlpHash db batch = .ok db') :
    fetchBatchBySeqNo db' batch.header.sequencerOrderNo =
      .ok ⟨batch.header, readBatchTransactions db' batch.header.number⟩ := by
  have hfind : db'.batches.find? (fun r => r.sequence == batch.header.sequencerOrderNo) =
      some ⟨batch.header.sequencerOrderNo, batch.header.hash rlpHash, batch.header.number,
        isCanonicalBlock db batch.header.l1Proof, batch.header, batch.header.l1Proof⟩ := by
    have hnone : db.batches.find? (fun r => r.sequence == batch.header.sequencerOrderNo) = none := by
      rw [List.find?_eq_none]
      intro r hr
      simpa using hfresh r hr
    rw [storeBatch_of_fresh hfresh h]
    split <;> simp [writeBatchHeader, writeTransactions, List.find?_append, hnone]
  simp [fetchBatchBySeqNo, fetchBatchHeaderBySeqNo, hfind, bind, Except.bind, pure, Except.pure]

/-- The first batch stored at a height reads back with its own
transactions. -/
theorem fetchBatchBySeqNo_storeBatch_first {db db' : Db} {batch : Batch}
    (hfresh : ∀ r ∈ db.batches, r.sequence ≠ batch.header.sequencerOrderNo)
    (hheight : existsBatchAtHeight db batch.header.number = false)
    (hnone : ∀ r ∈ db.txs, r.batchHeight ≠ batch.header.number)
    (h : storeBatch rlpHash db batch = .ok db') :
    fetchBatchBySeqNo db' batch.header.sequencerOrderNo = .ok batch := by
  rw [fetchBatchBySeqNo_storeBatch hfresh h, storeBatch_of_fresh hfresh h, hheight, if_neg (by simp),
    @readBatchTransactions_writeTransactions
      (writeBatchHeader rlpHash db batch (isCanonicalBlock db batch.header.l1Proof)) batch hnone]

/-- A later batch at a stored height reads back with the transactions that
were stored at that height before it, whatever its own are. -/
theorem fetchBatchBySeqNo_storeBatch_shared {db db' : Db} {batch : Batch}
    (hfresh : ∀ r ∈ db.batches, r.sequence ≠ batch.header.sequencerOrderNo)
    (hheight : existsBatchAtHeight db batch.header.number = true)
    (h : storeBatch rlpHash db batch = .ok db') :
    fetchBatchBySeqNo db' batch.header.sequencerOrderNo =
      .ok ⟨batch.header, readBatchTransactions db batch.header.number⟩ := by
  rw [fetchBatchBySeqNo_storeBatch hfresh h, storeBatch_of_fresh hfresh h, hheight, if_pos rfl]
  rfl

end Batches

/-! ## Two batches at one height -/

/-- A header with only its height and sequence number set. -/
def heightHeader (height seq : Nat) : BatchHeader :=
  ⟨0, 0, 0, 0, height, seq, 0, 0, 0, [], 0, 0, 0, [], [], 0, 0, 0, []⟩

/-- A transaction known by its hash. -/
def hashTx (n : Nat) : Tx := ⟨BitVec.ofNat 256 n, 0, 0, none⟩

/-- A batch at height 5 with sequence number 10, and one at the same height
with sequence number 11, as a re-org duplicate or a re-orged batch received
in a rollup is; their transactions differ. -/
def firstAtFive : Batch := ⟨heightHeader 5 10, [hashTx 1]⟩
def secondAtFive : Batch := ⟨heightHeader 5 11, [hashTx 2]⟩

/-- Storing the two batches succeeds, and the second reads back by its
sequence number with the first one's transactions. -/
theorem fetchBatchBySeqNo_secondAtFive (rlpHash : BatchHeader → Hash) :
    ∃ db₁ db₂, storeBatch rlpHash Db.empty firstAtFive = .ok db₁ ∧
      storeBatch rlpHash db₁ secondAtFive = .ok db₂ ∧
      fetchBatchBySeqNo db₂ secondAtFive.header.sequencerOrderNo =
        .ok ⟨secondAtFive.header, firstAtFive.transactions⟩ ∧
      firstAtFive.transactions ≠ secondAtFive.transactions := by
  have hfresh₁ : ∀ r ∈ Db.empty.batches, r.sequence ≠ firstAtFive.header.sequencerOrderNo :=
    fun _ h => nomatch h
  obtain ⟨db₁, h₁⟩ : ∃ db₁, storeBatch rlpHash Db.empty firstAtFive = .ok db₁ := ⟨_, rfl⟩
  -- the first batch is the first at height 5, so the height's transactions are its own
  have hread : readBatchTransactions db₁ secondAtFive.header.number = firstAtFive.transactions := by
    have h := (fetchBatchBySeqNo_storeBatch hfresh₁ h₁).symm.trans
      (fetchBatchBySeqNo_storeBatch_first hfresh₁ rfl (fun _ h => nomatch h) h₁)
    exact congrArg Batch.transactions (Except.ok.inj h)
  have hdb₁ := storeBatch_of_fresh hfresh₁ h₁
  have hfresh₂ : ∀ r ∈ db₁.batches, r.sequence ≠ secondAtFive.header.sequencerOrderNo := by
    simp [hdb₁, existsBatchAtHeight, writeBatchHeader, writeTransactions, Db.empty, firstAtFive,
      secondAtFive, heightHeader]
  have hheight₂ : existsBatchAtHeight db₁ secondAtFive.header.number = true := by
    simp [hdb₁, existsBatchAtHeight, writeBatchHeader, writeTransactions, Db.empty, firstAtFive,
      secondAtFive, heightHeader]
  obtain ⟨db₂, h₂⟩ : ∃ db₂, storeBatch rlpHash db₁ secondAtFive = .ok db₂ := by
    rw [hdb₁]
    exact ⟨_, rfl⟩
  refine ⟨db₁, db₂, h₁, h₂, ?_, by decide⟩
  rw [fetchBatchBySeqNo_storeBatch_shared hfresh₂ hheight₂ h₂, hread]

end GoTen.Enclave.Storage
