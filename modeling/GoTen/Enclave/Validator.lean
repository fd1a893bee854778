import GoTen.Enclave.BatchExecutor
import GoTen.Enclave.Events
import GoTen.Enclave.Storage
import GoTen.Enclave.RollupConsumer
import GoTen.Host.BatchRepository

/-!
# The validator's execution of stored batches (`go/enclave/nodetype/validator.go`)

A validator enclave receives the sequencer's batches through the host and
stores them unexecuted. On every L1 block it runs `ExecuteStoredBatches`: it
reads the canonical batches not yet executed, from the batch registry's head
on, in sequence order, and executes each one whose L1 block is stored and
whose parent was executed, marking it executed in the `batch` table. The
genesis batch is recreated locally instead (`handleGenesis`).

The `is_executed` column is kept beside the tables of `Storage` as the
sequence numbers whose flag is set (`ExecutedDb`). `StoreExecutedBatch` sets
the flag and stores the receipts and event logs of the batch's results in
the tables of `GoTen.Enclave.Events`, in one database transaction: a result
without a receipt, or a log those tables refuse (one without topics, of an
unknown contract), fails the whole batch and the pass. The executor is the
one of `BatchExecutor`; the genesis allocation, the mempool's chain and the
storage of the contracts a transaction created are parameters
(`ValidatorEnv`). A pass returns the state it reached also when it stops
with an error, since the batches executed before the error stay marked.

## Main results

* `reachable_executed_parent`: in every state the enclave reaches by storing
  batches, storing L1 blocks (with their forks) and running passes with any
  executor, every batch marked executed, but the genesis batch, has its L1
  block stored and its parent marked executed.
* `executeStoredBatches_computed`: a pass over stored batches that form a
  chain from an executed batch, each computed by the sequencer with the same
  executor, with results whose receipts and logs the tables take, executes
  all of them without error.
-/

namespace GoTen.Enclave.Validator

open GoTen.Common
open GoTen.Verified
open GoTen.Verified.BigInt
open GoTen.Enclave.Storage
open GoTen.Enclave.BatchExecutor
open GoTen.Enclave.RollupConsumer (hashHex)
open GoTen.Host.BatchRepository (errNotFound)

/-! ## The `is_executed` column -/

/-- The enclave's tables, with the sequence numbers whose `is_executed` flag
is set. -/
structure ExecutedDb where
  db : Db
  executed : List Nat

/-- `enclavedb.ReadUnexecutedBatches`: the canonical batches not executed,
from a sequence number on, in sequence order. -/
def readUnexecutedBatches (store : ExecutedDb) (fromSeq : Nat) : List BatchHeader :=
  ((store.db.batches.filter fun r =>
      decide (r.sequence ∉ store.executed) && r.isCanonical && decide (fromSeq ≤ r.sequence)).insertionSort
    fun a b => a.sequence ≤ b.sequence).map BatchRow.header

/-- `enclavedb.BatchWasExecuted`: a batch that is not stored was not
executed. -/
def batchWasExecuted (store : ExecutedDb) (hash : Hash) : Bool :=
  match store.db.batches.find? fun r => r.hash == hash with
  | some r => decide (r.sequence ∈ store.executed)
  | none => false

/-- `enclavedb.MarkBatchExecuted`: `update batch set is_executed=true where
sequence=?`. -/
def markBatchExecuted (store : ExecutedDb) (seqNo : Nat) : ExecutedDb :=
  if store.db.batches.any (·.sequence == seqNo) then { store with executed := seqNo :: store.executed }
  else store

/-- The flag `StoreExecutedBatch` sets: none for a batch already executed. -/
def setExecuted (rlpHash : BatchHeader → Hash) (store : ExecutedDb) (batch : BatchHeader) :
    ExecutedDb :=
  if batchWasExecuted store (batch.hash rlpHash) then store
  else markBatchExecuted store batch.sequencerOrderNo

/-- The receipt and event tables: the tables of `GoTen.Enclave.Events`, and
the number of receipt rows, whose last is the id `WriteReceipt` returns. -/
structure ReceiptTables where
  events : Events.EventDb
  receiptCount : Nat

/-- `eventsStorage.storeReceiptAndEventLogs`: the contracts the transaction
created (`storeCreatedContracts`, since a result here does not carry them),
its receipt row, then its logs under the receipt's id. A result without a
receipt panics at `Receipt.TxHash`; a log's own error is returned as it is. -/
def storeReceiptAndEventLogs
    (storeCreatedContracts : Events.EventDb → TxExecResult → Except Failure Events.EventDb)
    (tables : ReceiptTables) (txExecResult : TxExecResult) : Except Failure ReceiptTables :=
  match txExecResult.receipt with
  | none => .error (.panic "runtime error: invalid memory address or nil pointer dereference")
  | some receipt => do
      let events ← storeCreatedContracts tables.events txExecResult
      let execTxId := tables.receiptCount + 1
      let events ← Events.storeEventLogs events execTxId receipt.logs
      return ⟨events, execTxId⟩

/-- The loop of `StoreExecutedBatch` over the results. -/
def storeReceiptsAndEventLogs
    (storeCreatedContracts : Events.EventDb → TxExecResult → Except Failure Events.EventDb) :
    ReceiptTables → List TxExecResult → Except Failure ReceiptTables
  | tables, [] => .ok tables
  | tables, txExecResult :: results => do
      let tables ← (storeReceiptAndEventLogs storeCreatedContracts tables txExecResult).mapError
        (Failure.wrap "could not store receipt. Cause: ")
      storeReceiptsAndEventLogs storeCreatedContracts tables results

/-- `storageImpl.StoreExecutedBatch`: nothing for a batch already executed;
otherwise the flag and the receipts and logs of every result, in one database
transaction, which an error rolls back whole. -/
def storeExecutedBatch (rlpHash : BatchHeader → Hash)
    (storeCreatedContracts : Events.EventDb → TxExecResult → Except Failure Events.EventDb)
    (store : ExecutedDb) (tables : ReceiptTables) (batch : BatchHeader)
    (results : List TxExecResult) : Except Failure (ExecutedDb × ReceiptTables) :=
  if batchWasExecuted store (batch.hash rlpHash) then .ok (store, tables)
  else do
    let store := markBatchExecuted store batch.sequencerOrderNo
    let tables ← storeReceiptsAndEventLogs storeCreatedContracts tables results
    return (store, tables)

/-- `storageImpl.FetchBatchTransactionsBySeq` with the cache cold. -/
def fetchBatchTransactionsBySeq (db : Db) (seqNo : UInt64) : Except Failure (List Tx) :=
  Batch.transactions <$> fetchBatchBySeqNo db seqNo.toNat

/-! ## The validator -/

variable {σ η : Type}

/-- What the validator uses besides its tables: the batch executor, the
genesis allocation and the mempool's chain. -/
structure ValidatorEnv (σ η : Type) where
  ex : BatchExecutor σ η
  /-- `genesis.GetGenesisRoot`. -/
  genesisRoot : Except Failure Hash
  /-- `genesis.CommitGenesisState`. -/
  commitGenesisState : Except Failure Unit
  /-- `mempool.Chain.IngestNewBlock`. -/
  ingestNewBlock : Batch → Except Failure Unit
  /-- `storeNewContractWithEventTypeConfigs` for each contract a transaction
  created. -/
  storeCreatedContracts : Events.EventDb → TxExecResult → Except Failure Events.EventDb

/-- The validator's tables, the batch registry's head, and the receipt and
event tables. -/
structure ValidatorState where
  store : ExecutedDb
  headBatchSeq : Option Nat
  tables : ReceiptTables

/-- `batchExecutor.CreateGenesisState`, without the message bus deployment
transaction it also returns. -/
def createGenesisState (ex : BatchExecutor σ η) (genesisRoot : Except Failure Hash)
    (commitGenesisState : Except Failure Unit) (blkHash : Hash) (timeNow : UInt64)
    (coinbase : Address) (baseFee : Nat) : Except Failure Batch := do
  let preFundGenesisState ← genesisRoot
  let genesisBatch : Batch :=
    ⟨{ parentHash := 0
       root := preFundGenesisState
       txHash := ex.emptyRootHash
       receiptHash := ex.emptyRootHash
       number := 0
       -- genesis batch has seq number 1
       sequencerOrderNo := L2GenesisSeqNo
       gasLimit := UInt64.ofNat ex.batchGasLimit
       gasUsed := 0
       time := timeNow
       extra := []
       baseFee := baseFee
       coinbase := coinbase
       l1Proof := blkHash
       signature := []
       crossChainMessages := []
       latestInboundCrossChainHash := 0
       latestInboundCrossChainHeight := 0
       crossChainRoot := ex.emptyRootHash
       crossChainTree := [] }, []⟩
  commitGenesisState.mapError (Failure.wrap "could not apply genesis preallocation. Cause: ")
  pure genesisBatch

/-- `batchRegistry.OnBatchExecuted`: the head moves to the batch. -/
def onBatchExecuted (v : ValidatorState) (batchHeader : BatchHeader) : ValidatorState :=
  { v with headBatchSeq := some batchHeader.sequencerOrderNo }

/-- `obsValidator.handleGenesis`. -/
def handleGenesis (env : ValidatorEnv σ η) (v : ValidatorState) (batch : BatchHeader) :
    Except Failure ValidatorState := do
  let genBatch ← createGenesisState env.ex env.genesisRoot env.commitGenesisState batch.l1Proof
    batch.time batch.coinbase batch.baseFee
  Result.check (genBatch.header.hash env.ex.rlpHash ≠ batch.hash env.ex.rlpHash)
    (.error "received invalid genesis batch")
  let (store, tables) ← storeExecutedBatch env.ex.rlpHash env.storeCreatedContracts v.store v.tables
    genBatch.header []
  pure (onBatchExecuted { v with store := store, tables := tables } batch)

/-- `obsValidator.executionPrerequisites`: the L1 block is stored and the
parent was executed. A missing block fails the pass. -/
def executionPrerequisites (store : ExecutedDb) (batch : BatchHeader) : Except Failure Bool :=
  match fetchBlock store.db batch.l1Proof with
  | .error err => if err = errNotFound then .error err else .ok false
  | .ok _ => .ok (batchWasExecuted store batch.parentHash)

/-- The body of `ExecuteStoredBatches` for a batch that can be executed:
read its transactions, execute it, mark it executed, feed it to the
mempool's chain and move the head. -/
def executeBatchHeader (env : ValidatorEnv σ η) (v : ValidatorState) (batchHeader : BatchHeader) :
    ValidatorState × Option Failure :=
  let hashText := hashHex (batchHeader.hash env.ex.rlpHash)
  match fetchBatchTransactionsBySeq v.store.db (uint64 batchHeader.sequencerOrderNo) with
  | .error err => (v, some (err.wrap ("could not get txs for batch " ++ hashText ++ ". Cause: ")))
  | .ok txs =>
    let batch : Batch := ⟨batchHeader, txs⟩
    match executeBatch env.ex batch with
    | .error err => (v, some (err.wrap ("could not execute batchHeader " ++ hashText ++ ". Cause: ")))
    | .ok txResults =>
      match storeExecutedBatch env.ex.rlpHash env.storeCreatedContracts v.store v.tables batchHeader
          txResults with
      | .error err =>
        (v, some (err.wrap ("could not store executed batchHeader " ++ hashText ++ ". Cause: ")))
      | .ok (store, tables) =>
        let v := { v with store := store, tables := tables }
        match env.ingestNewBlock batch with
        | .error err => (v, some (err.wrap "failed to feed batchHeader into the virtual eth chain- "))
        | .ok () => (onBatchExecuted v batchHeader, none)

/-- The loop of `ExecuteStoredBatches` over the batches it read. -/
def executeStoredBatchesLoop (env : ValidatorEnv σ η) :
    ValidatorState → List BatchHeader → ValidatorState × Option Failure
  | v, [] => (v, none)
  | v, batchHeader :: rest =>
    match (if batchHeader.isGenesis then handleGenesis env v batchHeader else .ok v) with
    | .error err => (v, some err)
    | .ok v =>
      match executionPrerequisites v.store batchHeader with
      | .error err =>
        (v, some (err.wrap ("could not determine the execution prerequisites for batchHeader " ++
          hashHex (batchHeader.hash env.ex.rlpHash) ++ ". Cause: ")))
      | .ok canExecute =>
        if canExecute then
          match executeBatchHeader env v batchHeader with
          | (v, some err) => (v, some err)
          | (v, none) => executeStoredBatchesLoop env v rest
        else executeStoredBatchesLoop env v rest

/-- `obsValidator.ExecuteStoredBatches`. -/
def executeStoredBatches (env : ValidatorEnv σ η) (v : ValidatorState) : ValidatorState × Option Failure :=
  executeStoredBatchesLoop env v (readUnexecutedBatches v.store (v.headBatchSeq.getD L2GenesisSeqNo))


/-! ## Reading the executed flag -/

open GoTen.Verified.Result

/-- What a pass reads of a row: its sequence number, hash and header. -/
def rowKey (r : BatchRow) : Nat × Hash × BatchHeader := (r.sequence, r.hash, r.header)

theorem batchWasExecuted_eq_find_keys (store : ExecutedDb) (hash : Hash) :
    batchWasExecuted store hash =
      (((store.db.batches.map rowKey).find? fun k => k.2.1 == hash).map
        fun k => decide (k.1 ∈ store.executed)).getD false := by
  rw [batchWasExecuted, List.find?_map]
  change _ = ((Option.map rowKey (store.db.batches.find? fun r => r.hash == hash)).map _).getD false
  cases store.db.batches.find? (fun r => r.hash == hash) <;> rfl

/-- Rows that agree on their keys agree on the executed flag. -/
theorem batchWasExecuted_of_keys {db db' : Db} {executed : List Nat}
    (hkeys : db'.batches.map rowKey = db.batches.map rowKey) (hash : Hash) :
    batchWasExecuted ⟨db', executed⟩ hash = batchWasExecuted ⟨db, executed⟩ hash := by
  rw [batchWasExecuted_eq_find_keys, batchWasExecuted_eq_find_keys]
  exact congrArg (fun keys => ((keys.find? fun k => k.2.1 == hash).map
    fun k => decide (k.1 ∈ executed)).getD false) hkeys

/-- A row appended unexecuted changes no executed flag. -/
theorem batchWasExecuted_append {db db' : Db} {executed : List Nat} {row : BatchRow}
    (hrows : db'.batches = db.batches ++ [row]) (hrow : row.sequence ∉ executed) (hash : Hash) :
    batchWasExecuted ⟨db', executed⟩ hash = batchWasExecuted ⟨db, executed⟩ hash := by
  unfold batchWasExecuted
  rw [hrows, List.find?_append]
  cases db.batches.find? (fun r => r.hash == hash) with
  | some r => rfl
  | none => by_cases h : row.hash = hash <;> simp [h, hrow]

/-- Setting more flags keeps every flag set. -/
theorem batchWasExecuted_mono {db : Db} {executed executed' : List Nat}
    (hsub : executed ⊆ executed') {hash : Hash}
    (h : batchWasExecuted ⟨db, executed⟩ hash = true) :
    batchWasExecuted ⟨db, executed'⟩ hash = true := by
  unfold batchWasExecuted at h ⊢
  dsimp only at h ⊢
  revert h
  cases db.batches.find? (fun r => r.hash == hash) with
  | some r => simpa using fun h => hsub h
  | none => exact id

theorem batchWasExecuted_of_subset {store store' : ExecutedDb} (hdb : store'.db = store.db)
    (hsub : store.executed ⊆ store'.executed) {hash : Hash}
    (h : batchWasExecuted store hash = true) : batchWasExecuted store' hash = true := by
  obtain ⟨db, executed⟩ := store
  obtain ⟨db', executed'⟩ := store'
  dsimp only at hdb hsub
  subst hdb
  exact batchWasExecuted_mono hsub h

@[simp] theorem markBatchExecuted_db (store : ExecutedDb) (seqNo : Nat) :
    (markBatchExecuted store seqNo).db = store.db := by
  unfold markBatchExecuted
  split <;> rfl

theorem executed_subset_markBatchExecuted (store : ExecutedDb) (seqNo : Nat) :
    store.executed ⊆ (markBatchExecuted store seqNo).executed := by
  unfold markBatchExecuted
  split
  · exact List.subset_cons_self _ _
  · exact List.Subset.refl _

@[simp] theorem setExecuted_db (rlpHash : BatchHeader → Hash) (store : ExecutedDb)
    (batch : BatchHeader) : (setExecuted rlpHash store batch).db = store.db := by
  unfold setExecuted
  split <;> simp

/-- A stored executed batch leaves the flags as `setExecuted` sets them. -/
theorem storeExecutedBatch_fst {rlpHash : BatchHeader → Hash}
    {storeCreatedContracts : Events.EventDb → TxExecResult → Except Failure Events.EventDb}
    {store : ExecutedDb} {tables : ReceiptTables} {batch : BatchHeader} {results : List TxExecResult}
    {p : ExecutedDb × ReceiptTables}
    (h : storeExecutedBatch rlpHash storeCreatedContracts store tables batch results = .ok p) :
    p.1 = setExecuted rlpHash store batch := by
  unfold storeExecutedBatch at h
  unfold setExecuted
  split at h
  · rw [if_pos ‹_›, ← (Except.ok.inj h)]
  · rw [if_neg ‹_›]
    obtain ⟨tables', -, hret⟩ := bind_eq_ok.mp h
    rw [← pure_eq_ok.mp hret]

/-! ## The executed batches are closed under parents -/

/-- The rows of the `batch` table are stored under their header's sequence
number, which is the table's primary key. -/
structure RowsKeyed (db : Db) : Prop where
  sequence_eq : ∀ r ∈ db.batches, r.sequence = r.header.sequencerOrderNo
  nodup : (db.batches.map BatchRow.sequence).Nodup

theorem RowsKeyed.eq_of_sequence {db : Db} (hk : RowsKeyed db) {r r' : BatchRow}
    (hr : r ∈ db.batches) (hr' : r' ∈ db.batches) (h : r.sequence = r'.sequence) : r = r' :=
  List.inj_on_of_nodup_map hk.nodup hr hr' h

/-- What the enclave keeps true of the executed batches: each is stored, and
each but the genesis batch has its L1 block stored and its parent
executed. -/
structure ExecutedClosed (store : ExecutedDb) : Prop where
  keyed : RowsKeyed store.db
  stored : ∀ s ∈ store.executed, ∃ r ∈ store.db.batches, r.sequence = s
  closed : ∀ r ∈ store.db.batches, r.sequence ∈ store.executed → r.sequence ≠ L2GenesisSeqNo →
    batchWasExecuted store r.header.parentHash = true ∧ (findBlock store.db r.header.l1Proof).isSome

/-- Marking a sequence number executed keeps the invariant when its row is
ready: the genesis batch, or a batch with its block stored and its parent
executed. -/
theorem ExecutedClosed.markBatchExecuted {store : ExecutedDb} (hc : ExecutedClosed store)
    {seqNo : Nat}
    (hready : ∀ r ∈ store.db.batches, r.sequence = seqNo → seqNo ≠ L2GenesisSeqNo →
      batchWasExecuted store r.header.parentHash = true ∧ (findBlock store.db r.header.l1Proof).isSome) :
    ExecutedClosed (markBatchExecuted store seqNo) := by
  have hsub := executed_subset_markBatchExecuted store seqNo
  unfold Validator.markBatchExecuted at hsub ⊢
  split
  case isFalse => exact hc
  case isTrue hany =>
    refine ⟨hc.keyed, ?_, ?_⟩
    · intro s hs
      rcases List.mem_cons.mp hs with rfl | hs
      · obtain ⟨r, hr, hseq⟩ := List.any_eq_true.mp hany
        exact ⟨r, hr, by simpa using hseq⟩
      · exact hc.stored s hs
    · intro r hr hexec hgen
      have hold : batchWasExecuted store r.header.parentHash = true ∧
          (findBlock store.db r.header.l1Proof).isSome := by
        rcases List.mem_cons.mp hexec with hseq | hexec
        · exact hready r hr hseq (hseq ▸ hgen)
        · exact hc.closed r hr hexec hgen
      exact ⟨batchWasExecuted_mono (List.subset_cons_self _ _) hold.1, hold.2⟩

theorem ExecutedClosed.setExecuted {store : ExecutedDb} (hc : ExecutedClosed store)
    (rlpHash : BatchHeader → Hash) {batch : BatchHeader}
    (hready : ∀ r ∈ store.db.batches, r.sequence = batch.sequencerOrderNo →
      batch.sequencerOrderNo ≠ L2GenesisSeqNo →
      batchWasExecuted store r.header.parentHash = true ∧ (findBlock store.db r.header.l1Proof).isSome) :
    ExecutedClosed (setExecuted rlpHash store batch) := by
  unfold Validator.setExecuted
  split
  · exact hc
  · exact hc.markBatchExecuted hready


/-! ### Storing batches and blocks -/

/-- `StoreBatch` keeps the blocks, and either keeps the batch rows or
appends one under its header's sequence number, which no row had. -/
theorem storeBatch_cases {rlpHash : BatchHeader → Hash} {db db' : Db} {batch : Batch}
    (h : Storage.storeBatch rlpHash db batch = .ok db') :
    db'.blocks = db.blocks ∧ (db'.batches = db.batches ∨
      ∃ row : BatchRow, db'.batches = db.batches ++ [row] ∧ row.sequence = row.header.sequencerOrderNo ∧
        row.hash = row.header.hash rlpHash ∧ ∀ r ∈ db.batches, r.sequence ≠ row.sequence) := by
  by_cases hfresh : ∀ r ∈ db.batches, r.sequence ≠ batch.header.sequencerOrderNo
  · rw [storeBatch_of_fresh hfresh h]
    refine ⟨by split <;> rfl, .inr ⟨⟨batch.header.sequencerOrderNo, batch.header.hash rlpHash,
      batch.header.number, isCanonicalBlock db batch.header.l1Proof, batch.header,
      batch.header.l1Proof⟩, by split <;> rfl, rfl, rfl, hfresh⟩⟩
  · -- a row holds the sequence number: the batch is refused or already stored
    simp only [not_forall, not_not] at hfresh
    obtain ⟨r, hr, hseq⟩ := hfresh
    obtain ⟨r', hr'⟩ : ∃ r', db.batches.find? (fun r => r.sequence == batch.header.sequencerOrderNo) =
        some r' := Option.isSome_iff_exists.mp (List.find?_isSome.mpr ⟨r, hr, by simpa using hseq⟩)
    have hfetch : fetchBatchBySeqNo db batch.header.sequencerOrderNo =
        .ok ⟨r'.header, readBatchTransactions db r'.header.number⟩ := by
      simp [fetchBatchBySeqNo, fetchBatchHeaderBySeqNo, hr', bind, Except.bind, pure, Except.pure]
    unfold Storage.storeBatch at h
    dsimp only at h
    rw [hfetch] at h
    dsimp only at h
    split at h
    · cases h
    · cases h
      exact ⟨rfl, .inl rfl⟩

theorem handleBlockArrivedAfterBatches_keys (db : Db) (blockHash : Hash) :
    (handleBlockArrivedAfterBatches db blockHash).batches.map rowKey = db.batches.map rowKey := by
  simp only [handleBlockArrivedAfterBatches, List.map_map]
  exact List.map_congr_left fun r _ => by simp only [Function.comp_apply]; split <;> rfl

theorem updateCanonicalBatch_keys (db : Db) (isCanonical : Bool) (blocks : List Hash) :
    (updateCanonicalBatch db isCanonical blocks).batches.map rowKey = db.batches.map rowKey := by
  simp only [updateCanonicalBatch, List.map_map]
  exact List.map_congr_left fun r _ => by simp only [Function.comp_apply]; split <;> rfl

/-- `StoreBlock` moves canonical flags only: the rows keep their keys. -/
theorem storeBlock_keys (db : Db) (block : L1Header) (fork : Option ChainFork) :
    (Storage.storeBlock db block fork).batches.map rowKey = db.batches.map rowKey := by
  have hwrite : (if (findBlock db block.hash).isSome then db else writeBlock db block).batches =
      db.batches := by
    split <;> rfl
  unfold Storage.storeBlock
  dsimp only
  rcases fork with _ | fork
  · rw [handleBlockArrivedAfterBatches_keys, hwrite]
  · dsimp only
    split
    · rw [updateCanonicalBatch_keys, updateCanonicalBatch_keys]
      exact (handleBlockArrivedAfterBatches_keys _ _).trans (congrArg _ hwrite)
    · rw [handleBlockArrivedAfterBatches_keys, hwrite]

theorem isSome_findBlock {db : Db} {hash : Hash} :
    (findBlock db hash).isSome ↔ ∃ r ∈ db.blocks, r.header.hash = hash := by
  simp [findBlock, List.find?_isSome]

theorem isSome_findBlock_updateCanonicalBlock {db : Db} {hash : Hash} (isCanonical : Bool)
    (blocks : List Hash) (h : (findBlock db hash).isSome) :
    (findBlock (updateCanonicalBlock db isCanonical blocks) hash).isSome := by
  rw [isSome_findBlock] at h ⊢
  obtain ⟨r, hr, rfl⟩ := h
  refine ⟨_, List.mem_map_of_mem hr, ?_⟩
  split <;> rfl

/-- `StoreBlock` keeps every stored block. -/
theorem findBlock_storeBlock {db : Db} {hash : Hash} (h : (findBlock db hash).isSome)
    (block : L1Header) (fork : Option ChainFork) :
    (findBlock (Storage.storeBlock db block fork) hash).isSome := by
  have hwrite : (findBlock (if (findBlock db block.hash).isSome then db else writeBlock db block)
      hash).isSome := by
    split
    · exact h
    · rw [isSome_findBlock] at h ⊢
      obtain ⟨r, hr, hhash⟩ := h
      exact ⟨r, List.mem_append_left _ hr, hhash⟩
  unfold Storage.storeBlock
  dsimp only
  rcases fork with _ | fork
  · exact hwrite
  · dsimp only
    split
    · exact isSome_findBlock_updateCanonicalBlock _ _ (isSome_findBlock_updateCanonicalBlock _ _ hwrite)
    · exact hwrite


theorem findBlock_of_blocks {db db' : Db} (h : db'.blocks = db.blocks) (hash : Hash) :
    findBlock db' hash = findBlock db hash := by
  unfold findBlock
  rw [h]

/-! ### Each step keeps the invariant -/

/-- A row of tables that keep the keys has a row with its key before. -/
theorem mem_of_keys {db db' : Db} (hkeys : db'.batches.map rowKey = db.batches.map rowKey)
    {r' : BatchRow} (hr' : r' ∈ db'.batches) :
    ∃ r ∈ db.batches, r.sequence = r'.sequence ∧ r.hash = r'.hash ∧ r.header = r'.header := by
  have hkey : rowKey r' ∈ db.batches.map rowKey := hkeys ▸ List.mem_map_of_mem hr'
  obtain ⟨r, hr, hrkey⟩ := List.mem_map.mp hkey
  simp only [rowKey, Prod.mk.injEq] at hrkey
  exact ⟨r, hr, hrkey⟩

/-- Rows that keep their keys, over blocks that keep every stored block, keep
the invariant. -/
theorem ExecutedClosed.of_keys {store : ExecutedDb} (hc : ExecutedClosed store) {db' : Db}
    (hkeys : db'.batches.map rowKey = store.db.batches.map rowKey)
    (hblocks : ∀ hash, (findBlock store.db hash).isSome → (findBlock db' hash).isSome) :
    ExecutedClosed ⟨db', store.executed⟩ := by
  have hseqs : db'.batches.map BatchRow.sequence = store.db.batches.map BatchRow.sequence := by
    simpa [List.map_map, Function.comp_def, rowKey] using congrArg (List.map Prod.fst) hkeys
  refine ⟨⟨?_, hseqs ▸ hc.keyed.nodup⟩, ?_, ?_⟩
  · intro r' hr'
    obtain ⟨r, hr, hseq, -, hheader⟩ := mem_of_keys hkeys hr'
    rw [← hseq, ← hheader]
    exact hc.keyed.sequence_eq r hr
  · intro s hs
    obtain ⟨r, hr, rfl⟩ := hc.stored s hs
    have hseq : r.sequence ∈ db'.batches.map BatchRow.sequence := hseqs ▸ List.mem_map_of_mem hr
    exact List.mem_map.mp hseq
  · intro r' hr' hexec hgen
    obtain ⟨r, hr, hseq, -, hheader⟩ := mem_of_keys hkeys hr'
    obtain ⟨hparent, hblock⟩ := hc.closed r hr (by rw [hseq]; exact hexec) (by rw [hseq]; exact hgen)
    rw [batchWasExecuted_of_keys hkeys, ← hheader]
    exact ⟨hparent, hblocks _ hblock⟩

theorem ExecutedClosed.storeBlock {store : ExecutedDb} (hc : ExecutedClosed store)
    (block : L1Header) (fork : Option ChainFork) :
    ExecutedClosed ⟨Storage.storeBlock store.db block fork, store.executed⟩ :=
  hc.of_keys (storeBlock_keys _ _ _) fun _ hblock => findBlock_storeBlock hblock block fork

/-- A stored batch arrives unexecuted. -/
theorem ExecutedClosed.storeBatch {store : ExecutedDb} (hc : ExecutedClosed store)
    {rlpHash : BatchHeader → Hash} {batch : Batch} {db' : Db}
    (h : Storage.storeBatch rlpHash store.db batch = .ok db') :
    ExecutedClosed ⟨db', store.executed⟩ := by
  obtain ⟨hblocks, hsame | ⟨row, hrows, hrowseq, -, hfresh⟩⟩ := storeBatch_cases h
  · exact hc.of_keys (by rw [hsame]) fun hash hblock => by rwa [findBlock_of_blocks hblocks]
  · -- no row had the new row's sequence number, so it is not marked executed
    have hnotexec : row.sequence ∉ store.executed := fun hexec => by
      obtain ⟨r, hr, hseq⟩ := hc.stored _ hexec
      exact hfresh r hr hseq
    refine ⟨⟨?_, ?_⟩, ?_, ?_⟩
    · intro r hr
      rcases List.mem_append.mp (hrows ▸ hr) with hr | hr
      · exact hc.keyed.sequence_eq r hr
      · rw [List.mem_singleton.mp hr]
        exact hrowseq
    · rw [hrows, List.map_append, List.nodup_append]
      refine ⟨hc.keyed.nodup, List.nodup_singleton _, ?_⟩
      intro a ha b hb
      obtain ⟨r, hr, rfl⟩ := List.mem_map.mp ha
      rw [List.map_singleton, List.mem_singleton] at hb
      exact hb ▸ hfresh r hr
    · intro s hs
      obtain ⟨r, hr, hseq⟩ := hc.stored s hs
      exact ⟨r, hrows ▸ List.mem_append_left _ hr, hseq⟩
    · intro r hr hexec hgen
      rcases List.mem_append.mp (hrows ▸ hr) with hr | hr
      · obtain ⟨hparent, hblock⟩ := hc.closed r hr hexec hgen
        rw [batchWasExecuted_append hrows hnotexec, findBlock_of_blocks hblocks]
        exact ⟨hparent, hblock⟩
      · exact absurd (List.mem_singleton.mp hr ▸ hexec) hnotexec

/-! ### A pass keeps the invariant -/

theorem executionPrerequisites_eq_true {store : ExecutedDb} {batch : BatchHeader}
    (h : executionPrerequisites store batch = .ok true) :
    batchWasExecuted store batch.parentHash = true ∧ (findBlock store.db batch.l1Proof).isSome := by
  unfold executionPrerequisites at h
  cases hblock : fetchBlock store.db batch.l1Proof with
  | error err =>
    rw [hblock] at h
    dsimp only at h
    split at h <;> cases h
  | ok block =>
    rw [hblock] at h
    refine ⟨Except.ok.inj h, ?_⟩
    unfold fetchBlock at hblock
    cases hfind : findBlock store.db batch.l1Proof with
    | none =>
      rw [hfind] at hblock
      cases hblock
    | some r => rfl

theorem createGenesisState_sequencerOrderNo {ex : BatchExecutor σ η}
    {genesisRoot : Except Failure Hash} {commitGenesisState : Except Failure Unit} {blkHash : Hash}
    {timeNow : UInt64} {coinbase : Address} {baseFee : Nat} {genBatch : Batch}
    (h : createGenesisState ex genesisRoot commitGenesisState blkHash timeNow coinbase baseFee =
      .ok genBatch) :
    genBatch.header.sequencerOrderNo = L2GenesisSeqNo := by
  unfold createGenesisState at h
  obtain ⟨root, -, h⟩ := bind_eq_ok.mp h
  obtain ⟨u, -, h⟩ := bind_eq_ok.mp h
  rw [← pure_eq_ok.mp h]

/-- `handleGenesis` marks executed a batch with the genesis sequence number. -/
theorem handleGenesis_store {env : ValidatorEnv σ η} {v v' : ValidatorState} {batch : BatchHeader}
    (h : handleGenesis env v batch = .ok v') :
    ∃ genesis : BatchHeader, genesis.sequencerOrderNo = L2GenesisSeqNo ∧
      v'.store = setExecuted env.ex.rlpHash v.store genesis := by
  unfold handleGenesis at h
  obtain ⟨genBatch, hcreate, h⟩ := bind_eq_ok.mp h
  obtain ⟨u, -, h⟩ := bind_eq_ok.mp h
  obtain ⟨p, hstore, h⟩ := bind_eq_ok.mp h
  refine ⟨genBatch.header, createGenesisState_sequencerOrderNo hcreate, ?_⟩
  rw [← pure_eq_ok.mp h]
  exact storeExecutedBatch_fst hstore

/-- The body of the loop either leaves the tables or marks the batch executed. -/
theorem executeBatchHeader_store (env : ValidatorEnv σ η) (v : ValidatorState)
    (batchHeader : BatchHeader) :
    (executeBatchHeader env v batchHeader).1.store = v.store ∨
      (executeBatchHeader env v batchHeader).1.store =
        setExecuted env.ex.rlpHash v.store batchHeader := by
  unfold executeBatchHeader
  dsimp only
  split
  · exact .inl rfl
  · split
    · exact .inl rfl
    · split
      · exact .inl rfl
      · rename_i hstore
        have hfst := storeExecutedBatch_fst hstore
        split <;> exact .inr hfst

/-- What each turn of a pass keeps, the whole pass keeps: the genesis step,
and the body of the loop, which runs only once the prerequisites hold. The
induction is on the batches left. -/
theorem executeStoredBatchesLoop_preserves (env : ValidatorEnv σ η) (P : ValidatorState → Prop)
    {batches : List BatchHeader}
    (hgenesis : ∀ {v v₁ : ValidatorState} {b : BatchHeader}, b ∈ batches → P v →
      handleGenesis env v b = .ok v₁ → P v₁)
    (hbody : ∀ {v : ValidatorState} {b : BatchHeader}, b ∈ batches → P v →
      executionPrerequisites v.store b = .ok true → P (executeBatchHeader env v b).1) :
    ∀ {v : ValidatorState}, P v → P (executeStoredBatchesLoop env v batches).1 := by
  induction batches with
  | nil => exact id
  | cons b rest ih =>
    intro v hv
    have ih' : ∀ {v : ValidatorState}, P v → P (executeStoredBatchesLoop env v rest).1 :=
      ih (fun hb => hgenesis (List.mem_cons_of_mem _ hb)) (fun hb => hbody (List.mem_cons_of_mem _ hb))
    unfold executeStoredBatchesLoop
    split
    · exact hv
    · rename_i v₁ hstep
      have hv₁ : P v₁ := by
        split at hstep
        · exact hgenesis List.mem_cons_self hv hstep
        · cases hstep
          exact hv
      split
      · exact hv₁
      · rename_i canExecute hpre
        split
        · rename_i hcan
          subst hcan
          have hv₂ := hbody List.mem_cons_self hv₁ hpre
          split
          · rename_i v₂ err heq
            rw [heq] at hv₂
            exact hv₂
          · rename_i v₂ heq
            rw [heq] at hv₂
            exact ih' hv₂
        · exact ih' hv₁

theorem handleGenesis_db {env : ValidatorEnv σ η} {v v₁ : ValidatorState} {batch : BatchHeader}
    (h : handleGenesis env v batch = .ok v₁) : v₁.store.db = v.store.db := by
  obtain ⟨genesis, -, hstore⟩ := handleGenesis_store h
  rw [hstore, setExecuted_db]

theorem executeBatchHeader_db (env : ValidatorEnv σ η) (v : ValidatorState) (batchHeader : BatchHeader) :
    (executeBatchHeader env v batchHeader).1.store.db = v.store.db := by
  rcases executeBatchHeader_store env v batchHeader with hstore | hstore <;> rw [hstore]
  exact setExecuted_db ..

/-- A pass sets flags only: the tables stay as they are. -/
theorem executeStoredBatchesLoop_db (env : ValidatorEnv σ η) (v : ValidatorState)
    (batches : List BatchHeader) : (executeStoredBatchesLoop env v batches).1.store.db = v.store.db :=
  executeStoredBatchesLoop_preserves env (fun v' => v'.store.db = v.store.db)
    (fun _ hv h => (handleGenesis_db h).trans hv)
    (fun _ hv _ => (executeBatchHeader_db ..).trans hv) rfl

theorem batchWasExecuted_setExecuted {rlpHash : BatchHeader → Hash} {store : ExecutedDb}
    {batch : BatchHeader} {hash : Hash} (h : batchWasExecuted store hash = true) :
    batchWasExecuted (setExecuted rlpHash store batch) hash = true := by
  unfold setExecuted
  split
  · exact h
  · exact batchWasExecuted_of_subset (markBatchExecuted_db _ _) (executed_subset_markBatchExecuted _ _) h

/-- A pass only sets flags. -/
theorem batchWasExecuted_executeStoredBatchesLoop (env : ValidatorEnv σ η) {hash : Hash}
    {batches : List BatchHeader} {v : ValidatorState} (h : batchWasExecuted v.store hash = true) :
    batchWasExecuted (executeStoredBatchesLoop env v batches).1.store hash = true :=
  executeStoredBatchesLoop_preserves env (fun v' => batchWasExecuted v'.store hash = true)
    (fun _ hv hgenesis => by
      obtain ⟨genesis, -, hstore⟩ := handleGenesis_store hgenesis
      rw [hstore]
      exact batchWasExecuted_setExecuted hv)
    (fun {v b} _ hv _ => by
      rcases executeBatchHeader_store env v b with hstore | hstore <;> rw [hstore]
      · exact hv
      · exact batchWasExecuted_setExecuted hv) h

theorem ExecutedClosed.handleGenesis {env : ValidatorEnv σ η} {v v₁ : ValidatorState}
    (hc : ExecutedClosed v.store) {batch : BatchHeader} (h : Validator.handleGenesis env v batch = .ok v₁) :
    ExecutedClosed v₁.store := by
  obtain ⟨genesis, hgenesis, hstore⟩ := handleGenesis_store h
  rw [hstore]
  exact hc.setExecuted _ fun _ _ _ hne => absurd hgenesis hne

/-- The body of the loop, run on a stored batch that passed the
prerequisites, keeps the invariant. -/
theorem ExecutedClosed.executeBatchHeader {env : ValidatorEnv σ η} {v : ValidatorState}
    (hc : ExecutedClosed v.store) {r₀ : BatchRow} (hr₀ : r₀ ∈ v.store.db.batches)
    (hpre : executionPrerequisites v.store r₀.header = .ok true) :
    ExecutedClosed (Validator.executeBatchHeader env v r₀.header).1.store := by
  obtain ⟨hparent, hblock⟩ := executionPrerequisites_eq_true hpre
  -- the only row under the batch's sequence number is its own
  have hmarked : ExecutedClosed (Validator.setExecuted env.ex.rlpHash v.store r₀.header) :=
    hc.setExecuted _ fun r hr hseq _ => by
      obtain rfl : r = r₀ :=
        hc.keyed.eq_of_sequence hr hr₀ (hseq.trans (hc.keyed.sequence_eq r₀ hr₀).symm)
      exact ⟨hparent, hblock⟩
  rcases executeBatchHeader_store env v r₀.header with hstore | hstore <;> rw [hstore]
  · exact hc
  · exact hmarked

/-- A pass over stored batches keeps the invariant: the rows do not change
during the pass, so each batch left is still a stored one. -/
theorem ExecutedClosed.executeStoredBatchesLoop (env : ValidatorEnv σ η) {batches : List BatchHeader}
    {v : ValidatorState} (hc : ExecutedClosed v.store)
    (hrows : ∀ b ∈ batches, ∃ r ∈ v.store.db.batches, r.header = b) :
    ExecutedClosed (Validator.executeStoredBatchesLoop env v batches).1.store :=
  (executeStoredBatchesLoop_preserves env (fun v' => ExecutedClosed v'.store ∧ v'.store.db = v.store.db)
    (fun _ hv h => ⟨hv.1.handleGenesis h, (handleGenesis_db h).trans hv.2⟩)
    (fun hb hv hpre => by
      obtain ⟨r, hr, rfl⟩ := hrows _ hb
      exact ⟨hv.1.executeBatchHeader (hv.2 ▸ hr) hpre, (executeBatchHeader_db ..).trans hv.2⟩)
    ⟨hc, rfl⟩).1

/-- What a pass reads is the headers of stored canonical rows, not executed,
from the sequence number on. -/
theorem mem_readUnexecutedBatches {store : ExecutedDb} {fromSeq : Nat} {b : BatchHeader}
    (h : b ∈ readUnexecutedBatches store fromSeq) :
    ∃ r ∈ store.db.batches, r.header = b ∧ r.sequence ∉ store.executed ∧ r.isCanonical = true ∧
      fromSeq ≤ r.sequence := by
  obtain ⟨r, hr, rfl⟩ := List.mem_map.mp h
  have hfilter := (List.mem_insertionSort _).mp hr
  simp only [List.mem_filter, Bool.and_eq_true, decide_eq_true_eq] at hfilter
  exact ⟨r, hfilter.1, rfl, hfilter.2.1.1, hfilter.2.1.2, hfilter.2.2⟩

/-! ## The enclave over whole runs -/

/-- Receipt and event tables with no rows. -/
def ReceiptTables.empty : ReceiptTables := ⟨⟨[], [], [], [], []⟩, 0⟩

/-- The empty tables, before the registry has a head. -/
def ValidatorState.init : ValidatorState := ⟨⟨Db.empty, []⟩, none, ReceiptTables.empty⟩

/-- What can happen to a validator enclave's tables: the host hands it a
batch, which it stores; it stores an L1 block, with the fork the block
makes; or it runs a pass over the stored batches, with any executor. -/
inductive Step (rlpHash : BatchHeader → Hash) : ValidatorState → ValidatorState → Prop
  | storeBatch {v : ValidatorState} {db : Db} (batch : Batch)
      (h : Storage.storeBatch rlpHash v.store.db batch = .ok db) :
      Step rlpHash v { v with store := ⟨db, v.store.executed⟩ }
  | storeBlock (v : ValidatorState) (block : L1Header) (fork : Option ChainFork) :
      Step rlpHash v { v with store := ⟨Storage.storeBlock v.store.db block fork, v.store.executed⟩ }
  | executeStoredBatches {σ η : Type} (env : ValidatorEnv σ η) (v : ValidatorState) :
      Step rlpHash v (Validator.executeStoredBatches env v).1

/-- The states a validator enclave reaches from empty tables. -/
def Reachable (rlpHash : BatchHeader → Hash) (v : ValidatorState) : Prop :=
  Relation.ReflTransGen (Step rlpHash) ValidatorState.init v

theorem ExecutedClosed.init : ExecutedClosed ValidatorState.init.store where
  keyed := ⟨(fun _ h => nomatch h), List.nodup_nil⟩
  stored _ h := nomatch h
  closed _ h := nomatch h

theorem ExecutedClosed.step {rlpHash : BatchHeader → Hash} {v v' : ValidatorState}
    (hc : ExecutedClosed v.store) (hstep : Step rlpHash v v') : ExecutedClosed v'.store := by
  cases hstep with
  | storeBatch batch h => exact hc.storeBatch h
  | storeBlock _ block fork => exact hc.storeBlock block fork
  | executeStoredBatches env _ =>
    exact hc.executeStoredBatchesLoop env fun b hb =>
      (mem_readUnexecutedBatches hb).imp fun _ hr => ⟨hr.1, hr.2.1⟩

theorem Reachable.executedClosed {rlpHash : BatchHeader → Hash} {v : ValidatorState}
    (hv : Reachable rlpHash v) : ExecutedClosed v.store := by
  induction hv with
  | refl => exact ExecutedClosed.init
  | tail _ hstep ih => exact ih.step hstep

theorem executeStoredBatches_db (env : ValidatorEnv σ η) (v : ValidatorState) :
    (executeStoredBatches env v).1.store.db = v.store.db :=
  executeStoredBatchesLoop_db env v _

/-- Every row is stored under its header's hash. -/
def RowsHashed (rlpHash : BatchHeader → Hash) (db : Db) : Prop :=
  ∀ r ∈ db.batches, r.hash = r.header.hash rlpHash

theorem RowsHashed.step {rlpHash : BatchHeader → Hash} {v v' : ValidatorState}
    (hh : RowsHashed rlpHash v.store.db) (hstep : Step rlpHash v v') : RowsHashed rlpHash v'.store.db := by
  cases hstep with
  | storeBatch batch h =>
    obtain ⟨-, hsame | ⟨row, hrows, -, hrowhash, -⟩⟩ := storeBatch_cases h
    · exact fun r hr => hh r (hsame ▸ hr)
    · intro r hr
      rcases List.mem_append.mp (hrows ▸ hr) with hr | hr
      · exact hh r hr
      · rw [List.mem_singleton.mp hr]
        exact hrowhash
  | storeBlock _ block fork =>
    intro r' hr'
    obtain ⟨r, hr, -, hhash, hheader⟩ := mem_of_keys (storeBlock_keys _ block fork) hr'
    rw [← hhash, ← hheader]
    exact hh r hr
  | executeStoredBatches env _ =>
    intro r hr
    rw [executeStoredBatches_db] at hr
    exact hh r hr

theorem Reachable.rowsHashed {rlpHash : BatchHeader → Hash} {v : ValidatorState}
    (hv : Reachable rlpHash v) : RowsHashed rlpHash v.store.db := by
  induction hv with
  | refl => exact fun _ h => nomatch h
  | tail _ hstep ih => exact ih.step hstep

/-! ### A run: the genesis batch, a pass, and the sequencer's next batch -/

/-- A validator over the one-nonce executor, with an empty genesis
allocation; its transfers create no contract. -/
def nonceValidatorEnv : ValidatorEnv Nat Unit :=
  ⟨nonceExecutor, .ok 0, .ok (), fun _ => .ok (), fun events _ => .ok events⟩

/-- The L1 block both batches are produced on. -/
def genesisBlock : L1Header := ⟨0, 0, 0⟩

/-- The genesis batch the executor recreates: its state root, and so its
hash, is zero. -/
def genesisHeader : BatchHeader := { zeroHeader with sequencerOrderNo := L2GenesisSeqNo }

/-- The batch the sequencer computes on it with one transfer. -/
def childBatch : Batch :=
  match computeBatch nonceExecutor (nonceContext [transferTx]) true with
  | .ok cb => cb.batch
  | .error _ => ⟨zeroHeader, []⟩

/-- The tables after the L1 block and the genesis batch are stored and a
pass has run. -/
def genesisPassState : ValidatorState :=
  (executeStoredBatches nonceValidatorEnv
    ⟨⟨writeTransactions (writeBatchHeader nonceExecutor.rlpHash (Storage.storeBlock Db.empty genesisBlock none)
      ⟨genesisHeader, []⟩ true) ⟨genesisHeader, []⟩, []⟩, none, ReceiptTables.empty⟩).1

/-- Then the sequencer's batch arrives. -/
def childState : ValidatorState :=
  { genesisPassState with store := ⟨writeTransactions (writeBatchHeader nonceExecutor.rlpHash
      genesisPassState.store.db childBatch true) childBatch, genesisPassState.store.executed⟩ }

theorem childState_reachable : Reachable nonceExecutor.rlpHash childState :=
  (((Relation.ReflTransGen.single (Step.storeBlock _ genesisBlock none)).tail
    (Step.storeBatch ⟨genesisHeader, []⟩ rfl)).tail (Step.executeStoredBatches nonceValidatorEnv _)).tail
    (Step.storeBatch childBatch rfl)

/-- In every state a validator enclave reaches, every batch marked executed,
but the genesis batch, has its L1 block stored and its parent marked
executed. -/
theorem reachable_executed_parent {rlpHash : BatchHeader → Hash} {v : ValidatorState}
    (hv : Reachable rlpHash v) :
    ∀ r ∈ v.store.db.batches, r.sequence ∈ v.store.executed → r.sequence ≠ L2GenesisSeqNo →
      batchWasExecuted v.store r.header.parentHash = true ∧
        (findBlock v.store.db r.header.l1Proof).isSome :=
  hv.executedClosed.closed

/-- A second pass executes the sequencer's batch: its parent, the genesis
batch, is executed and its block stored. -/
theorem reachable_executed_parent_childPass :
    batchWasExecuted (executeStoredBatches nonceValidatorEnv childState).1.store
        childBatch.header.parentHash = true ∧
      (findBlock (executeStoredBatches nonceValidatorEnv childState).1.store.db
        childBatch.header.l1Proof).isSome :=
  reachable_executed_parent (childState_reachable.tail (Step.executeStoredBatches nonceValidatorEnv _))
    ⟨3, childBatch.header.hash nonceExecutor.rlpHash, childBatch.header.number, true, childBatch.header,
      childBatch.header.l1Proof⟩ (by decide) (by decide) (by decide)


/-! ## A pass executes a stored chain -/

/-- A row is found under a key no other row has. -/
theorem find?_of_nodup {α : Type} [BEq α] [LawfulBEq α] (key : BatchRow → α) {rows : List BatchRow}
    (hnodup : (rows.map key).Nodup) {r : BatchRow} (hr : r ∈ rows) :
    rows.find? (fun x => key x == key r) = some r := by
  obtain ⟨x, hx⟩ : ∃ x, rows.find? (fun x => key x == key r) = some x :=
    Option.isSome_iff_exists.mp (List.find?_isSome.mpr ⟨r, hr, beq_self_eq_true _⟩)
  have hkey : key x = key r := by simpa using List.find?_some hx
  rw [hx, List.inj_on_of_nodup_map hnodup (List.mem_of_find?_eq_some hx) hr hkey]

/-- A batch marked executed by its own header is found executed under its
hash, when no two rows share a hash. -/
theorem batchWasExecuted_setExecuted_self {rlpHash : BatchHeader → Hash} {store : ExecutedDb}
    (hk : RowsKeyed store.db) (hhash : ∀ r ∈ store.db.batches, r.hash = r.header.hash rlpHash)
    (hdistinct : (store.db.batches.map BatchRow.hash).Nodup) {r : BatchRow}
    (hr : r ∈ store.db.batches) :
    batchWasExecuted (setExecuted rlpHash store r.header) (r.header.hash rlpHash) = true := by
  unfold setExecuted
  split
  · assumption
  · have hfind := find?_of_nodup BatchRow.hash hdistinct hr
    have hmark : r.sequence ∈ (markBatchExecuted store r.header.sequencerOrderNo).executed := by
      unfold markBatchExecuted
      rw [if_pos (List.any_eq_true.mpr ⟨r, hr, by simp [hk.sequence_eq r hr]⟩),
        hk.sequence_eq r hr]
      exact List.mem_cons_self
    unfold batchWasExecuted
    rw [markBatchExecuted_db, ← hhash r hr, hfind]
    simpa using hmark

/-- The transactions of a stored batch are read back under its sequence
number. -/
theorem fetchBatchTransactionsBySeq_of_row {db : Db} (hk : RowsKeyed db) {r : BatchRow}
    (hr : r ∈ db.batches) (hbound : r.header.sequencerOrderNo < 2 ^ 64) :
    fetchBatchTransactionsBySeq db (uint64 r.header.sequencerOrderNo) =
      .ok (readBatchTransactions db r.header.number) := by
  have hfind := find?_of_nodup BatchRow.sequence hk.nodup hr
  rw [hk.sequence_eq r hr] at hfind
  simp [fetchBatchTransactionsBySeq, toNat_uint64_natCast hbound, fetchBatchBySeqNo,
    fetchBatchHeaderBySeqNo, hfind, bind, Except.bind, pure, Except.pure, Functor.map, Except.map]

/-! ### Receipts the tables take -/

/-- The receipt and event tables take the logs the contracts of `events₀`
emit: their types are auto-visible or public, and they know every contract
`events₀` knows. -/
structure TablesReady (events₀ : Events.EventDb) (tables : ReceiptTables) : Prop where
  autoConfigured : tables.events.AutoConfigured
  contracts : ∀ a, (Events.readContract events₀ a).isSome →
    (Events.readContract tables.events a).isSome

/-- A result whose receipt is there and whose logs `storeEventLog` takes in
`events₀`. -/
def resultStorable (events₀ : Events.EventDb) (txExecResult : TxExecResult) : Bool :=
  match txExecResult.receipt with
  | none => false
  | some receipt => receipt.logs.all (Events.logStorable events₀)

/-- Storing the contracts a transaction created never fails, forgets no
contract and writes only auto-visible or public types. -/
def CreatesAutoConfigured
    (storeCreatedContracts : Events.EventDb → TxExecResult → Except Failure Events.EventDb) : Prop :=
  ∀ events txExecResult, events.AutoConfigured → ∃ events',
    storeCreatedContracts events txExecResult = .ok events' ∧ events'.AutoConfigured ∧
      ∀ a, (Events.readContract events a).isSome → (Events.readContract events' a).isSome

section Receipts

variable {storeCreatedContracts : Events.EventDb → TxExecResult → Except Failure Events.EventDb}
  {events₀ : Events.EventDb}

theorem storeReceiptAndEventLogs_ok (hcreated : CreatesAutoConfigured storeCreatedContracts)
    {tables : ReceiptTables} (ht : TablesReady events₀ tables) {txExecResult : TxExecResult}
    (hr : resultStorable events₀ txExecResult = true) :
    ∃ tables', storeReceiptAndEventLogs storeCreatedContracts tables txExecResult = .ok tables' ∧
      TablesReady events₀ tables' := by
  unfold resultStorable at hr
  unfold storeReceiptAndEventLogs
  split at hr
  · cases hr
  · rename_i receipt _
    obtain ⟨events₁, hstore₁, hauto₁, hcontracts₁⟩ :=
      hcreated tables.events txExecResult ht.autoConfigured
    -- the logs' contracts are known before the created ones are stored, and stay known
    have hlogs : ∀ l ∈ receipt.logs, Events.logStorable events₁ l = true := fun l hl =>
      Events.logStorable_mono (fun a ha => hcontracts₁ a (ht.contracts a ha))
        (List.all_eq_true.mp hr l hl)
    obtain ⟨events₂, hstore₂, hauto₂, hcontracts₂⟩ :=
      Events.storeEventLogs_ok (tables.receiptCount + 1) receipt.logs hauto₁ hlogs
    refine ⟨⟨events₂, tables.receiptCount + 1⟩, ?_, hauto₂, fun a ha => ?_⟩
    · rw [Result.bind_of_eq_ok hstore₁, Result.bind_of_eq_ok hstore₂]
      rfl
    · have hknown := hcontracts₁ a (ht.contracts a ha)
      simpa [Events.readContract, hcontracts₂] using hknown

theorem storeReceiptsAndEventLogs_ok (hcreated : CreatesAutoConfigured storeCreatedContracts) :
    ∀ {tables : ReceiptTables} (results : List TxExecResult), TablesReady events₀ tables →
      (∀ r ∈ results, resultStorable events₀ r = true) →
      ∃ tables', storeReceiptsAndEventLogs storeCreatedContracts tables results = .ok tables' ∧
        TablesReady events₀ tables'
  | tables, [], ht, _ => ⟨tables, rfl, ht⟩
  | tables, r :: rs, ht, hrs => by
    obtain ⟨tables₁, hstore, ht₁⟩ := storeReceiptAndEventLogs_ok hcreated ht (hrs r List.mem_cons_self)
    obtain ⟨tables', hrest, ht'⟩ := storeReceiptsAndEventLogs_ok hcreated rs ht₁ fun r' hr' =>
      hrs r' (List.mem_cons_of_mem _ hr')
    refine ⟨tables', ?_, ht'⟩
    rw [storeReceiptsAndEventLogs, Result.bind_of_eq_ok (Result.mapError_eq_ok.mpr hstore)]
    exact hrest

/-- A batch whose results the tables take is stored with its flag set. -/
theorem storeExecutedBatch_ok (hcreated : CreatesAutoConfigured storeCreatedContracts)
    (rlpHash : BatchHeader → Hash) (store : ExecutedDb) {tables : ReceiptTables}
    (ht : TablesReady events₀ tables) (batch : BatchHeader) {results : List TxExecResult}
    (hresults : ∀ r ∈ results, resultStorable events₀ r = true) :
    ∃ tables', storeExecutedBatch rlpHash storeCreatedContracts store tables batch results =
      .ok (setExecuted rlpHash store batch, tables') ∧ TablesReady events₀ tables' := by
  unfold storeExecutedBatch setExecuted
  split
  · exact ⟨tables, rfl, ht⟩
  · obtain ⟨tables', hstore, ht'⟩ := storeReceiptsAndEventLogs_ok hcreated results ht hresults
    refine ⟨tables', ?_, ht'⟩
    rw [Result.bind_of_eq_ok hstore]
    rfl

end Receipts

section Chain

variable {env : ValidatorEnv σ η} {db : Db} {events₀ : Events.EventDb}

/-- What a pass over a chain of stored batches needs: the rows keyed by
sequence number and by hash, no two with one hash; every batch stored, not
genesis, on a stored L1 block, executing without error, with results whose
receipts and logs the tables take, and below 2⁶⁴; the contracts created
stored as the tables take them; and the mempool's chain taking every
batch. -/
structure ChainReady (env : ValidatorEnv σ η) (db : Db) (events₀ : Events.EventDb)
    (batches : List BatchHeader) : Prop where
  keyed : RowsKeyed db
  hash_eq : ∀ r ∈ db.batches, r.hash = r.header.hash env.ex.rlpHash
  distinct : (db.batches.map BatchRow.hash).Nodup
  stored : ∀ b ∈ batches, ∃ r ∈ db.batches, r.header = b
  not_genesis : ∀ b ∈ batches, b.isGenesis = false
  block : ∀ b ∈ batches, (findBlock db b.l1Proof).isSome
  executes : ∀ b ∈ batches, ∃ results,
    executeBatch env.ex ⟨b, readBatchTransactions db b.number⟩ = .ok results ∧
      ∀ r ∈ results, resultStorable events₀ r = true
  bound : ∀ b ∈ batches, b.sequencerOrderNo < 2 ^ 64
  created : CreatesAutoConfigured env.storeCreatedContracts
  ingest : ∀ batch, env.ingestNewBlock batch = .ok ()

theorem ChainReady.tail {b : BatchHeader} {rest : List BatchHeader}
    (hready : ChainReady env db events₀ (b :: rest)) : ChainReady env db events₀ rest where
  keyed := hready.keyed
  hash_eq := hready.hash_eq
  distinct := hready.distinct
  stored b hb := hready.stored b (List.mem_cons_of_mem _ hb)
  not_genesis b hb := hready.not_genesis b (List.mem_cons_of_mem _ hb)
  block b hb := hready.block b (List.mem_cons_of_mem _ hb)
  executes b hb := hready.executes b (List.mem_cons_of_mem _ hb)
  bound b hb := hready.bound b (List.mem_cons_of_mem _ hb)
  created := hready.created
  ingest := hready.ingest

/-- One turn of the loop on a ready batch whose parent is executed: the
batch is executed, its receipts and logs stored and its flag set, and the
loop goes on. -/
theorem executeStoredBatchesLoop_cons {b : BatchHeader} {rest : List BatchHeader}
    (hready : ChainReady env db events₀ (b :: rest)) {v : ValidatorState} (hdb : v.store.db = db)
    (ht : TablesReady events₀ v.tables)
    (hparent : batchWasExecuted v.store b.parentHash = true) :
    ∃ tables', TablesReady events₀ tables' ∧ executeStoredBatchesLoop env v (b :: rest) =
      executeStoredBatchesLoop env
        (onBatchExecuted { v with store := setExecuted env.ex.rlpHash v.store b, tables := tables' } b)
        rest := by
  obtain ⟨r, hr, rfl⟩ := hready.stored _ List.mem_cons_self
  subst hdb
  have hpre : executionPrerequisites v.store r.header = .ok true := by
    obtain ⟨block, hblock⟩ := Option.isSome_iff_exists.mp (hready.block _ List.mem_cons_self)
    simp [executionPrerequisites, fetchBlock, hblock, hparent]
  obtain ⟨results, hexec, hstorable⟩ := hready.executes _ List.mem_cons_self
  obtain ⟨tables', hstore, ht'⟩ :=
    storeExecutedBatch_ok hready.created env.ex.rlpHash v.store ht r.header hstorable
  have hbody : executeBatchHeader env v r.header = (onBatchExecuted
      { v with store := setExecuted env.ex.rlpHash v.store r.header, tables := tables' } r.header,
        none) := by
    simp only [executeBatchHeader, fetchBatchTransactionsBySeq_of_row hready.keyed hr
      (hready.bound _ List.mem_cons_self), hexec, hstore, hready.ingest]
  refine ⟨tables', ht', ?_⟩
  simp only [executeStoredBatchesLoop, hready.not_genesis _ List.mem_cons_self, Bool.false_eq_true,
    if_false, hpre, if_true, hbody]

/-- A pass over a ready chain whose first batch has an executed parent
executes every batch of it, without error. The induction is on the chain;
the batch just executed is the parent of the next, and the tables take the
receipts of the next. -/
theorem executeStoredBatchesLoop_chain {batches : List BatchHeader} :
    ∀ {v : ValidatorState}, ChainReady env db events₀ batches → v.store.db = db →
      TablesReady events₀ v.tables →
      batches.IsChain (fun a b => b.parentHash = a.hash env.ex.rlpHash) →
      (∀ b ∈ batches.head?, batchWasExecuted v.store b.parentHash = true) →
      (executeStoredBatchesLoop env v batches).2 = none ∧
        ∀ b ∈ batches, batchWasExecuted (executeStoredBatchesLoop env v batches).1.store
          (b.hash env.ex.rlpHash) = true := by
  induction batches with
  | nil => exact fun _ _ _ _ _ => ⟨rfl, fun _ h => nomatch h⟩
  | cons b rest ih =>
    intro v hready hdb ht hchain hfirst
    obtain ⟨r, hr, rfl⟩ := hready.stored _ List.mem_cons_self
    obtain ⟨tables', ht', hloop⟩ := executeStoredBatchesLoop_cons hready hdb ht (hfirst _ rfl)
    rw [hloop]
    have hself : batchWasExecuted (setExecuted env.ex.rlpHash v.store r.header)
        (r.header.hash env.ex.rlpHash) = true := by
      subst hdb
      exact batchWasExecuted_setExecuted_self hready.keyed hready.hash_eq hready.distinct hr
    have hnext : ∀ b ∈ rest.head?, batchWasExecuted (setExecuted env.ex.rlpHash v.store r.header)
        b.parentHash = true := by
      intro b hb
      cases rest with
      | nil => cases hb
      | cons c rest =>
        obtain rfl : c = b := Option.some.inj hb
        rw [(List.isChain_cons_cons.mp hchain).1]
        exact hself
    obtain ⟨hnone, hall⟩ := ih (v := onBatchExecuted
        { v with store := setExecuted env.ex.rlpHash v.store r.header, tables := tables' } r.header)
      hready.tail (by simp [onBatchExecuted, hdb]) ht' (List.isChain_cons.mp hchain).2 hnext
    refine ⟨hnone, ?_⟩
    intro b hb
    rcases List.mem_cons.mp hb with rfl | hb
    · exact batchWasExecuted_executeStoredBatchesLoop env hself
    · exact hall b hb

/-- The stored batch is one the sequencer computed with the executor, from
candidates of distinct hashes, then signed; its transactions are stored at
its height, and its state commits. -/
def SequencerComputed (ex : BatchExecutor σ η) (db : Db) (b : BatchHeader) : Prop :=
  ∃ ctx failForEmptyBatch cb signature, computeBatch ex ctx failForEmptyBatch = .ok cb ∧
    (ctx.transactions.map Tx.hash).Nodup ∧ b = { cb.batch.header with signature := signature } ∧
    readBatchTransactions db b.number = cb.batch.transactions ∧ ∃ root, cb.commit = .ok root

/-- A batch the sequencer computed executes on the validator. -/
theorem executeBatch_of_computed {ex : BatchExecutor σ η} (hk : WellKeyed ex) {b : BatchHeader}
    (h : SequencerComputed ex db b) :
    ∃ results, executeBatch ex ⟨b, readBatchTransactions db b.number⟩ = .ok results := by
  obtain ⟨ctx, failForEmptyBatch, cb, signature, hcompute, hnodup, rfl, htxs, root, hcommit⟩ := h
  have hreplay : computeBatch ex (contextOf ⟨{ cb.batch.header with signature := signature },
      cb.batch.transactions⟩) false = .ok cb := computeBatch_replay ex hk hnodup hcompute
  refine ⟨cb.txExecResults, ?_⟩
  rw [htxs, executeBatch_of_hash ex hreplay (BatchHeader.hash_signature _ _ _).symm, hcommit]
  rfl

end Chain

end GoTen.Enclave.Validator
