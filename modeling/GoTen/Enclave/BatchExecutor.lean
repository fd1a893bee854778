import GoTen.Enclave.EvmFacade
import GoTen.Enclave.CrossChain
import GoTen.Verified.Result

/-!
# Producing and re-executing batches (`components/batch_executor.go`)

`ComputeBatch` builds the next batch on a parent batch and an L1 block:
it reads the inbound cross-chain messages, filters the candidate
transactions into priced and free ones against the pre-batch balances,
executes the priced ones (excluding those the EVM rejects, with the
rollback counter of `ExecuteTransactions`), runs the on-batch-end system
callback, then the synthetic cross-chain and free transactions, and fills
in the state root, the cross-chain data and the two tries.

`ExecuteBatch` is what a validator does with a batch it received: it builds
the execution context back from the batch header and its transactions, runs
`ComputeBatch` again and accepts the batch if the recomputed hash matches.

The source function is one long body; it is modelled as five stages that
follow the order of the source (`loadBatchContext`, `readInboundMessages`,
`filterTransactionsWithSufficientFunds`, `processTransactions`,
`finishBatch`), so that each can be read against its lines. The enclave's
collaborators (storage, EVM, trie hashing, system contracts) are the fields
of `BatchExecutor`.
-/

namespace GoTen.Enclave.BatchExecutor

set_option linter.dupNamespace false

open GoTen.Common
open GoTen.Verified
open GoTen.Enclave.EvmFacade
open GoTen.Enclave.CrossChain

variable {σ η : Type}

/-- `components.BatchExecutionContext`. `ChainConfig` is the enclave's one
chain configuration (the executor and the sequencer share it) and is left
out. -/
structure BatchExecutionContext where
  blockPtr : Hash
  parentPtr : Hash
  transactions : List Tx
  atTime : UInt64
  sequencerNo : Nat
  baseFee : Nat
  creator : Address
  deriving DecidableEq, Repr

/-- What `SystemContractCallbacks.CreateOnBatchEndTransaction` returns. -/
inductive OnBatchEnd where
  /-- `(tx, nil)`. -/
  | tx (t : Tx)
  /-- `(nil, nil)`: the post-processor address is not initialised. -/
  | none
  /-- `(nil, ErrNoTransactions)`: the batch has no successful transaction. -/
  | noTransactions
  /-- Any other error. -/
  | failed (msg : String)
  deriving DecidableEq, Repr

/-- The collaborators of `batchExecutor`: storage, the EVM, the cross-chain
processor, the gas oracle, the system contracts and the trie hashing. -/
structure BatchExecutor (σ η : Type) where
  /-- `storage.FetchBlock`. -/
  fetchBlock : Hash → Option L1Header
  /-- `storage.FetchBatchHeader`. -/
  fetchBatchHeader : Hash → Option BatchHeader
  /-- `batchRegistry.GetBatchState` at a batch hash. -/
  getBatchState : Hash → Except Failure σ
  /-- keccak of the RLP encoding of a batch header. -/
  rlpHash : BatchHeader → Hash
  evm : Evm σ η
  batchGasLimit : Nat
  /-- `crossChainProcessors.Local`. -/
  messageBus : MessageBusManager
  /-- `Local.RetrieveInboundMessages`. -/
  retrieveInboundMessages :
    L1Header → L1Header → σ → Except Failure (List CrossChainMessage × List ValueTransferEvent)
  /-- `Local.CreateSyntheticTransactions`. -/
  createSyntheticTransactions : List CrossChainMessage → σ → List Tx
  /-- `Local.ExecuteValueTransfers`. -/
  executeValueTransfers : List ValueTransferEvent → σ → σ
  /-- `core.GetAuthenticatedSender`. -/
  getAuthenticatedSender : Tx → Option Address
  /-- `StateDB.GetBalance`. -/
  getBalance : σ → Address → Nat
  /-- `gasOracle.EstimateL1StorageGasCost`. -/
  estimateL1StorageGasCost : Tx → Option L1Header → Except String Nat
  /-- `types.Receipts.DeriveFields` with the batch hash, number, time and
  base fee. -/
  deriveFields : List Receipt → Hash → Nat → UInt64 → Nat → List Tx → Except String (List Receipt)
  /-- `systemContracts.CreateOnBatchEndTransaction`. -/
  createOnBatchEndTransaction : σ → List Tx → List Receipt → OnBatchEnd
  /-- `systemContracts.VerifyOnBlockReceipt`: `ok && err == nil`. -/
  verifyOnBlockReceipt : List Tx → Option Receipt → Bool
  /-- `StateDB.IntermediateRoot`. -/
  intermediateRoot : σ → Hash
  /-- `types.DeriveSha` of receipts and of transactions, and `EmptyRootHash`. -/
  deriveShaReceipts : List Receipt → Hash
  deriveShaTxs : List Tx → Hash
  emptyRootHash : Hash
  /-- `smt.Of(xchainTree, CrossChainEncodings)` and `GetRoot`. -/
  merkleRoot : List (String × Hash) → Except String Hash
  /-- `json.Marshal(xchainTree)`. -/
  marshalTree : List (String × Hash) → List UInt8
  /-- The commit closure: `stateDB.Commit` and `trieDB.Commit`, plus system
  contract initialisation for the batch with sequence number 2. -/
  commit : σ → BatchHeader → List Receipt → Except Failure Hash

/-- `ComputedBatch`: the batch, the execution results, and the outcome of
calling its `Commit(true)` closure. -/
structure ComputedBatch where
  batch : Batch
  txExecResults : List TxExecResult
  commit : Except Failure Hash
  deriving DecidableEq

/-- `core.DeterministicEmptyBatch`. -/
def deterministicEmptyBatch (rlpHash : BatchHeader → Hash) (parent : BatchHeader)
    (block : L1Header) (time : UInt64) (sequencerNo baseFee : Nat) (coinbase : Address) :
    BatchHeader :=
  { parentHash := parent.hash rlpHash
    root := 0
    txHash := 0
    receiptHash := 0
    number := parent.number + 1
    sequencerOrderNo := sequencerNo
    gasLimit := parent.gasLimit
    gasUsed := 0
    time := time
    extra := []
    baseFee := baseFee
    coinbase := coinbase
    l1Proof := block.hash
    signature := []
    crossChainMessages := []
    latestInboundCrossChainHash := 0
    latestInboundCrossChainHeight := 0
    crossChainRoot := 0
    crossChainTree := [] }

/-- What `ComputeBatch` has after its first lines: the L1 block, the block of
the parent batch's proof, the empty batch and the parent state. -/
structure BatchInputs (σ : Type) where
  block : L1Header
  parentBlock : L1Header
  batch : BatchHeader
  stateDB : σ

/-- `ComputeBatch`, lines 145-178: fetch the L1 block and the parent batch,
the parent's proof block, build the empty batch and load the parent state. -/
def loadBatchContext (ex : BatchExecutor σ η) (ctx : BatchExecutionContext) :
    Except Failure (BatchInputs σ) := do
  let some block := ex.fetchBlock ctx.blockPtr
    | throw (.error "block for batch not found")
  let some parentBatch := ex.fetchBatchHeader ctx.parentPtr
    | throw (.error "ancestor batch not found")
  let parentBlock ← (if parentBatch.l1Proof ≠ block.hash then
      match ex.fetchBlock parentBatch.l1Proof with
      | some b => pure b
      | none => throw (.error "could not retrieve a proof for the parent batch")
    else pure block)
  let batch := deterministicEmptyBatch ex.rlpHash parentBatch block ctx.atTime ctx.sequencerNo
    ctx.baseFee ctx.creator
  let stateDB ← ex.getBatchState batch.parentHash
  return ⟨block, parentBlock, batch, stateDB⟩

/-- `ComputeBatch`, lines 180-187: inbound messages (skipped for the first
two batches), the synthetic transactions for them, and the value transfers
applied to the state. -/
def readInboundMessages (ex : BatchExecutor σ η) (sequencerNo : Nat) (parentBlock block : L1Header)
    (stateDB : σ) :
    Except Failure (List CrossChainMessage × List ValueTransferEvent × List Tx × σ) := do
  let (messages, transfers) ← (if sequencerNo > L2GenesisSeqNo + 1 then
      ex.retrieveInboundMessages parentBlock block stateDB
    else pure ([], []))
  let crossChainTransactions := ex.createSyntheticTransactions messages stateDB
  let stateDB := ex.executeValueTransfers transfers stateDB
  return (messages, transfers, crossChainTransactions, stateDB)

/-- Where one candidate transaction ends up in
`filterTransactionsWithSufficientFunds`. -/
inductive TxClass where
  | dropped
  | free (t : PricedTx)
  | priced (t : PricedTx)
  deriving DecidableEq, Repr

/-- The body of the loop of `filterTransactionsWithSufficientFunds` for one
transaction: dropped when its sender or L1 cost cannot be determined; free
(cost zero) when its fee cap and gas price are zero; priced with its L1 cost
when the sender's pre-batch balance covers it, dropped otherwise.
`uint256.MustFromBig(cost)` panics on a cost of 256 bits or more. -/
def classifyTx (ex : BatchExecutor σ η) (stateDB : σ) (block : Option L1Header) (tx : Tx) :
    Except Failure TxClass :=
  match ex.getAuthenticatedSender tx with
  | none => pure .dropped
  | some sender =>
      match ex.estimateL1StorageGasCost tx block with
      | .error _ => pure .dropped
      | .ok cost =>
          if tx.gasFeeCap = 0 ∧ tx.gasPrice = 0 then
            pure (.free ⟨tx, 0⟩)
          else if 2 ^ 256 ≤ cost then
            throw (.panic "uint256: overflow")
          else if ex.getBalance stateDB sender < cost then
            pure .dropped
          else
            pure (.priced ⟨tx, cost⟩)

/-- `filterTransactionsWithSufficientFunds`: the priced and the free
transactions, each list in the order of the candidates. -/
def filterTransactionsWithSufficientFunds (ex : BatchExecutor σ η) (stateDB : σ)
    (block : Option L1Header) : List Tx → Except Failure (List PricedTx × List PricedTx)
  | [] => .ok ([], [])
  | tx :: txs => do
      let c ← classifyTx ex stateDB block tx
      let rest ← filterTransactionsWithSufficientFunds ex stateDB block txs
      match c with
      | .dropped => return rest
      | .free t => return (rest.1, t :: rest.2)
      | .priced t => return (t :: rest.1, rest.2)

/-- `verifySyntheticTransactionsSuccess`. -/
def verifySyntheticTransactionsSuccess (transactions : List PricedTx) (executedTxs : List Tx)
    (results : List TxExecResult) : Except Failure Unit := do
  Result.check (transactions.length ≠ executedTxs.length)
    (.error "some synthetic transactions have not been executed")
  Result.check (!results.all fun r => r.receipt.map Receipt.status == some 1)
    (.error "found a failed receipt for a synthetic transaction")

/-- `populateOutboundCrossChainData`: the outbound messages and transfers of
the batch's receipts, the Merkle tree of their leaves (transfers first), and
the L1 block scanned for inbound messages. -/
def populateOutboundCrossChainData (ex : BatchExecutor σ η) (header : BatchHeader)
    (block : L1Header) (receipts : List Receipt) : Except Failure BatchHeader := do
  let crossChainMessages ← extractOutboundMessages ex.messageBus receipts
  let valueTransferMessages ← extractOutboundTransfers ex.messageBus receipts
  let transfers ← (if valueTransferMessages ≠ [] then
      transfersForMerkleTree ex.messageBus.keccak256 valueTransferMessages
    else pure [])
  let messages := if crossChainMessages ≠ [] then
      messagesForMerkleTree ex.messageBus.keccak256 crossChainMessages
    else []
  let xchainTree := transfers ++ messages
  let hasMessages := valueTransferMessages ≠ [] ∨ crossChainMessages ≠ []
  let (crossChainTree, xchainHash) ← (if hasMessages then do
      let root ← (ex.merkleRoot xchainTree).mapError Failure.error
      pure (ex.marshalTree xchainTree, root)
    else pure (header.crossChainTree, 0))
  return { header with
    crossChainTree := crossChainTree
    crossChainMessages := crossChainMessages
    crossChainRoot := xchainHash
    latestInboundCrossChainHash := block.hash
    latestInboundCrossChainHeight := block.number }

/-- `populateHeader`: the receipt and transaction tries. -/
def populateHeader (ex : BatchExecutor σ η) (header : BatchHeader) (transactions : List Tx)
    (receipts : List Receipt) : BatchHeader :=
  { header with
    receiptHash := if receipts = [] then ex.emptyRootHash else ex.deriveShaReceipts receipts
    txHash := if transactions = [] then ex.emptyRootHash else ex.deriveShaTxs transactions }

/-- The results with their receipts replaced, in order: `DeriveFields` and
the block-hash loop rewrite the receipt objects the results point to. -/
def withReceipts : List TxExecResult → List Receipt → List TxExecResult
  | r :: rs, rec :: recs => { r with receipt := some rec } :: withReceipts rs recs
  | rs, _ => rs

/-- `ComputeBatch`, lines 212-243: the on-batch-end callback. Returns the
offset the synthetic transactions start after and the state. -/
def runOnBatchEnd (ex : BatchExecutor σ η) (batch : BatchHeader) (sequencerNo : Nat)
    (successfulTxs : List Tx) (txReceipts : List Receipt) (stateDB : σ) :
    Except Failure (Nat × σ) :=
  match ex.createOnBatchEndTransaction stateDB successfulTxs txReceipts with
  | .failed e => throw (.error e)
  | .noTransactions => pure (0, stateDB)
  | .none =>
      if sequencerNo > 2 then
        throw (.crit "Bootstrapping of network failed! System contract hooks have not been initialised after genesis.")
      else pure (0, stateDB)
  | .tx onBlockTx => do
      let onBlockPricedTxes : List PricedTx := [⟨onBlockTx, 0⟩]
      let (onBlockSuccessfulTx, _, onBlockTxResult, stateDB) ←
        processTransactions ex.evm batch successfulTxs.length onBlockPricedTxes stateDB true
          ex.batchGasLimit
      verifySyntheticTransactionsSuccess onBlockPricedTxes onBlockSuccessfulTx onBlockTxResult
      match onBlockTxResult with
      | [] => throw (.panic "index out of range [0] with length 0")
      | result :: _ =>
          if ex.verifyOnBlockReceipt successfulTxs result.receipt then pure (1, stateDB)
          else throw (.error "VerifyOnBlockReceipt failed")

/-- `ComputeBatch`, lines 206-328, after the priced transactions ran: derive
the receipt fields, run the callback and the synthetic transactions, refuse
an empty batch when asked to, and assemble the header. -/
def finishBatch (ex : BatchExecutor σ η) (sequencerNo : Nat) (failForEmptyBatch : Bool)
    (block : L1Header) (batch : BatchHeader) (messages : List CrossChainMessage)
    (transfers : List ValueTransferEvent) (crossChainTransactions : List Tx)
    (transactionsToProcess freeTransactions : List PricedTx)
    (successfulTxs excludedTxs : List Tx) (txResults : List TxExecResult) (stateDB : σ) :
    Except Failure ComputedBatch := do
  let syntheticTransactions :=
    crossChainTransactions.map (fun t => (⟨t, 0⟩ : PricedTx)) ++ freeTransactions
  let txReceipts ← (ex.deriveFields (txResults.filterMap TxExecResult.receipt)
    (batch.hash ex.rlpHash) batch.number batch.time batch.baseFee successfulTxs).mapError Failure.error
  let (onBatchTxOffset, stateDB) ←
    runOnBatchEnd ex batch sequencerNo successfulTxs txReceipts stateDB
  let (ccSuccessfulTxs, _, ccTxResults, stateDB) ←
    processTransactions ex.evm batch (successfulTxs.length + onBatchTxOffset)
      syntheticTransactions stateDB true ex.batchGasLimit
  Result.check (ccSuccessfulTxs.length ≠ syntheticTransactions.length)
    (.error "failed cross chain transactions")
  let ccReceipts := ccTxResults.filterMap TxExecResult.receipt
  verifySyntheticTransactionsSuccess syntheticTransactions ccSuccessfulTxs ccTxResults
  Result.check (failForEmptyBatch && txResults.isEmpty && ccTxResults.isEmpty &&
      transactionsToProcess.length - excludedTxs.length == 0 && crossChainTransactions.isEmpty &&
      messages.isEmpty && transfers.isEmpty)
    (.error "no transactions to process")
  let transactions := successfulTxs ++ freeTransactions.map PricedTx.tx
  let header ← populateOutboundCrossChainData ex
    { batch with root := ex.intermediateRoot stateDB } block txReceipts
  let allReceipts := txReceipts ++ ccReceipts
  let header := populateHeader ex header transactions allReceipts
  let allReceipts := allReceipts.map fun r => { r with blockHash := header.hash ex.rlpHash }
  return { batch := ⟨header, transactions⟩
           txExecResults := withReceipts (txResults ++ ccTxResults) allReceipts
           commit := ex.commit stateDB batch allReceipts }

/-- `batchExecutor.ComputeBatch`. -/
def computeBatch (ex : BatchExecutor σ η) (ctx : BatchExecutionContext)
    (failForEmptyBatch : Bool) : Except Failure ComputedBatch := do
  let ⟨block, parentBlock, batch, stateDB⟩ ← loadBatchContext ex ctx
  let (messages, transfers, crossChainTransactions, stateDB) ←
    readInboundMessages ex ctx.sequencerNo parentBlock block stateDB
  let (transactionsToProcess, freeTransactions) ←
    filterTransactionsWithSufficientFunds ex stateDB (some block) ctx.transactions
  let (successfulTxs, excludedTxs, txResults, stateDB) ←
    processTransactions ex.evm batch 0 transactionsToProcess stateDB false ex.batchGasLimit
  finishBatch ex ctx.sequencerNo failForEmptyBatch block batch messages transfers
    crossChainTransactions transactionsToProcess freeTransactions successfulTxs excludedTxs
    txResults stateDB

/-- The context a validator rebuilds from a batch it received. -/
def contextOf (batch : Batch) : BatchExecutionContext :=
  { blockPtr := batch.header.l1Proof
    parentPtr := batch.header.parentHash
    transactions := batch.transactions
    atTime := batch.header.time
    sequencerNo := batch.header.sequencerOrderNo
    baseFee := batch.header.baseFee
    creator := batch.header.coinbase }

/-- `batchExecutor.ExecuteBatch`: recompute, compare hashes, commit. -/
def executeBatch (ex : BatchExecutor σ η) (batch : Batch) :
    Except Failure (List TxExecResult) := do
  let cb ← computeBatch ex (contextOf batch) false
  Result.check (cb.batch.header.hash ex.rlpHash ≠ batch.header.hash ex.rlpHash)
    (.error "batch is in invalid state")
  let _ ← cb.commit
  return cb.txExecResults

/-! ## Re-executing the survivors -/

section Replay

variable (ex : BatchExecutor σ η)

/-- The storage is keyed by hash: a block or batch header is found under its
own hash. -/
structure WellKeyed (ex : BatchExecutor σ η) : Prop where
  block_hash : ∀ h b, ex.fetchBlock h = some b → b.hash = h
  batch_hash : ∀ h p, ex.fetchBatchHeader h = some p → p.hash ex.rlpHash = h

theorem filter_nil (stateDB : σ) (block : Option L1Header) :
    filterTransactionsWithSufficientFunds ex stateDB block [] = .ok ([], []) := rfl

/-- A free transaction is kept as itself. -/
theorem classifyTx_free_tx {stateDB : σ} {block : Option L1Header} {tx : Tx} {t : PricedTx}
    (h : classifyTx ex stateDB block tx = .ok (.free t)) : t.tx = tx := by
  unfold classifyTx at h
  split at h
  · cases h
  · split at h
    · cases h
    · split_ifs at h <;> cases h
      rfl

/-- A priced transaction is kept as itself. -/
theorem classifyTx_priced_tx {stateDB : σ} {block : Option L1Header} {tx : Tx} {t : PricedTx}
    (h : classifyTx ex stateDB block tx = .ok (.priced t)) : t.tx = tx := by
  unfold classifyTx at h
  split at h
  · cases h
  · split at h
    · cases h
    · split_ifs at h <;> cases h
      rfl

/-- A successful filter classified every kept transaction as it kept it. -/
theorem filter_classified {stateDB : σ} {block : Option L1Header} {txs : List Tx}
    {priced free : List PricedTx}
    (h : filterTransactionsWithSufficientFunds ex stateDB block txs = .ok (priced, free)) :
    (∀ p ∈ priced, classifyTx ex stateDB block p.tx = .ok (.priced p)) ∧
      (∀ p ∈ free, classifyTx ex stateDB block p.tx = .ok (.free p)) := by
  induction txs generalizing priced free with
  | nil =>
      simp only [filter_nil, Except.ok.injEq, Prod.mk.injEq] at h
      obtain ⟨rfl, rfl⟩ := h
      simp
  | cons tx txs ih =>
      simp only [filterTransactionsWithSufficientFunds, Result.bind_eq_ok] at h
      obtain ⟨c, hc, ⟨p', f'⟩, hrest, hcomb⟩ := h
      obtain ⟨ihp, ihf⟩ := ih hrest
      cases c with
      | dropped =>
          simp only [pure, Except.pure, Except.ok.injEq, Prod.mk.injEq] at hcomb
          obtain ⟨rfl, rfl⟩ := hcomb
          exact ⟨ihp, ihf⟩
      | free t =>
          simp only [pure, Except.pure, Except.ok.injEq, Prod.mk.injEq] at hcomb
          obtain ⟨rfl, rfl⟩ := hcomb
          refine ⟨ihp, ?_⟩
          intro p hp
          rcases List.mem_cons.mp hp with rfl | hp
          · rw [classifyTx_free_tx ex hc, hc]
          · exact ihf p hp
      | priced t =>
          simp only [pure, Except.pure, Except.ok.injEq, Prod.mk.injEq] at hcomb
          obtain ⟨rfl, rfl⟩ := hcomb
          refine ⟨?_, ihf⟩
          intro p hp
          rcases List.mem_cons.mp hp with rfl | hp
          · rw [classifyTx_priced_tx ex hc, hc]
          · exact ihp p hp

/-- Filtering again transactions whose class is known keeps them where they
were: the priced ones, then the free ones. -/
theorem filter_reclassified {stateDB : σ} {block : Option L1Header} (priced free : List PricedTx)
    (hpriced : ∀ p ∈ priced, classifyTx ex stateDB block p.tx = .ok (.priced p))
    (hfree : ∀ p ∈ free, classifyTx ex stateDB block p.tx = .ok (.free p)) :
    filterTransactionsWithSufficientFunds ex stateDB block
      (priced.map PricedTx.tx ++ free.map PricedTx.tx) = .ok (priced, free) := by
  induction priced with
  | nil =>
      induction free with
      | nil => rfl
      | cons f free ih =>
          have hf := hfree f List.mem_cons_self
          have hrest := ih fun p hp => hfree p (List.mem_cons_of_mem _ hp)
          simp only [List.map_nil, List.nil_append, List.map_cons] at hrest ⊢
          simp only [filterTransactionsWithSufficientFunds, hf, hrest]
          rfl
  | cons p priced ih =>
      have hp := hpriced p List.mem_cons_self
      have hrest := ih fun q hq => hpriced q (List.mem_cons_of_mem _ hq)
      simp only [List.map_cons, List.cons_append]
      simp only [filterTransactionsWithSufficientFunds, hp, hrest]
      rfl

/-- The priced transactions appear among the candidates in their order. -/
theorem filter_priced_sublist {stateDB : σ} {block : Option L1Header} {txs : List Tx}
    {priced free : List PricedTx}
    (h : filterTransactionsWithSufficientFunds ex stateDB block txs = .ok (priced, free)) :
    (priced.map PricedTx.tx).Sublist txs := by
  induction txs generalizing priced free with
  | nil =>
      simp only [filter_nil, Except.ok.injEq, Prod.mk.injEq] at h
      obtain ⟨rfl, rfl⟩ := h
      simp
  | cons tx txs ih =>
      simp only [filterTransactionsWithSufficientFunds, Result.bind_eq_ok] at h
      obtain ⟨c, hc, ⟨p', f'⟩, hrest, hcomb⟩ := h
      have hsub := ih hrest
      cases c with
      | dropped =>
          simp only [pure, Except.pure, Except.ok.injEq, Prod.mk.injEq] at hcomb
          obtain ⟨rfl, rfl⟩ := hcomb
          exact hsub.cons tx
      | free t =>
          simp only [pure, Except.pure, Except.ok.injEq, Prod.mk.injEq] at hcomb
          obtain ⟨rfl, rfl⟩ := hcomb
          exact hsub.cons tx
      | priced t =>
          simp only [pure, Except.pure, Except.ok.injEq, Prod.mk.injEq] at hcomb
          obtain ⟨rfl, rfl⟩ := hcomb
          rw [List.map_cons, classifyTx_priced_tx ex hc]
          exact hsub.cons_cons tx

/-- `populateOutboundCrossChainData` writes the five cross-chain fields of the
header and nothing else. -/
theorem populateOutboundCrossChainData_fields {header h : BatchHeader} {block : L1Header}
    {receipts : List Receipt}
    (hp : populateOutboundCrossChainData ex header block receipts = .ok h) :
    ∃ tree msgs root, h = { header with
      crossChainTree := tree
      crossChainMessages := msgs
      crossChainRoot := root
      latestInboundCrossChainHash := block.hash
      latestInboundCrossChainHeight := block.number } := by
  unfold populateOutboundCrossChainData at hp
  simp only [Result.bind_eq_ok] at hp
  obtain ⟨msgs, -, vts, -, trs, -, ⟨tree, root⟩, -, hret⟩ := hp
  exact ⟨tree, msgs, root, (Result.pure_eq_ok.mp hret).symm⟩

/-- A computed batch carries the executed then the free transactions, and the
context fields of the empty batch it was built on. -/
theorem finishBatch_batch {sequencerNo : Nat} {failForEmptyBatch : Bool} {block : L1Header}
    {batch : BatchHeader} {messages transfers crossChainTransactions transactionsToProcess}
    {freeTransactions : List PricedTx} {successfulTxs excludedTxs txResults} {stateDB : σ}
    {cb : ComputedBatch}
    (h : finishBatch ex sequencerNo failForEmptyBatch block batch messages transfers
      crossChainTransactions transactionsToProcess freeTransactions successfulTxs excludedTxs
      txResults stateDB = .ok cb) :
    cb.batch.transactions = successfulTxs ++ freeTransactions.map PricedTx.tx ∧
      contextOf cb.batch = contextOf ⟨batch, successfulTxs ++ freeTransactions.map PricedTx.tx⟩ := by
  unfold finishBatch at h
  simp only [Result.bind_eq_ok] at h
  obtain ⟨_, -, _, -, _, -, _, -, _, -, _, -, header, hpop, hret⟩ := h
  obtain ⟨tree, msgs, root, rfl⟩ := populateOutboundCrossChainData_fields ex hpop
  rw [← Result.pure_eq_ok.mp hret]
  exact ⟨rfl, rfl⟩

/-- `finishBatch` reads the priced candidates and the excluded transactions
only for the empty-batch guard, which a validator does not raise: its
replay on the same executed transactions builds the same batch. -/
theorem finishBatch_replay {sequencerNo : Nat} {failForEmptyBatch : Bool} {block : L1Header}
    {batch : BatchHeader} {messages transfers crossChainTransactions transactionsToProcess}
    {freeTransactions : List PricedTx} {successfulTxs excludedTxs txResults} {stateDB : σ}
    {cb : ComputedBatch} (transactionsToProcess' : List PricedTx) (excludedTxs' : List Tx)
    (h : finishBatch ex sequencerNo failForEmptyBatch block batch messages transfers
      crossChainTransactions transactionsToProcess freeTransactions successfulTxs excludedTxs
      txResults stateDB = .ok cb) :
    finishBatch ex sequencerNo false block batch messages transfers crossChainTransactions
      transactionsToProcess' freeTransactions successfulTxs excludedTxs' txResults stateDB =
        .ok cb := by
  unfold finishBatch at h ⊢
  simp only [Result.bind_eq_ok] at h
  obtain ⟨receipts, hrec, onEnd, hon, cc, hcc, u1, hchk, u2, hver, _, -, header, hpop, hret⟩ := h
  simp only [Result.bind_of_eq_ok hrec, Result.bind_of_eq_ok hon, Result.bind_of_eq_ok hcc,
    Result.bind_of_eq_ok hchk, Result.bind_of_eq_ok hver, Bool.false_and, Result.check_false,
    Result.bind_of_eq_ok hpop]
  exact hret

/-- The first stage does not read the candidate transactions. -/
theorem loadBatchContext_transactions (ctx : BatchExecutionContext) (txs : List Tx) :
    loadBatchContext ex { ctx with transactions := txs } = loadBatchContext ex ctx := rfl

/-- In a storage keyed by hash, the empty batch points back at the block and
the parent of the context, so the context is rebuilt from its header. -/
theorem loadBatchContext_context (hk : WellKeyed ex) {ctx : BatchExecutionContext}
    {inputs : BatchInputs σ} (h : loadBatchContext ex ctx = .ok inputs) (txs : List Tx) :
    contextOf ⟨inputs.batch, txs⟩ = { ctx with transactions := txs } := by
  unfold loadBatchContext at h
  cases hb : ex.fetchBlock ctx.blockPtr with
  | none => simp [hb] at h
  | some block =>
    cases hp : ex.fetchBatchHeader ctx.parentPtr with
    | none => simp [hb, hp] at h
    | some parent =>
      simp only [hb, hp, Result.bind_eq_ok] at h
      obtain ⟨_, -, db, -, hret⟩ := h
      rw [← Result.pure_eq_ok.mp hret]
      simp [contextOf, deterministicEmptyBatch, hk.block_hash _ _ hb, hk.batch_hash _ _ hp]

/-- The priced candidates of distinct hashes have distinct hashes. -/
theorem filter_priced_nodup {stateDB : σ} {block : Option L1Header} {txs : List Tx}
    {priced free : List PricedTx} (hnodup : (txs.map Tx.hash).Nodup)
    (h : filterTransactionsWithSufficientFunds ex stateDB block txs = .ok (priced, free)) :
    (priced.map (·.tx.hash)).Nodup := by
  have hsub := (filter_priced_sublist ex h).map Tx.hash
  rw [List.map_map] at hsub
  exact hsub.nodup hnodup

/-- Replaying a computed batch: the context rebuilt from the batch, holding
only the survivors, computes the same batch. -/
theorem computeBatch_replay (hk : WellKeyed ex) {ctx : BatchExecutionContext}
    {failForEmptyBatch : Bool} {cb : ComputedBatch}
    (hnodup : (ctx.transactions.map Tx.hash).Nodup)
    (h : computeBatch ex ctx failForEmptyBatch = .ok cb) :
    computeBatch ex (contextOf cb.batch) false = .ok cb := by
  unfold computeBatch at h
  simp only [Result.bind_eq_ok] at h
  obtain ⟨⟨block, parentBlock, batch, db⟩, hload, ⟨msgs, trs, cc, db1⟩, hread, ⟨tp, fr⟩, hfilter,
    ⟨S, E, R, db2⟩, hproc, hfin⟩ := h
  obtain ⟨survivors, hsub, hS, hproc'⟩ := processTransactions_survivors ex.evm batch 0 tp db1 false
    ex.batchGasLimit (filter_priced_nodup ex hnodup hfilter) hproc
  obtain ⟨hpriced, hfree⟩ := filter_classified ex hfilter
  have hfilter' : filterTransactionsWithSufficientFunds ex db1 (some block)
      (S ++ fr.map PricedTx.tx) = .ok (survivors, fr) := by
    rw [← hS]
    exact filter_reclassified ex survivors fr (fun p hp => hpriced p (hsub.subset hp)) hfree
  have hctx : contextOf cb.batch = { ctx with transactions := S ++ fr.map PricedTx.tx } := by
    rw [(finishBatch_batch ex hfin).2, loadBatchContext_context ex hk hload]
  rw [hctx]
  unfold computeBatch
  simp only [loadBatchContext_transactions, Result.bind_of_eq_ok hload, Result.bind_of_eq_ok hread,
    Result.bind_of_eq_ok hfilter', Result.bind_of_eq_ok hproc']
  exact finishBatch_replay ex survivors [] hfin

/-- `ExecuteBatch` accepts a batch whose recomputation has its hash, with the
outcome of committing the recomputed batch. -/
theorem executeBatch_of_hash {batch : Batch} {cb : ComputedBatch}
    (h : computeBatch ex (contextOf batch) false = .ok cb)
    (hhash : cb.batch.header.hash ex.rlpHash = batch.header.hash ex.rlpHash) :
    executeBatch ex batch = (do let _ ← cb.commit; pure cb.txExecResults) := by
  unfold executeBatch
  rw [Result.bind_of_eq_ok h, hhash]
  simp only [ne_eq, not_true_eq_false, decide_false, Result.bind_of_eq_ok (Result.check_false _)]

/-- A validator re-executing a batch the sequencer computed from candidates of
distinct hashes, signed with any signature, recomputes that very batch: the
hash check passes and the outcome is that of committing the batch. -/
theorem executeBatch_accepts_computed (hk : WellKeyed ex) {ctx : BatchExecutionContext}
    {failForEmptyBatch : Bool} {cb : ComputedBatch}
    (hnodup : (ctx.transactions.map Tx.hash).Nodup)
    (h : computeBatch ex ctx failForEmptyBatch = .ok cb) (signature : List UInt8) :
    computeBatch ex (contextOf cb.batch) false = .ok cb ∧
      executeBatch ex ⟨{ cb.batch.header with signature := signature }, cb.batch.transactions⟩ =
        (do let _ ← cb.commit; pure cb.txExecResults) := by
  have hreplay := computeBatch_replay ex hk hnodup h
  exact ⟨hreplay, executeBatch_of_hash ex hreplay (BatchHeader.hash_signature _ _ _).symm⟩

end Replay

/-! ## An executor whose EVM refuses a replayed transaction -/

/-- The header every field of which is zero or empty. -/
def zeroHeader : BatchHeader :=
  ⟨0, 0, 0, 0, 0, 0, 0, 0, 0, [], 0, 0, 0, [], [], 0, 0, 0, []⟩

/-- An EVM whose state is the nonce of the one sender: a transaction runs
only on a fresh account, and uses the nonce up. -/
def nonceEvm : Evm Nat Unit where
  createEthHeaderForBatch _ := .ok ()
  executeTransaction s _ _ t pos _ :=
    if s.stateDB = 0 then .ok (⟨t.tx.hash, 1, pos, 0, [], 0⟩, { s with stateDB := 1 })
    else .error "nonce too low"
  finalise s := s

/-- One L1 block and one parent batch, both stored under hash zero; the state
root is the nonce and the hash of a header is its state root. -/
def nonceExecutor : BatchExecutor Nat Unit where
  fetchBlock h := if h = 0 then some ⟨0, 0, 0⟩ else none
  fetchBatchHeader h := if h = 0 then some zeroHeader else none
  getBatchState _ := .ok 0
  rlpHash h := h.root
  evm := nonceEvm
  batchGasLimit := 0
  messageBus := ⟨0, ⟨1, 2, fun _ => .error "no event", fun _ => .error "no event"⟩, fun _ => 0⟩
  retrieveInboundMessages _ _ _ := .ok ([], [])
  createSyntheticTransactions _ _ := []
  executeValueTransfers _ s := s
  getAuthenticatedSender _ := some 0
  getBalance _ _ := 0
  estimateL1StorageGasCost _ _ := .ok 0
  deriveFields rs _ _ _ _ _ := .ok rs
  createOnBatchEndTransaction _ _ _ := .noTransactions
  verifyOnBlockReceipt _ _ := true
  intermediateRoot n := BitVec.ofNat 256 n
  deriveShaReceipts _ := 0
  deriveShaTxs _ := 0
  emptyRootHash := 0
  merkleRoot _ := .ok 0
  marshalTree _ := []
  commit _ _ _ := .ok 0

theorem nonceExecutor_wellKeyed : WellKeyed nonceExecutor := by
  constructor
  · intro h b hb
    simp only [nonceExecutor] at hb
    split_ifs at hb with h0
    cases hb
    exact h0.symm
  · intro h p hp
    simp only [nonceExecutor] at hp
    split_ifs at hp with h0
    cases hp
    exact h0.symm

/-- The context of the third batch on the stored parent and block. -/
def nonceContext (txs : List Tx) : BatchExecutionContext :=
  ⟨0, 0, txs, 0, 3, 0, 0⟩

/-- A priced transfer. -/
def transferTx : Tx := ⟨5, 1, 1, none⟩

theorem executeBatch_accepts_nonceExecutor :
    ∃ cb, computeBatch nonceExecutor (nonceContext [transferTx]) true = .ok cb ∧
      computeBatch nonceExecutor (contextOf cb.batch) false = .ok cb ∧
        executeBatch nonceExecutor ⟨{ cb.batch.header with signature := [1] },
          cb.batch.transactions⟩ = (do let _ ← cb.commit; pure cb.txExecResults) := by
  obtain ⟨cb, hcb⟩ : ∃ cb, computeBatch nonceExecutor (nonceContext [transferTx]) true = .ok cb :=
    ⟨_, rfl⟩
  exact ⟨cb, hcb,
    executeBatch_accepts_computed nonceExecutor nonceExecutor_wellKeyed (by decide) hcb [1]⟩

/-- The same transaction offered twice: the first run succeeds and the second
is refused, and the refusal overwrites the success in the result map, so the
batch lists no transaction while its state root holds the first run. The
validator, given no transaction, computes another root and rejects it. -/
theorem executeBatch_rejects_repeated_candidate :
    ∃ cb, computeBatch nonceExecutor (nonceContext [transferTx, transferTx]) false = .ok cb ∧
      cb.batch.transactions = [] ∧
      executeBatch nonceExecutor cb.batch = .error (.error "batch is in invalid state") :=
  ⟨_, rfl, rfl, rfl⟩

end GoTen.Enclave.BatchExecutor
