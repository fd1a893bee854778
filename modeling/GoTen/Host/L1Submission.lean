import GoTen.Enclave.RollupConsumer

/-!
# Handing an L1 block to the enclave (`FetchObscuroReceipts`, `submitL1Block`)

For every L1 block, the host's guardian fetches the receipts of the block's
TEN-relevant transactions, picks out what the enclave needs, and submits
the block with those transactions to the enclave, which never sees the
block again once it is accepted.

`Repository.FetchObscuroReceipts` builds a list of receipts aligned with the
block's transactions: a transaction is relevant when it emitted a log from
one of the TEN contracts or is sent to one; every other one gets a dummy
receipt without a block number. The receipt of a relevant transaction is
fetched from the L1 node; when the fetch fails or returns nil, the slot is
left nil. `Publisher.ExtractRelevantTenTransactions` then reads the block
number of every slot to skip the dummies.

The L1 client, the blob resolver and the enclave client are parameters.

## Main results

* `fetchObscuroReceipts_eq`: the receipts are aligned with the
  transactions: a dummy for an irrelevant one, the fetched receipt for a
  relevant one, nil where the fetch failed.
* `extractRelevantTenTransactions_complete`: when every relevant receipt is
  fetched, the enclave gets every relevant transaction, in block order,
  each with its own receipt.
* `submitL1Block_receiptFetchFails`: when the fetch of the first relevant
  transaction's receipt fails, the host panics before it submits the block.
-/

namespace GoTen.Host.L1Submission

open GoTen.Common
open GoTen.Verified
open GoTen.EthAdapter.Blob
open GoTen.EthAdapter.MgmtContractLib
open GoTen.Enclave.RollupConsumer

/-- A transaction of an L1 block: its hash, and what `DecodeTx` reads. -/
structure BlockTx where
  hash : Hash
  tx : L1Tx
  deriving DecidableEq, Repr

/-- `common.L1Block`: the header and the transactions. -/
structure L1Block where
  header : L1Header
  transactions : List BlockTx
  deriving DecidableEq, Repr

/-- geth's `types.Receipt` on the host: the fields the enclave reads, and
`BlockNumber`, which is nil in a receipt the host makes up. -/
structure GethReceipt where
  receipt : Receipt
  blockNumber : Option Nat
  deriving DecidableEq, Repr

/-- What the host uses of its L1 client (`ethadapter.EthClient`). -/
structure EthClient where
  /-- `GetLogs` of a block, filtered by emitting contract: the hashes of the
  transactions that emitted the logs. -/
  getLogs : Hash → List Address → Except String (List Hash)
  /-- `TransactionReceipt`: an error, nil, or the receipt. -/
  transactionReceipt : Hash → Except String (Option GethReceipt)

/-- An error of `FetchBlobs`: `ethereum.NotFound`, or another one. -/
inductive FetchBlobsError where
  | notFound
  | other (msg : String)
  deriving DecidableEq, Repr

/-- `l1.BlobResolver`. -/
structure BlobResolver where
  fetchBlobs : L1Header → List Hash → Except FetchBlobsError (List Blob)

/-- The receipt `FetchObscuroReceipts` puts in for an irrelevant
transaction: `&types.Receipt{Status: types.ReceiptStatusFailed}`. -/
def dummyReceipt : GethReceipt := ⟨⟨0, 0, 0, 0, [], 0⟩, none⟩

/-- `Repository.isObscuroTransaction`: the transaction is sent to one of
the TEN contracts. -/
def isObscuroTransaction (obscuroRelevantContracts : List Address) (transaction : BlockTx) :
    Bool :=
  obscuroRelevantContracts.any fun address => transaction.tx.toAddr == some address

/-- `Repository.FetchObscuroReceipts`: one slot per transaction of the
block, `none` for a nil receipt. A failed fetch is logged and leaves its
slot nil. -/
def fetchObscuroReceipts (client : EthClient) (obscuroRelevantContracts : List Address)
    (block : L1Block) : Except Failure (List (Option GethReceipt)) := do
  if block.transactions.length = 0 then return []
  let logs ← (client.getLogs block.header.hash obscuroRelevantContracts).mapError fun e =>
    .error s!"unable to fetch logs for L1 block - {e}"
  pure (block.transactions.map fun transaction =>
    if !logs.contains transaction.hash && !isObscuroTransaction obscuroRelevantContracts transaction
    then some dummyReceipt
    else
      match client.transactionReceipt transaction.hash with
      | .ok (some receipt) => some receipt
      | _ => none)

/-- The body of the loop of `ExtractRelevantTenTransactions` for a receipt
with a block number: the entry for the enclave, the rollup's encoded data
and the contract-address transaction, if the transaction is one of those.
`logger.Crit` exits the process. -/
def extractOne (abi : ContractAbi) (addr : Address) (rlp : Rlp) (blobResolver : BlobResolver)
    (header : L1Header) (tx : BlockTx) (rec : GethReceipt) :
    Except Failure (TxAndReceiptAndBlobs × Option (List UInt8) × Option L1Transaction) := do
  let decodedTx ← decodeTx abi addr tx.tx
  match decodedTx with
  | some (.setImportantContracts key newAddress) =>
      pure (⟨tx.tx, rec.receipt, []⟩, none, some (.setImportantContracts key newAddress))
  | some (.rollupHashes blobHashes) =>
      match blobResolver.fetchBlobs header blobHashes with
      | .error .notFound => throw (.crit "Blobs were not found on beacon chain or archive service")
      | .error (.other _) => throw (.crit "could not fetch blobs")
      | .ok blobs =>
          match decodeBlobs rlp blobs with
          | .error _ => throw (.crit "could not decode blobs.")
          | .ok encodedRlp => pure (⟨tx.tx, rec.receipt, blobs⟩, some encodedRlp, none)
  | _ => pure (⟨tx.tx, rec.receipt, []⟩, none, none)

/-- The loop of `ExtractRelevantTenTransactions` from receipt `i` on. A nil
receipt is dereferenced when its block number is read. -/
def extractRelevantLoop (abi : ContractAbi) (addr : Address) (rlp : Rlp)
    (blobResolver : BlobResolver) (block : L1Block) :
    Nat → List (Option GethReceipt) →
      Except Failure (List TxAndReceiptAndBlobs × List (List UInt8) × List L1Transaction)
  | _, [] => .ok ([], [], [])
  | i, rec :: recs => do
      let some rec := rec | throw (.panic "invalid memory address or nil pointer dereference")
      if rec.blockNumber.isNone then
        -- skip non-relevant transactions
        extractRelevantLoop abi addr rlp blobResolver block (i + 1) recs
      else
        let txs := block.transactions
        let some tx := txs[i]? |
          throw (.panic s!"index out of range [{i}] with length {txs.length}")
        let (entry, rollupTx, contractAddressTx) ←
          extractOne abi addr rlp blobResolver block.header tx rec
        let (entries, rollupTxs, contractAddressTxs) ←
          extractRelevantLoop abi addr rlp blobResolver block (i + 1) recs
        pure (entry :: entries, rollupTx.toList ++ rollupTxs,
          contractAddressTx.toList ++ contractAddressTxs)

/-- `Publisher.ExtractRelevantTenTransactions`: the entries for the enclave,
the rollups' encoded data, and the contract-address transactions. -/
def extractRelevantTenTransactions (abi : ContractAbi) (addr : Address) (rlp : Rlp)
    (blobResolver : BlobResolver) (block : L1Block) (receipts : List (Option GethReceipt)) :
    Except Failure (List TxAndReceiptAndBlobs × List (List UInt8) × List L1Transaction) :=
  extractRelevantLoop abi addr rlp blobResolver block 0 receipts

/-- `errutil.ErrBlockAlreadyProcessed`. -/
def errBlockAlreadyProcessed : String := "block already processed"

/-- What the guardian uses of the enclave client and of the L1 repository. -/
structure GuardianEnv where
  /-- `enclaveClient.SubmitL1Block`: the enclave's error, or its response. -/
  submitL1Block : L1Header → List TxAndReceiptAndBlobs → Except String Unit
  /-- `L1Repo().FetchBlockByHeight`. -/
  fetchBlockByHeight : Nat → Except String L1Block

/-- `Guardian.submitL1Block`, whose recursion on the next canonical block
takes a unit of `fuel`. `lockFree` is the answer of every `TryLock`; the
result says whether the block was processed. -/
def submitL1Block (env : GuardianEnv) (client : EthClient) (obscuroRelevantContracts : List Address)
    (abi : ContractAbi) (addr : Address) (rlp : Rlp) (blobResolver : BlobResolver)
    (lockFree : Bool) : Nat → L1Block → Except Failure Bool
  | fuel, block => do
      if !lockFree then return false
      let blockHash := hashHex block.header.hash
      let receipts ← (fetchObscuroReceipts client obscuroRelevantContracts block).mapError
        (Failure.wrap s!"could not fetch obscuro receipts for block={blockHash} - ")
      let (txsReceiptsAndBlobs, _, _) ←
        extractRelevantTenTransactions abi addr rlp blobResolver block receipts
      match env.submitL1Block block.header txsReceiptsAndBlobs with
      | .ok () => pure true
      | .error e =>
          if e.contains errBlockAlreadyProcessed then
            -- the enclave has seen the block: try the next canonical block
            let nextCanonicalBlock ← (env.fetchBlockByHeight (block.header.number + 1)).mapError
              fun err => .error s!"failed to fetch next block after forking block={blockHash}: {err}"
            match fuel with
            | 0 => throw (.error "out of fuel")
            | fuel + 1 =>
                submitL1Block env client obscuroRelevantContracts abi addr rlp blobResolver lockFree
                  fuel nextCanonicalBlock
          else throw (.error s!"could not submit L1 block to enclave: {e}")

/-! ## The receipts -/

/-- A transaction whose receipt `FetchObscuroReceipts` fetches: it emitted
one of the logs, or is sent to a TEN contract. -/
def isRelevant (logs : List Hash) (obscuroRelevantContracts : List Address)
    (transaction : BlockTx) : Bool :=
  logs.contains transaction.hash || isObscuroTransaction obscuroRelevantContracts transaction

/-- The slot `FetchObscuroReceipts` fills for a transaction, given the logs
of the block. -/
def receiptSlot (client : EthClient) (logs : List Hash) (obscuroRelevantContracts : List Address)
    (transaction : BlockTx) : Option GethReceipt :=
  if !isRelevant logs obscuroRelevantContracts transaction then some dummyReceipt
  else
    match client.transactionReceipt transaction.hash with
    | .ok (some receipt) => some receipt
    | _ => none

section Receipts

variable {client : EthClient} {logs : List Hash} {obscuroRelevantContracts : List Address}

/-- The receipts are one slot per transaction of the block. -/
theorem fetchObscuroReceipts_eq {block : L1Block}
    (hlogs : client.getLogs block.header.hash obscuroRelevantContracts = .ok logs) :
    fetchObscuroReceipts client obscuroRelevantContracts block =
      .ok (block.transactions.map (receiptSlot client logs obscuroRelevantContracts)) := by
  by_cases hempty : block.transactions.length = 0
  · have hnil : block.transactions = [] := List.eq_nil_of_length_eq_zero hempty
    simp [fetchObscuroReceipts, hnil, pure, Except.pure]
  · simp only [fetchObscuroReceipts, hempty, if_false, hlogs, Except.mapError, Result.ok_bind]
    -- the test of the source is the negation of relevance
    simp [receiptSlot, isRelevant, pure, Except.pure]

/-- An irrelevant transaction gets the dummy receipt. -/
theorem receiptSlot_of_not_relevant {transaction : BlockTx}
    (h : isRelevant logs obscuroRelevantContracts transaction = false) :
    receiptSlot client logs obscuroRelevantContracts transaction = some dummyReceipt := by
  simp [receiptSlot, h]

/-- A relevant transaction gets the receipt fetched for its hash. -/
theorem receiptSlot_of_fetched {transaction : BlockTx} {receipt : GethReceipt}
    (h : isRelevant logs obscuroRelevantContracts transaction = true)
    (hfetch : client.transactionReceipt transaction.hash = .ok (some receipt)) :
    receiptSlot client logs obscuroRelevantContracts transaction = some receipt := by
  simp [receiptSlot, h, hfetch]

/-- A relevant transaction whose receipt is not fetched gets a nil slot. -/
theorem receiptSlot_of_failed {transaction : BlockTx}
    (h : isRelevant logs obscuroRelevantContracts transaction = true)
    (hfail : ∀ receipt, client.transactionReceipt transaction.hash ≠ .ok (some receipt)) :
    receiptSlot client logs obscuroRelevantContracts transaction = none := by
  -- `hfail` sends the match on the fetch to its last branch
  simp only [receiptSlot, h, Bool.not_true, Bool.false_eq_true, if_false]

end Receipts

/-! ## The entries for the enclave -/

section Extract

variable {abi : ContractAbi} {addr : Address} {rlp : Rlp} {blobResolver : BlobResolver}
  {block : L1Block}

/-- The entry of a transaction carries the transaction and the receipt it
was handed. -/
theorem extractOne_entry {header : L1Header} {tx : BlockTx} {rec : GethReceipt}
    {out : TxAndReceiptAndBlobs × Option (List UInt8) × Option L1Transaction}
    (h : extractOne abi addr rlp blobResolver header tx rec = .ok out) :
    out.1.tx = tx.tx ∧ out.1.receipt = rec.receipt := by
  cases hd : decodeTx abi addr tx.tx with
  | error e => simp [extractOne, hd] at h
  | ok decodedTx =>
    simp only [extractOne, hd, Result.ok_bind] at h
    -- the three kinds of transaction the loop tells apart
    split at h
    · cases h
      exact ⟨rfl, rfl⟩
    · split at h
      · cases h
      · cases h
      · split at h
        · cases h
        · cases h
          exact ⟨rfl, rfl⟩
    · cases h
      exact ⟨rfl, rfl⟩

/-- A transaction that decodes, and whose blobs are fetched and decode when
it is a rollup, gives an entry. -/
theorem extractOne_ok {header : L1Header} {tx : BlockTx} (rec : GethReceipt)
    {decodedTx : Option L1Transaction} (hd : decodeTx abi addr tx.tx = .ok decodedTx)
    (hblobs : ∀ hs, decodedTx = some (.rollupHashes hs) → ∃ blobs data,
      blobResolver.fetchBlobs header hs = .ok blobs ∧ decodeBlobs rlp blobs = .ok data) :
    ∃ out, extractOne abi addr rlp blobResolver header tx rec = .ok out := by
  simp only [extractOne, hd, Result.ok_bind]
  split
  · exact ⟨_, rfl⟩
  · rename_i hs
    obtain ⟨blobs, data, hf, hb⟩ := hblobs hs rfl
    simp only [hf, hb]
    exact ⟨_, rfl⟩
  · exact ⟨_, rfl⟩

/-- The loop passes over the dummy receipts. -/
theorem extractRelevantLoop_dummies (k : Nat) :
    ∀ i rest, extractRelevantLoop abi addr rlp blobResolver block i
      (List.replicate k (some dummyReceipt) ++ rest) =
        extractRelevantLoop abi addr rlp blobResolver block (i + k) rest := by
  induction k with
  | zero =>
      intro i rest
      rfl
  | succ k ih =>
      intro i rest
      rw [List.replicate_succ, List.cons_append, Nat.add_succ, ← Nat.succ_add]
      exact ih (i + 1) rest

/-- With every relevant transaction's receipt fetched, the loop from
transaction `i` on gives one entry for each relevant transaction left, in
order, with the transaction and its own receipt. -/
theorem extractRelevantLoop_complete {client : EthClient} {logs : List Hash}
    {obscuroRelevantContracts : List Address}
    (hfetched : ∀ t ∈ block.transactions, isRelevant logs obscuroRelevantContracts t = true →
      ∃ r n, client.transactionReceipt t.hash = .ok (some r) ∧ r.blockNumber = some n)
    (hextract : ∀ t ∈ block.transactions, isRelevant logs obscuroRelevantContracts t = true →
      ∀ rec, ∃ out, extractOne abi addr rlp blobResolver block.header t rec = .ok out) :
    ∀ rest i, block.transactions.drop i = rest →
      ∃ entries rollupTxs contractAddressTxs,
        extractRelevantLoop abi addr rlp blobResolver block i
            (rest.map (receiptSlot client logs obscuroRelevantContracts)) =
          .ok (entries, rollupTxs, contractAddressTxs) ∧
        List.Forall₂ (fun e t => e.tx = t.tx ∧
            ∃ r, client.transactionReceipt t.hash = .ok (some r) ∧ e.receipt = r.receipt)
          entries (rest.filter (isRelevant logs obscuroRelevantContracts)) := by
  intro rest
  induction rest with
  | nil =>
      intro i _
      exact ⟨[], [], [], rfl, .nil⟩
  | cons t rest ih =>
      intro i hdrop
      have hmem : t ∈ block.transactions := List.mem_of_mem_drop (by rw [hdrop]; simp)
      have hnext : block.transactions.drop (i + 1) = rest := by
        rw [← List.drop_drop, hdrop, List.drop_one, List.tail_cons]
      obtain ⟨entries, rollupTxs, contractAddressTxs, hloop, hrel⟩ := ih (i + 1) hnext
      by_cases hr : isRelevant logs obscuroRelevantContracts t = true
      · -- the receipt was fetched, so the transaction gets an entry
        obtain ⟨r, n, hfetch, hnum⟩ := hfetched t hmem hr
        have hget : block.transactions[i]? = some t := by
          rw [← Nat.add_zero i, ← List.getElem?_drop, hdrop]
          rfl
        obtain ⟨out, hout⟩ := hextract t hmem hr r
        obtain ⟨htx, hrec⟩ := extractOne_entry hout
        refine ⟨out.1 :: entries, out.2.1.toList ++ rollupTxs, out.2.2.toList ++ contractAddressTxs,
          ?_, ?_⟩
        · simp [extractRelevantLoop, receiptSlot_of_fetched hr hfetch, hnum, hget, hout, hloop,
            pure, Except.pure]
        · rw [List.filter_cons_of_pos hr]
          exact .cons ⟨htx, r, hfetch, hrec⟩ hrel
      · -- an irrelevant transaction has a dummy receipt and is passed over
        have hirr : isRelevant logs obscuroRelevantContracts t = false := by simpa using hr
        refine ⟨entries, rollupTxs, contractAddressTxs, ?_, ?_⟩
        · simp [extractRelevantLoop, receiptSlot_of_not_relevant hirr, dummyReceipt, hloop]
        · rw [List.filter_cons_of_neg hr]
          exact hrel

/-- When every relevant transaction's receipt is fetched, with a block
number, and every relevant transaction decodes, with its blobs when it is a
rollup: the enclave is handed every relevant transaction of the block, in
block order, each with the receipt fetched for its own hash. -/
theorem extractRelevantTenTransactions_complete {client : EthClient} {logs : List Hash}
    {obscuroRelevantContracts : List Address}
    (hlogs : client.getLogs block.header.hash obscuroRelevantContracts = .ok logs)
    (hfetched : ∀ t ∈ block.transactions, isRelevant logs obscuroRelevantContracts t = true →
      ∃ r n, client.transactionReceipt t.hash = .ok (some r) ∧ r.blockNumber = some n)
    (hdecode : ∀ t ∈ block.transactions, isRelevant logs obscuroRelevantContracts t = true →
      ∃ decodedTx, decodeTx abi addr t.tx = .ok decodedTx ∧
        ∀ hs, decodedTx = some (.rollupHashes hs) → ∃ blobs data,
          blobResolver.fetchBlobs block.header hs = .ok blobs ∧ decodeBlobs rlp blobs = .ok data) :
    ∃ receipts entries rollupTxs contractAddressTxs,
      fetchObscuroReceipts client obscuroRelevantContracts block = .ok receipts ∧
      extractRelevantTenTransactions abi addr rlp blobResolver block receipts =
        .ok (entries, rollupTxs, contractAddressTxs) ∧
      List.Forall₂ (fun e t => e.tx = t.tx ∧
          ∃ r, client.transactionReceipt t.hash = .ok (some r) ∧ e.receipt = r.receipt)
        entries (block.transactions.filter (isRelevant logs obscuroRelevantContracts)) := by
  have hextract : ∀ t ∈ block.transactions, isRelevant logs obscuroRelevantContracts t = true →
      ∀ rec, ∃ out, extractOne abi addr rlp blobResolver block.header t rec = .ok out := by
    intro t ht hr rec
    obtain ⟨decodedTx, hd, hblobs⟩ := hdecode t ht hr
    exact extractOne_ok rec hd hblobs
  obtain ⟨entries, rollupTxs, contractAddressTxs, hloop, hrel⟩ :=
    extractRelevantLoop_complete hfetched hextract block.transactions 0 List.drop_zero
  exact ⟨_, entries, rollupTxs, contractAddressTxs, fetchObscuroReceipts_eq hlogs, hloop, hrel⟩

end Extract

/-! ## A failed receipt fetch -/

/-- A relevant transaction whose receipt cannot be fetched, after
transactions that are all irrelevant: `FetchObscuroReceipts` returns its
receipts, `ExtractRelevantTenTransactions` panics on the nil slot, and so
does `submitL1Block`, before the block reaches the enclave. -/
theorem submitL1Block_receiptFetchFails (env : GuardianEnv) (client : EthClient)
    (obscuroRelevantContracts : List Address) (abi : ContractAbi) (addr : Address) (rlp : Rlp)
    (blobResolver : BlobResolver) (fuel : Nat) (header : L1Header) (pre post : List BlockTx)
    (tx : BlockTx) {logs : List Hash}
    (hlogs : client.getLogs header.hash obscuroRelevantContracts = .ok logs)
    (hpre : ∀ t ∈ pre, isRelevant logs obscuroRelevantContracts t = false)
    (hrel : isRelevant logs obscuroRelevantContracts tx = true)
    (hfail : ∀ receipt, client.transactionReceipt tx.hash ≠ .ok (some receipt)) :
    (∃ receipts, fetchObscuroReceipts client obscuroRelevantContracts ⟨header, pre ++ tx :: post⟩ =
        .ok receipts ∧
      extractRelevantTenTransactions abi addr rlp blobResolver ⟨header, pre ++ tx :: post⟩
        receipts = .error (.panic "invalid memory address or nil pointer dereference")) ∧
    submitL1Block env client obscuroRelevantContracts abi addr rlp blobResolver true fuel
        ⟨header, pre ++ tx :: post⟩ =
      .error (.panic "invalid memory address or nil pointer dereference") := by
  -- the dummies of the irrelevant transactions, then the nil slot
  have hslots : (pre ++ tx :: post).map (receiptSlot client logs obscuroRelevantContracts) =
      List.replicate pre.length (some dummyReceipt) ++
        none :: post.map (receiptSlot client logs obscuroRelevantContracts) := by
    have hdummies : pre.map (receiptSlot client logs obscuroRelevantContracts) =
        pre.map fun _ => some dummyReceipt :=
      List.map_congr_left fun t ht => receiptSlot_of_not_relevant (hpre t ht)
    rw [List.map_append, List.map_cons, hdummies, List.map_const',
      receiptSlot_of_failed hrel hfail]
  have hfetch : fetchObscuroReceipts client obscuroRelevantContracts ⟨header, pre ++ tx :: post⟩ =
      .ok ((pre ++ tx :: post).map (receiptSlot client logs obscuroRelevantContracts)) :=
    fetchObscuroReceipts_eq hlogs
  have hextract : extractRelevantTenTransactions abi addr rlp blobResolver
      ⟨header, pre ++ tx :: post⟩
      ((pre ++ tx :: post).map (receiptSlot client logs obscuroRelevantContracts)) =
        .error (.panic "invalid memory address or nil pointer dereference") := by
    rw [hslots, extractRelevantTenTransactions, extractRelevantLoop_dummies]
    rfl
  refine ⟨⟨_, hfetch, hextract⟩, ?_⟩
  rw [submitL1Block]
  simp only [Bool.not_true, Bool.false_eq_true, if_false, hfetch, hextract, Except.mapError,
    Result.ok_bind, Result.error_bind]

/-- A block whose one transaction emitted a log of the bridge at address 9,
with an L1 node that fails to return its receipt. -/
def bridgeLogClient : EthClient := ⟨fun _ _ => .ok [5], fun _ => .error "not found"⟩

/-- The host's guardian for that block: the enclave would accept it. -/
def acceptingEnv : GuardianEnv := ⟨fun _ _ => .ok (), fun _ => .error "not found"⟩

theorem submitL1Block_bridgeLog :
    bridgeLogClient.getLogs 20 [9] = .ok [5] ∧
      (∀ t ∈ ([] : List BlockTx), isRelevant [5] [9] t = false) ∧
      isRelevant [5] [9] ⟨5, ⟨some 9, [], 2, []⟩⟩ = true ∧
      (∀ receipt, bridgeLogClient.transactionReceipt 5 ≠ .ok (some receipt)) ∧
      (∃ receipts, fetchObscuroReceipts bridgeLogClient [9]
          ⟨⟨20, 19, 100⟩, [] ++ [⟨5, ⟨some 9, [], 2, []⟩⟩]⟩ = .ok receipts ∧
        extractRelevantTenTransactions emptyAbi 7 gethRlp ⟨fun _ _ => .error .notFound⟩
          ⟨⟨20, 19, 100⟩, [] ++ [⟨5, ⟨some 9, [], 2, []⟩⟩]⟩ receipts =
          .error (.panic "invalid memory address or nil pointer dereference")) ∧
      submitL1Block acceptingEnv bridgeLogClient [9] emptyAbi 7 gethRlp
          ⟨fun _ _ => .error .notFound⟩ true 0 ⟨⟨20, 19, 100⟩, [] ++ [⟨5, ⟨some 9, [], 2, []⟩⟩]⟩ =
        .error (.panic "invalid memory address or nil pointer dereference") := by
  have hfail : ∀ receipt, bridgeLogClient.transactionReceipt 5 ≠ .ok (some receipt) := by
    intro receipt h
    cases h
  have hrel : isRelevant [5] [9] ⟨5, ⟨some 9, [], 2, []⟩⟩ = true := by decide
  have hpre : ∀ t ∈ ([] : List BlockTx), isRelevant [5] [9] t = false := by
    intro t ht
    cases ht
  exact ⟨rfl, hpre, hrel, hfail, submitL1Block_receiptFetchFails acceptingEnv bridgeLogClient [9]
    emptyAbi 7 gethRlp ⟨fun _ _ => .error .notFound⟩ 0 ⟨20, 19, 100⟩ [] [] _ rfl hpre hrel hfail⟩

/-- The same block, with an L1 node that returns the receipt. -/
def bridgeReceiptClient : EthClient :=
  ⟨fun _ _ => .ok [5], fun _ => .ok (some ⟨⟨1, 0, 0, 0, [], 0⟩, some 100⟩)⟩

/-- Fetched, the receipt of the bridge transaction reaches the enclave with
the transaction. -/
theorem extractRelevantTenTransactions_complete_bridgeLog :
    ∃ receipts entries rollupTxs contractAddressTxs,
      fetchObscuroReceipts bridgeReceiptClient [9]
          ⟨⟨20, 19, 100⟩, [⟨5, ⟨some 9, [], 2, []⟩⟩]⟩ = .ok receipts ∧
      extractRelevantTenTransactions emptyAbi 7 gethRlp ⟨fun _ _ => .error .notFound⟩
          ⟨⟨20, 19, 100⟩, [⟨5, ⟨some 9, [], 2, []⟩⟩]⟩ receipts =
        .ok (entries, rollupTxs, contractAddressTxs) ∧
      List.Forall₂ (fun e t => e.tx = t.tx ∧
          ∃ r, bridgeReceiptClient.transactionReceipt t.hash = .ok (some r) ∧ e.receipt = r.receipt)
        entries ([⟨5, ⟨some 9, [], 2, []⟩⟩].filter (isRelevant [5] [9])) := by
  have hfetched : ∀ t ∈ [(⟨5, ⟨some 9, [], 2, []⟩⟩ : BlockTx)], isRelevant [5] [9] t = true →
      ∃ r n, bridgeReceiptClient.transactionReceipt t.hash = .ok (some r) ∧
        r.blockNumber = some n :=
    fun _ _ _ => ⟨_, 100, rfl, rfl⟩
  -- the transaction is not sent to the management contract, so it decodes to nothing
  have hdecode : ∀ t ∈ [(⟨5, ⟨some 9, [], 2, []⟩⟩ : BlockTx)], isRelevant [5] [9] t = true →
      ∃ decodedTx, decodeTx emptyAbi 7 t.tx = .ok decodedTx ∧
        ∀ hs, decodedTx = some (.rollupHashes hs) → ∃ blobs data,
          (⟨fun _ _ => .error .notFound⟩ : BlobResolver).fetchBlobs ⟨20, 19, 100⟩ hs = .ok blobs ∧
          decodeBlobs gethRlp blobs = .ok data := by
    intro t ht _
    rw [List.mem_singleton.mp ht]
    refine ⟨none, by decide, ?_⟩
    intro hs hnone
    cases hnone
  exact extractRelevantTenTransactions_complete rfl hfetched hdecode

end GoTen.Host.L1Submission
