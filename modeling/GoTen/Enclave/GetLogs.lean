import GoTen.Enclave.Events
import GoTen.Enclave.Storage

/-!
# The log query of `eth_getLogs` (`rpc/GetLogs.go`, `enclavedb/events.go`)

`GetLogsExecute` normalises the filter of a request and hands it to
`FilterLogs`, which compiles it into the where clause of one SQL query over
the receipts of canonical batches, left-joined with their event logs, the
logs' types and their three topic rows; the visibility clause of
`logsVisibilityQuery` is added for the requesting account. The storage layer
then sorts the rows by batch height and log index.

The normalisation:

* a block hash and a lower bound together are refused;
* a negative lower bound stands for the head batch's height;
* a block hash becomes the lower bound at the height of its batch, and the
  query runs without the hash;
* a negative upper bound is dropped, and a lower bound above the upper
  bound is refused.

`FilterLogs` then ignores a bound that is not positive, compares the
address list with the contract of the log's type and the `i`-th non-empty
topic set with the event signature for `i = 0` and with the `i`-th topic row
otherwise.

The join of a receipt with its transaction and the transaction's sender is a
`ReceiptRow`; `sort.Slice` is not stable, and the model sorts by insertion.

## Main results

* `mem_getLogsInRange`: a height-range query returns the rebuilt log of
  exactly the joined rows that the where clause selects.
* `getLogsExecute_blockHash`: a query by block hash is the query from that
  batch's height up to the head.
* `getLogsExecute_laterBatchLog`: such a query returns the visible logs of
  every canonical batch above the requested one.
* `getLogsExecute_toZero`: an upper bound of zero bounds nothing.
* `getLogsExecute_receiptWithoutLogs`: without addresses and topics, a
  receipt that has no logs is returned as an empty log.
-/

namespace GoTen.Enclave.GetLogs

open GoTen.Common
open GoTen.Verified
open GoTen.Enclave.Storage
open GoTen.Enclave.Events (EventDb EventLog EventTopic)

/-! ## Requests -/

/-- `common.FilterCriteriaJSON`: the filter as the request carries it, a
height being an `rpc.BlockNumber`, where a negative value names a tag such as
`latest`. -/
structure FilterCriteriaJSON where
  blockHash : Option Hash
  fromBlock : Option Int64
  toBlock : Option Int64
  addresses : List Address
  topics : List (List Hash)
  deriving DecidableEq, Repr

/-- `filters.FilterCriteria`, its heights as `*big.Int`. -/
structure FilterCriteria where
  blockHash : Option Hash
  fromBlock : Option Int
  toBlock : Option Int
  addresses : List Address
  topics : List (List Hash)
  deriving DecidableEq, Repr

/-- `common.ToCriteria`. -/
def toCriteria (crit : FilterCriteriaJSON) : FilterCriteria :=
  ⟨crit.blockHash, crit.fromBlock.map Int64.toInt, crit.toBlock.map Int64.toInt,
    crit.addresses, crit.topics⟩

/-! ## The tables and the join -/

/-- A row of `receipt` joined with its transaction and the transaction's
sender, as `baseReceiptJoin` joins them; `batch` is the batch's sequence
number. -/
structure ReceiptRow where
  id : Nat
  batch : Nat
  txHash : Hash
  txIdx : Nat
  txSender : Address
  deriving DecidableEq, Repr

/-- The tables the query reads. -/
structure LogDb where
  db : Db
  receipts : List ReceiptRow
  events : EventDb
  deriving DecidableEq, Repr

/-- A row of the query: a receipt of a canonical batch with one of its event
logs, or with none when it has none (the left join of `event_log`). -/
structure JoinedRow where
  batch : BatchRow
  receipt : ReceiptRow
  log : Option EventLog
  deriving DecidableEq, Repr

/-- `baseReceiptJoin` and `baseEventJoin` with `b.is_canonical=true`. -/
def joinedRows (ldb : LogDb) : List JoinedRow :=
  ldb.receipts.flatMap fun rec =>
    (ldb.db.batches.filter fun b => b.sequence == rec.batch && b.isCanonical).flatMap fun b =>
      match ldb.events.logs.filter fun e => e.receipt == rec.id with
      | [] => [⟨b, rec, none⟩]
      | es => es.map fun e => ⟨b, rec, some e⟩

/-- The `c.address` column: the contract of the log's type. -/
def addressColumn (events : EventDb) : Option EventLog → Option Address
  | none => none
  | some e => (events.eventTypes.find? fun et => et.id == e.eventType).map
      fun et => et.contract.address

/-- The columns the topic sets are compared with: `et.event_sig`, then
`t1.topic`, `t2.topic` and `t3.topic`, each `NULL` where its join finds no
row. The source joins `t3` on `t1.event_type`. -/
def topicColumns (events : EventDb) : Option EventLog → List (Option Hash)
  | none => [none, none, none, none]
  | some e =>
      match events.eventTypes.find? fun et => et.id == e.eventType with
      | none => [none, none, none, none]
      | some et =>
          let t1 := Events.topicRowOf events et.id e.topic1
          let t2 := Events.topicRowOf events et.id e.topic2
          let t3 := if t1.isSome then e.topic3.bind fun id => events.topics.find? fun t => t.id == id
            else none
          [some et.eventSignature, t1.map EventTopic.topic, t2.map EventTopic.topic,
            t3.map EventTopic.topic]

/-! ## `FilterLogs` -/

/-- `logsVisibilityQuery`: a row without a log passes by `(e.id is NULL)`. -/
def rowVisible (ldb : LogDb) (requester : Address) (row : JoinedRow) : Bool :=
  match row.log with
  | none => true
  | some e => Events.logVisible ldb.events requester row.receipt.txSender e

/-- The height conditions, each only for a positive bound. -/
def inHeightRange (fromBlock toBlock : Option Int) (height : Nat) : Bool :=
  (fromBlock.all fun f => !(0 < f) || decide (f ≤ (height : Int))) &&
    (toBlock.all fun t => !(0 < t) || decide ((height : Int) ≤ t))

/-- The address condition, for a non-empty list. -/
def addressMatches (events : EventDb) (addresses : List Address) (row : JoinedRow) : Bool :=
  addresses.isEmpty || (addressColumn events row.log).any addresses.contains

/-- The topic conditions: the `i`-th column lies in the `i`-th set, where
that set is not empty. -/
def topicsMatch : List (List Hash) → List (Option Hash) → Bool
  | [], _ => true
  | set :: sets, col :: cols =>
      (set.isEmpty || col.any set.contains) && topicsMatch sets cols
  | set :: sets, [] => set.isEmpty && topicsMatch sets []

/-- The where clause of `FilterLogs` with the visibility clause. -/
def rowSelected (ldb : LogDb) (requester : Address) (fromBlock toBlock : Option Int)
    (batchHash : Option Hash) (addresses : List Address) (topics : List (List Hash))
    (row : JoinedRow) : Bool :=
  rowVisible ldb requester row && (batchHash.all fun h => row.batch.hash == h) &&
    inHeightRange fromBlock toBlock row.batch.height &&
    addressMatches ldb.events addresses row &&
    topicsMatch topics (topicColumns ldb.events row.log)

/-- A log as `eth_getLogs` returns it: geth's `types.Log` with the batch and
transaction it belongs to. -/
structure RpcLog where
  log : Log
  blockHash : Hash
  blockNumber : Nat
  txHash : Hash
  txIndex : Nat
  deriving DecidableEq, Repr

/-- The log with every field zero and no topics. -/
def emptyLog : RpcLog := ⟨⟨0, [], [], 0⟩, 0, 0, 0, 0⟩

/-- `onRowWithEventLogAndReceipt`: a row without a log index leaves the log
empty. -/
def rowLog (events : EventDb) (row : JoinedRow) : RpcLog :=
  match row.log with
  | none => emptyLog
  | some e => ⟨Events.rowToLog events e, row.batch.hash, row.batch.height, row.receipt.txHash,
      row.receipt.txIdx⟩

/-- The rows the where clause selects, rebuilt as logs. -/
def selectedLogs (ldb : LogDb) (requester : Address) (fromBlock toBlock : Option Int)
    (batchHash : Option Hash) (addresses : List Address) (topics : List (List Hash)) :
    List RpcLog :=
  ((joinedRows ldb).filter (rowSelected ldb requester fromBlock toBlock batchHash addresses
    topics)).map (rowLog ldb.events)

/-- `enclavedb.FilterLogs`. -/
def filterLogs (ldb : LogDb) (requester : Address) (fromBlock toBlock : Option Int)
    (batchHash : Option Hash) (addresses : List Address) (topics : List (List Hash)) :
    Except Failure (List RpcLog) :=
  if topics.length > 4 then .error (.error "invalid filter. Too many topics")
  else .ok (selectedLogs ldb requester fromBlock toBlock batchHash addresses topics)

/-- The order of `storageImpl.FilterLogs`: by batch height, then by log
index. -/
def logLess (a b : RpcLog) : Bool :=
  if a.blockNumber = b.blockNumber then a.log.index < b.log.index
  else a.blockNumber < b.blockNumber

/-- `sort.Slice` with that order. -/
def sortLogs (logs : List RpcLog) : List RpcLog :=
  logs.insertionSort fun a b => logLess b a = false

/-- `storageImpl.FilterLogs`: the rows sorted, since the database returns
them unsorted. -/
def storageFilterLogs (ldb : LogDb) (requester : Address) (fromBlock toBlock : Option Int)
    (batchHash : Option Hash) (addresses : List Address) (topics : List (List Hash)) :
    Except Failure (List RpcLog) := do
  let logs ← filterLogs ldb requester fromBlock toBlock batchHash addresses topics
  pure (sortLogs logs)

/-! ## `GetLogsExecute` -/

/-- What `GetLogsExecute` leaves in the call builder: an error for the
caller, the not-found status, or the logs. -/
inductive GetLogsResult where
  | err (msg : String)
  | notFound
  | logs (logs : List RpcLog)
  deriving DecidableEq, Repr

/-- `errutil.ErrNotFound` as storage returns it. -/
def errNotFound : String := "not found"

/-- The lower bound, a negative one replaced by the head batch's height. -/
def fromOrHead (ldb : LogDb) (headBatchSeq : Option Nat) :
    Option Int → Except Failure (Option Int)
  | some f =>
      if f < 0 then do
        let some head := headBatchSeq
          | throw (.panic "invalid memory address or nil pointer dereference")
        let batch ← (fetchBatchHeaderBySeqNo ldb.db head).mapError
          (Failure.wrap "could not retrieve head batch. Cause: ")
        pure (some (batch.number : Int))
      else pure (some f)
  | none => pure none

/-- The upper bound, dropped when negative: "when to==latest, don't filter
on it". -/
def upperBound : Option Int → Option Int
  | some t => if t < 0 then none else some t
  | none => none

/-- The end of `GetLogsExecute`, once the lower bound is known. -/
def getLogsInRange (ldb : LogDb) (requester : Address) (filter : FilterCriteria)
    (fromBlock : Option Int) : Except Failure GetLogsResult :=
  let toBlock := upperBound filter.toBlock
  match fromBlock, toBlock with
  | some f, some t =>
      if f > t then .ok (.err s!"invalid filter. from ({f}) > to ({t})")
      else collect toBlock
  | _, _ => collect toBlock
where
  /-- The call of `storage.FilterLogs`, without the block hash. -/
  collect (toBlock : Option Int) : Except Failure GetLogsResult :=
    match storageFilterLogs ldb requester fromBlock toBlock none filter.addresses
        filter.topics with
    | .ok logs => .ok (.logs logs)
    | .error (.error e) => .ok (.err ("could not retrieve logs matching the filter. Cause: " ++ e))
    | .error f => .error f

/-- `GetLogsExecute`. A returned error is a system error; the others are
left in the call builder. -/
def getLogsExecute (ldb : LogDb) (headBatchSeq : Option Nat) (requester : Address)
    (filter : FilterCriteria) : Except Failure GetLogsResult :=
  -- can't have both from and blockhash
  if filter.blockHash.isSome && filter.fromBlock.isSome then
    .ok (.err "invalid filter. Cannot have both blockhash and fromBlock")
  else do
    let fromBlock ← fromOrHead ldb headBatchSeq filter.fromBlock
    match fromBlock, filter.blockHash with
    | none, some blockHash =>
        match fetchBatchHeader ldb.db blockHash with
        | .ok batch => getLogsInRange ldb requester filter (some batch.number)
        | .error f => if f = .error errNotFound then .ok .notFound else .error f
    | fromBlock, _ => getLogsInRange ldb requester filter fromBlock

/-! ## The rows of the join -/

section Rows

variable {ldb : LogDb} {rec : ReceiptRow} {b : BatchRow}

/-- A stored log of a receipt of a stored canonical batch is a row of the
join. -/
theorem mem_joinedRows {e : EventLog} (hrec : rec ∈ ldb.receipts) (hb : b ∈ ldb.db.batches)
    (hseq : b.sequence = rec.batch) (hcanon : b.isCanonical = true) (he : e ∈ ldb.events.logs)
    (hreceipt : e.receipt = rec.id) : ⟨b, rec, some e⟩ ∈ joinedRows ldb := by
  have hmem : e ∈ ldb.events.logs.filter fun e => e.receipt == rec.id := by
    simp [he, hreceipt]
  simp only [joinedRows, List.mem_flatMap, List.mem_filter]
  refine ⟨rec, hrec, b, ⟨hb, by simp [hseq, hcanon]⟩, ?_⟩
  generalize ldb.events.logs.filter (fun e => e.receipt == rec.id) = es at hmem
  cases es with
  | nil => cases hmem
  | cons e' es => exact List.mem_map.mpr ⟨e, hmem, rfl⟩

/-- A receipt of a stored canonical batch without logs is a row of the join
with no log. -/
theorem mem_joinedRows_of_noLogs (hrec : rec ∈ ldb.receipts) (hb : b ∈ ldb.db.batches)
    (hseq : b.sequence = rec.batch) (hcanon : b.isCanonical = true)
    (hnologs : ∀ e ∈ ldb.events.logs, e.receipt ≠ rec.id) :
    ⟨b, rec, none⟩ ∈ joinedRows ldb := by
  have hnil : (ldb.events.logs.filter fun e => e.receipt == rec.id) = [] := by
    rw [List.filter_eq_nil_iff]
    intro e he
    simpa using hnologs e he
  simp only [joinedRows, List.mem_flatMap, List.mem_filter]
  refine ⟨rec, hrec, b, ⟨hb, by simp [hseq, hcanon]⟩, ?_⟩
  rw [hnil]
  exact List.mem_singleton_self _

/-- Every row of the join is of a stored batch. -/
theorem batch_mem_of_mem_joinedRows {row : JoinedRow} (hrow : row ∈ joinedRows ldb) :
    row.batch ∈ ldb.db.batches := by
  simp only [joinedRows, List.mem_flatMap, List.mem_filter] at hrow
  obtain ⟨rec, -, b, ⟨hb, -⟩, hrow⟩ := hrow
  generalize ldb.events.logs.filter (fun e => e.receipt == rec.id) = es at hrow
  cases es with
  | nil =>
    rw [List.mem_singleton.mp hrow]
    exact hb
  | cons e es =>
    obtain ⟨e', -, rfl⟩ := List.mem_map.mp hrow
    exact hb

end Rows

/-- A rebuilt log carries its batch's hash, or is the empty log. -/
theorem blockHash_rowLog (events : EventDb) (row : JoinedRow) :
    (rowLog events row).blockHash = 0 ∨ (rowLog events row).blockHash = row.batch.hash := by
  unfold rowLog
  split
  · exact .inl rfl
  · exact .inr rfl

/-- Topic sets that are all empty match any columns. -/
theorem topicsMatch_of_forall_nil {topics : List (List Hash)} (cols : List (Option Hash))
    (h : ∀ set ∈ topics, set = []) : topicsMatch topics cols = true := by
  induction topics generalizing cols with
  | nil => rfl
  | cons set sets ih =>
      have hset : set = [] := h set List.mem_cons_self
      have hsets : ∀ s ∈ sets, s = [] := fun s hs => h s (List.mem_cons_of_mem set hs)
      cases cols with
      | nil => simp [topicsMatch, hset, ih [] hsets]
      | cons col cols => simp [topicsMatch, hset, ih cols hsets]

/-- A bound of zero, like no bound, excludes no height. -/
theorem inHeightRange_toZero (fromBlock : Option Int) (height : Nat) :
    inHeightRange fromBlock (some 0) height = inHeightRange fromBlock none height := by
  simp [inHeightRange]

/-- The where clause with an upper bound of zero is the one without. -/
theorem rowSelected_toZero (ldb : LogDb) (requester : Address) (fromBlock : Option Int)
    (batchHash : Option Hash) (addresses : List Address) (topics : List (List Hash)) :
    rowSelected ldb requester fromBlock (some 0) batchHash addresses topics =
      rowSelected ldb requester fromBlock none batchHash addresses topics := by
  funext row
  simp only [rowSelected, inHeightRange_toZero]

/-! ## What a query returns -/

section Query

variable (ldb : LogDb) (requester : Address)

/-- `FilterLogs` with at most four topic sets returns the selected rows. -/
theorem filterLogs_of_le {fromBlock toBlock : Option Int} {batchHash : Option Hash}
    {addresses : List Address} {topics : List (List Hash)} (htopics : topics.length ≤ 4) :
    filterLogs ldb requester fromBlock toBlock batchHash addresses topics =
      .ok (selectedLogs ldb requester fromBlock toBlock batchHash addresses topics) := by
  have hle : ¬ topics.length > 4 := by omega
  rw [filterLogs, if_neg hle]

/-- The rest of `GetLogsExecute` with at most four topic sets and a lower
bound not above the upper one: the sorted selected rows. -/
theorem getLogsInRange_of_le (filter : FilterCriteria) {fromBlock : Option Int}
    (htopics : filter.topics.length ≤ 4)
    (hord : ∀ f t, fromBlock = some f → upperBound filter.toBlock = some t → f ≤ t) :
    getLogsInRange ldb requester filter fromBlock =
      .ok (.logs (sortLogs (selectedLogs ldb requester fromBlock (upperBound filter.toBlock) none
        filter.addresses filter.topics))) := by
  have hcollect : getLogsInRange.collect ldb requester filter fromBlock
      (upperBound filter.toBlock) = .ok (.logs (sortLogs (selectedLogs ldb requester fromBlock
        (upperBound filter.toBlock) none filter.addresses filter.topics))) := by
    simp only [getLogsInRange.collect, storageFilterLogs, filterLogs_of_le ldb requester htopics,
      Result.ok_bind]
    rfl
  unfold getLogsInRange
  dsimp only
  cases fromBlock with
  | none => exact hcollect
  | some f =>
      rcases ht : upperBound filter.toBlock with _ | t
      · rw [ht] at hcollect
        exact hcollect
      · have hle : ¬ f > t := not_lt.mpr (hord f t rfl ht)
        rw [ht] at hcollect
        dsimp only
        rw [if_neg hle]
        exact hcollect

/-- A height-range query returns the log of exactly the joined rows that
the where clause and the visibility clause select. -/
theorem mem_getLogsInRange (filter : FilterCriteria) {fromBlock : Option Int}
    (htopics : filter.topics.length ≤ 4)
    (hord : ∀ f t, fromBlock = some f → upperBound filter.toBlock = some t → f ≤ t) :
    ∃ logs, getLogsInRange ldb requester filter fromBlock = .ok (.logs logs) ∧
      ∀ x, x ∈ logs ↔ ∃ row ∈ joinedRows ldb, rowSelected ldb requester fromBlock
        (upperBound filter.toBlock) none filter.addresses filter.topics row = true ∧
          rowLog ldb.events row = x := by
  refine ⟨_, getLogsInRange_of_le ldb requester filter htopics hord, fun x => ?_⟩
  simp only [sortLogs, List.mem_insertionSort, selectedLogs, List.mem_map, List.mem_filter]
  simp only [and_assoc]

variable (headBatchSeq : Option Nat)

/-- A query by the hash of a stored batch runs from that batch's height. -/
theorem getLogsExecute_of_blockHash (filter : FilterCriteria) {blockHash : Hash}
    {batch : BatchHeader} (hhash : filter.blockHash = some blockHash)
    (hfrom : filter.fromBlock = none) (hbatch : fetchBatchHeader ldb.db blockHash = .ok batch) :
    getLogsExecute ldb headBatchSeq requester filter =
      getLogsInRange ldb requester filter (some batch.number) := by
  simp only [getLogsExecute, hhash, hfrom, Option.isSome_some, Option.isSome_none,
    Bool.and_false, Bool.false_eq_true, if_false, fromOrHead, pure_bind, hbatch]

/-- A query without a block hash and with no negative lower bound runs from
that bound. -/
theorem getLogsExecute_of_range (filter : FilterCriteria) (hhash : filter.blockHash = none)
    (hfrom : ∀ f, filter.fromBlock = some f → 0 ≤ f) :
    getLogsExecute ldb headBatchSeq requester filter =
      getLogsInRange ldb requester filter filter.fromBlock := by
  have hhead : fromOrHead ldb headBatchSeq filter.fromBlock = .ok filter.fromBlock := by
    cases hf : filter.fromBlock with
    | none => rfl
    | some f =>
        have hnonneg : ¬ f < 0 := not_lt.mpr (hfrom f hf)
        simp only [fromOrHead, if_neg hnonneg]
        rfl
  simp only [getLogsExecute, hhash, Option.isSome_none, Bool.false_and, Bool.false_eq_true,
    if_false, hhead, Result.ok_bind]

/-- A query with neither a block hash nor a lower bound runs from no bound. -/
theorem getLogsExecute_of_noLowerBound (filter : FilterCriteria)
    (hhash : filter.blockHash = none) (hfrom : filter.fromBlock = none) :
    getLogsExecute ldb headBatchSeq requester filter = getLogsInRange ldb requester filter none := by
  have hnone : ∀ f, filter.fromBlock = some f → 0 ≤ f := by
    intro f hf
    rw [hfrom] at hf
    cases hf
  rw [getLogsExecute_of_range ldb requester headBatchSeq filter hhash hnone, hfrom]

/-- A query by the hash of a stored batch is the query from that batch's
height, with no hash: every later batch is in range. -/
theorem getLogsExecute_blockHash (filter : FilterCriteria) {blockHash : Hash}
    {batch : BatchHeader} (hhash : filter.blockHash = some blockHash)
    (hfrom : filter.fromBlock = none) (hbatch : fetchBatchHeader ldb.db blockHash = .ok batch) :
    getLogsExecute ldb headBatchSeq requester filter =
      getLogsExecute ldb headBatchSeq requester
        { filter with blockHash := none, fromBlock := some batch.number } := by
  have hnonneg : ∀ f, some (batch.number : Int) = some f → 0 ≤ f := by
    intro f hf
    cases hf
    omega
  rw [getLogsExecute_of_blockHash ldb requester headBatchSeq filter hhash hfrom hbatch,
    getLogsExecute_of_range ldb requester headBatchSeq _ rfl hnonneg]
  rfl

/-- A query by the hash of a stored batch returns every visible matching
log of a canonical batch at or above that batch's height, whichever batch it
belongs to. -/
theorem getLogsExecute_laterBatchLog (filter : FilterCriteria) {blockHash : Hash}
    {batch : BatchHeader} {rec : ReceiptRow} {b : BatchRow} {e : EventLog}
    (hhash : filter.blockHash = some blockHash) (hfrom : filter.fromBlock = none)
    (hto : filter.toBlock = none) (htopics : filter.topics.length ≤ 4)
    (hbatch : fetchBatchHeader ldb.db blockHash = .ok batch)
    (hrec : rec ∈ ldb.receipts) (hb : b ∈ ldb.db.batches) (hseq : b.sequence = rec.batch)
    (hcanon : b.isCanonical = true) (he : e ∈ ldb.events.logs) (hreceipt : e.receipt = rec.id)
    (hvis : Events.logVisible ldb.events requester rec.txSender e = true)
    (haddr : addressMatches ldb.events filter.addresses ⟨b, rec, some e⟩ = true)
    (htopic : topicsMatch filter.topics (topicColumns ldb.events (some e)) = true)
    (hlater : batch.number ≤ b.height) :
    ∃ logs, getLogsExecute ldb headBatchSeq requester filter = .ok (.logs logs) ∧
      ⟨Events.rowToLog ldb.events e, b.hash, b.height, rec.txHash, rec.txIdx⟩ ∈ logs := by
  have hord : ∀ f t, some (batch.number : Int) = some f → upperBound filter.toBlock = some t →
      f ≤ t := by
    intro f t _ ht
    rw [hto] at ht
    cases ht
  obtain ⟨logs, hq, hmem⟩ := mem_getLogsInRange ldb requester filter htopics hord
  have hheight : (batch.number : Int) ≤ b.height := Int.ofNat_le.mpr hlater
  have hsel : rowSelected ldb requester (some batch.number) (upperBound filter.toBlock) none
      filter.addresses filter.topics ⟨b, rec, some e⟩ = true := by
    simp [rowSelected, rowVisible, hvis, inHeightRange, hto, upperBound, haddr, htopic, hheight]
  have hnonneg : ∀ f, some (batch.number : Int) = some f → 0 ≤ f := by
    intro f hf
    cases hf
    omega
  refine ⟨logs, ?_, (hmem _).mpr ⟨_, mem_joinedRows hrec hb hseq hcanon he hreceipt, hsel, rfl⟩⟩
  -- the query by hash is the query from the batch's height, which reads no hash
  rw [getLogsExecute_blockHash ldb requester headBatchSeq filter hhash hfrom hbatch,
    getLogsExecute_of_range ldb requester headBatchSeq _ rfl hnonneg]
  exact hq

/-- Without addresses and topics, a receipt of a canonical batch that has no
logs is returned as an empty log. -/
theorem getLogsExecute_receiptWithoutLogs (filter : FilterCriteria) {rec : ReceiptRow}
    {b : BatchRow} (hhash : filter.blockHash = none) (hfrom : filter.fromBlock = none)
    (hto : filter.toBlock = none) (haddr : filter.addresses = [])
    (htopics : ∀ set ∈ filter.topics, set = []) (hlen : filter.topics.length ≤ 4)
    (hrec : rec ∈ ldb.receipts) (hb : b ∈ ldb.db.batches) (hseq : b.sequence = rec.batch)
    (hcanon : b.isCanonical = true) (hnologs : ∀ e ∈ ldb.events.logs, e.receipt ≠ rec.id) :
    ∃ logs, getLogsExecute ldb headBatchSeq requester filter = .ok (.logs logs) ∧
      emptyLog ∈ logs := by
  have hord : ∀ f t, (none : Option Int) = some f → upperBound filter.toBlock = some t →
      f ≤ t := by
    intro f t hf _
    cases hf
  obtain ⟨logs, hq, hmem⟩ := mem_getLogsInRange ldb requester filter hlen hord
  have hsel : rowSelected ldb requester none (upperBound filter.toBlock) none
      filter.addresses filter.topics ⟨b, rec, none⟩ = true := by
    simp [rowSelected, rowVisible, inHeightRange, hto, upperBound, addressMatches, haddr,
      topicsMatch_of_forall_nil _ htopics]
  refine ⟨logs, ?_, (hmem _).mpr ⟨_, mem_joinedRows_of_noLogs hrec hb hseq hcanon hnologs, hsel,
    rfl⟩⟩
  rw [getLogsExecute_of_noLowerBound ldb requester headBatchSeq filter hhash hfrom]
  exact hq

end Query

/-! ## Two batches with a public log each -/

/-- The type of the event with signature 1 of the transparent contract at
address 7. -/
def publicType : Events.EventType :=
  ⟨0, ⟨7, some true⟩, 1, false, none, true, none, none, none, none⟩

/-- The canonical batch at height and sequence number `n`, with hash `10 + n`. -/
def batchAt (n : Nat) : BatchRow :=
  ⟨n, BitVec.ofNat 256 (10 + n), n, true, heightHeader n n, 0⟩

/-- The receipt `id` of a transaction of Alice, with hash `100 + id`, in the
batch with sequence number `n`. -/
def receiptAt (id n : Nat) : ReceiptRow := ⟨id, n, BitVec.ofNat 256 (100 + id), 0, Events.alice⟩

/-- A log of `publicType` without user topics, of the receipt `id`. -/
def publicLog (id : Nat) : EventLog := ⟨0, none, none, none, [], 0, id⟩

/-- Batches at heights 1 and 2 with a public log each; the second also has a
receipt without logs. -/
def twoBatchDb : LogDb :=
  ⟨⟨[], [batchAt 1, batchAt 2], []⟩, [receiptAt 0 1, receiptAt 1 2, receiptAt 2 2],
    ⟨[⟨7, some true⟩], [], [publicType], [], [publicLog 0, publicLog 1]⟩⟩

/-- The query by the hash of the batch at height 1. -/
def firstBatchQuery : FilterCriteria := ⟨some (batchAt 1).hash, none, none, [], []⟩

/-- The log of the batch at height 2 answers the query for the batch at
height 1. -/
theorem getLogsExecute_secondBatchLog :
    ∃ logs, getLogsExecute twoBatchDb none Events.alice firstBatchQuery = .ok (.logs logs) ∧
      (⟨Events.rowToLog twoBatchDb.events (publicLog 1), (batchAt 2).hash, (batchAt 2).height,
        (receiptAt 1 2).txHash, (receiptAt 1 2).txIdx⟩ : RpcLog) ∈ logs :=
  @getLogsExecute_laterBatchLog twoBatchDb Events.alice none firstBatchQuery (batchAt 1).hash
    (heightHeader 1 1) (receiptAt 1 2) (batchAt 2) (publicLog 1) rfl rfl rfl (by decide)
    (by decide) (by decide) (by decide) rfl rfl (by decide) rfl (by decide) rfl rfl (by decide)

example : getLogsExecute twoBatchDb none Events.alice firstBatchQuery =
    .ok (.logs [emptyLog, ⟨⟨7, [1], [], 0⟩, (batchAt 1).hash, 1, (receiptAt 0 1).txHash, 0⟩,
      ⟨⟨7, [1], [], 0⟩, (batchAt 2).hash, 2, (receiptAt 1 2).txHash, 0⟩]) := by
  decide

/-- The query with no hash, bounds, addresses or topics. -/
def openQuery : FilterCriteria := ⟨none, none, none, [], []⟩

/-- The receipt without logs of the batch at height 2 answers the open query
as an empty log. -/
theorem getLogsExecute_receiptWithoutLogs_twoBatches :
    ∃ logs, getLogsExecute twoBatchDb none Events.alice openQuery = .ok (.logs logs) ∧
      emptyLog ∈ logs :=
  @getLogsExecute_receiptWithoutLogs twoBatchDb Events.alice none openQuery (receiptAt 2 2)
    (batchAt 2) rfl rfl rfl rfl (by decide) (by decide) (by decide) (by decide) rfl rfl
    (by decide)

example : getLogsExecute twoBatchDb none Events.alice ⟨none, none, some 0, [], []⟩ =
    .ok (.logs [emptyLog, ⟨⟨7, [1], [], 0⟩, (batchAt 1).hash, 1, (receiptAt 0 1).txHash, 0⟩,
      ⟨⟨7, [1], [], 0⟩, (batchAt 2).hash, 2, (receiptAt 1 2).txHash, 0⟩]) := by
  decide

end GoTen.Enclave.GetLogs
