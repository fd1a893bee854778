import GoTen.Enclave.GetLogs
import GoTen.WalletExtension.Cache

/-!
# The cache strategies of the gateway's chain reads

`GetHeaderByNumber` and `GetBlockByNumber` (`rpcapi/blockchain_api.go`) and
`FeeHistory` (`rpcapi/ethereum_api.go`) cache a request by `cacheBlockNumber`
of the block it names: `LongLiving` for a positive number, `LatestBatch` for
a tag. `FilterAPI.GetLogs` (`rpcapi/filter_api.go`) caches a filter as
`LongLiving` when it has a positive `toBlock` or a block hash, and as
`LatestBatch` otherwise. On a miss it asks the node for the logs of every
account of the user, keeps one log per `LogKey` and sorts them by batch
height and log index.

The node's answer to `eth_getLogs` is the enclave's `GetLogsExecute` over
the log tables (`GoTen.Enclave.GetLogs`). A batch that is produced after a
filter was answered, below its `toBlock`, adds its logs to that answer; the
cached answer is served for five hours all the same.

## Main results

* `getLogsOnCacheMiss_eq_ok`: when the node answers every account, the
  gateway's answer holds a log of every key the accounts' answers hold, and
  nothing else.
* `getLogs_staleAfterBatch`: a filter whose `toBlock` lies beyond the head
  is answered from the cache after a batch with a log it selects, without
  that log, whenever ristretto admitted the first answer.
-/

namespace GoTen.WalletExtension.RpcCache

open GoTen.Common
open GoTen.Enclave.Storage
open GoTen.Enclave.GetLogs
open GoTen.Enclave
open GoTen.Enclave.Events (EventDb EventLog)
open GoTen.WalletExtension.Cache

/-! ## Requests by block number -/

/-- `cacheBlockNumber`. -/
def cacheBlockNumber (lastBlock : Int64) : CacheStrategy :=
  if lastBlock.toInt > 0 then .longLiving else .latestBatch

/-- An endpoint whose request names a block, or the last block of a range,
by `number`; its `CacheTypeDynamic` is `cacheBlockNumber` of that block.
`GetHeaderByNumber` is the one whose request is the number itself,
`GetBlockByNumber` adds `fullTx`, `FeeHistory` the block count and the
reward percentiles. -/
def blockNumberEndpoint {C P V : Type} (number : P → Int64)
    (answer : C → P → Except String (Option V)) : Backend C P V :=
  ⟨fun p => some ⟨.noCache, some (cacheBlockNumber (number p))⟩, answer⟩

/-- `GetHeaderByNumber`. -/
def getHeaderByNumber {C V : Type} (answer : C → Int64 → Except String (Option V)) :
    Backend C Int64 V :=
  blockNumberEndpoint id answer

/-- `GetBlockByNumber`. -/
def getBlockByNumber {C V : Type} (answer : C → Int64 × Bool → Except String (Option V)) :
    Backend C (Int64 × Bool) V :=
  blockNumberEndpoint Prod.fst answer

/-! ## `eth_getLogs` at the node -/

/-- The node the gateway reads: the tables of the log query, and the head
batch. -/
structure Node where
  ldb : LogDb
  headBatchSeq : Option Nat

/-- `eth_getLogs` for the account `acct`, whose viewing key signs the call:
`GetLogsValidate` converts the filter with `ToCriteria` and `GetLogsExecute`
runs it. An error left in the call builder is the call's error, a not-found
is an empty response, and a system error is `errInt`. -/
def ethGetLogs (node : Node) (acct : Address) (crit : FilterCriteriaJSON) :
    Except String (List RpcLog) :=
  match getLogsExecute node.ldb node.headBatchSeq acct (toCriteria crit) with
  | .ok (.logs logs) => .ok logs
  | .ok .notFound => .ok []
  | .ok (.err msg) => .error msg
  | .error _ => .error "internal error"

/-- A filter without a block hash, with a positive upper bound and a lower
bound, if any, between zero and it, is answered for every account with the
logs of exactly the rows it selects. -/
theorem ethGetLogs_of_range (node : Node) (acct : Address) {crit : FilterCriteriaJSON}
    {toBlock : Int64} (hto : crit.toBlock = some toBlock) (hpos : 0 < toBlock.toInt)
    (hhash : crit.blockHash = none)
    (hfrom : ∀ f, crit.fromBlock = some f → 0 ≤ f.toInt ∧ f.toInt ≤ toBlock.toInt)
    (htopics : crit.topics.length ≤ 4) :
    ∃ logs, ethGetLogs node acct crit = .ok logs ∧
      ∀ x, x ∈ logs ↔ ∃ row ∈ joinedRows node.ldb, rowSelected node.ldb acct
        (crit.fromBlock.map Int64.toInt) (some toBlock.toInt) none crit.addresses crit.topics
          row = true ∧ rowLog node.ldb.events row = x := by
  have hupper : upperBound (toCriteria crit).toBlock = some toBlock.toInt := by
    simp [toCriteria, hto, upperBound, not_lt.mpr hpos.le]
  have hnonneg : ∀ f, (toCriteria crit).fromBlock = some f → 0 ≤ f := by
    intro f hf
    obtain ⟨f', hf', rfl⟩ := Option.map_eq_some_iff.mp hf
    exact (hfrom f' hf').1
  have hord : ∀ f t, (toCriteria crit).fromBlock = some f →
      upperBound (toCriteria crit).toBlock = some t → f ≤ t := by
    intro f t hf ht
    rw [hupper, Option.some.injEq] at ht
    obtain ⟨f', hf', rfl⟩ := Option.map_eq_some_iff.mp hf
    rw [← ht]
    exact (hfrom f' hf').2
  obtain ⟨logs, hq, hmem⟩ := mem_getLogsInRange node.ldb acct (toCriteria crit) htopics hord
  have hexec : getLogsExecute node.ldb node.headBatchSeq acct (toCriteria crit) =
      .ok (.logs logs) := by
    rw [getLogsExecute_of_range node.ldb acct node.headBatchSeq _ hhash hnonneg]
    exact hq
  refine ⟨logs, by simp [ethGetLogs, hexec], fun x => ?_⟩
  rw [hmem x, hupper]
  rfl

/-! ## The gateway's `GetLogs` -/

/-- `LogKey`: the logs of the accounts are one log when their batch,
transaction and index agree. -/
structure LogKey where
  blockHash : Hash
  txHash : Hash
  index : Nat
  deriving DecidableEq, Repr

/-- The `LogKey` of a log. -/
def logKeyOf (eventLog : RpcLog) : LogKey :=
  ⟨eventLog.blockHash, eventLog.txHash, eventLog.log.index⟩

/-- The writes of one account's logs into `allEventLogsMap`: the map is the
list of its values, and a log replaces the one with its key. Go iterates the
map in no fixed order; the result is sorted afterwards. -/
def dedupeLogs (allEventLogsMap eventLogs : List RpcLog) : List RpcLog :=
  eventLogs.foldl (fun m eventLog =>
    (m.filter fun l => logKeyOf l != logKeyOf eventLog) ++ [eventLog]) allEventLogsMap

/-- The loop over the accounts of the user: the first account whose call
fails fails the request. -/
def collectLogs (node : Node) (crit : FilterCriteriaJSON) :
    List Address → List RpcLog → Except String (List RpcLog)
  | [], allEventLogsMap => .ok allEventLogsMap
  | acct :: accounts, allEventLogsMap =>
      match ethGetLogs node acct crit with
      | .error err => .error ("could not read logs. cause: " ++ err)
      | .ok eventLogs => collectLogs node crit accounts (dedupeLogs allEventLogsMap eventLogs)

/-- The `onCacheMiss` of `FilterAPI.GetLogs`. -/
def getLogsOnCacheMiss (accounts : List Address) (node : Node) (crit : FilterCriteriaJSON) :
    Except String (Option (List RpcLog)) := do
  let allEventLogsMap ← collectLogs node crit accounts []
  pure (some (sortLogs allEventLogsMap))

/-- The `CacheTypeDynamic` of `FilterAPI.GetLogs`. -/
def getLogsCacheStrategy (crit : FilterCriteriaJSON) : CacheStrategy :=
  if crit.toBlock.any fun toBlock => toBlock.toInt > 0 then .longLiving
  else if crit.blockHash.isSome then .longLiving
  -- when the toBlock or the block Hash are not specified, the request is open-ended
  else .latestBatch

/-- The request of `FilterAPI.GetLogs`, as `generateCacheKey` keys it: the
user and the filter. -/
structure GetLogsRequest where
  userID : List UInt8
  crit : FilterCriteriaJSON
  deriving DecidableEq, Repr

/-- `FilterAPI.GetLogs` as an endpoint of the gateway; `accountsOf` gives
the accounts registered for each user. -/
def getLogsEndpoint (accountsOf : List UInt8 → List Address) :
    Backend Node GetLogsRequest (List RpcLog) :=
  ⟨fun req => some ⟨.noCache, some (getLogsCacheStrategy req.crit)⟩,
    fun node req => getLogsOnCacheMiss (accountsOf req.userID) node req.crit⟩

section Dedupe

variable {allEventLogsMap eventLogs : List RpcLog}

theorem mem_dedupeLogs {x : RpcLog} (hx : x ∈ dedupeLogs allEventLogsMap eventLogs) :
    x ∈ allEventLogsMap ∨ x ∈ eventLogs := by
  induction eventLogs generalizing allEventLogsMap with
  | nil => exact .inl hx
  | cons eventLog eventLogs ih =>
    rcases ih hx with hm | hlater
    · simp only [List.mem_append, List.mem_filter, List.mem_singleton] at hm
      rcases hm with ⟨hold, -⟩ | rfl
      · exact .inl hold
      · exact .inr List.mem_cons_self
    · exact .inr (List.mem_cons_of_mem eventLog hlater)

/-- Every key of the map or of the account's logs keeps a log. -/
theorem dedupeLogs_key {k : LogKey}
    (hk : (∃ l ∈ allEventLogsMap, logKeyOf l = k) ∨ ∃ l ∈ eventLogs, logKeyOf l = k) :
    ∃ x ∈ dedupeLogs allEventLogsMap eventLogs, logKeyOf x = k := by
  induction eventLogs generalizing allEventLogsMap with
  | nil =>
    rcases hk with hm | ⟨l, hl, -⟩
    · exact hm
    · cases hl
  | cons eventLog eventLogs ih =>
    apply ih
    -- the log written now holds its key; any other key stays in the map
    by_cases hnew : logKeyOf eventLog = k
    · exact .inl ⟨eventLog, List.mem_append_right _ (List.mem_singleton_self eventLog), hnew⟩
    · rcases hk with ⟨l, hl, hlk⟩ | ⟨l, hl, hlk⟩
      · refine .inl ⟨l, List.mem_append_left _ (List.mem_filter.mpr ⟨hl, ?_⟩), hlk⟩
        simp [hlk, Ne.symm hnew]
      · rcases List.mem_cons.mp hl with rfl | hlater
        · exact absurd hlk hnew
        · exact .inr ⟨l, hlater, hlk⟩

end Dedupe

section Collect

variable {node : Node} {crit : FilterCriteriaJSON}

/-- When the node answers every account, the loop succeeds with logs that
come from the map or from an account's answer, and keeps a log of every key
of them. -/
theorem collectLogs_eq_ok {accounts : List Address} {allEventLogsMap : List RpcLog}
    (hok : ∀ acct ∈ accounts, ∃ logs, ethGetLogs node acct crit = .ok logs) :
    ∃ out, collectLogs node crit accounts allEventLogsMap = .ok out ∧
      (∀ x ∈ out, x ∈ allEventLogsMap ∨
        ∃ acct ∈ accounts, ∃ logs, ethGetLogs node acct crit = .ok logs ∧ x ∈ logs) ∧
      (∀ l ∈ allEventLogsMap, ∃ x ∈ out, logKeyOf x = logKeyOf l) ∧
      ∀ acct ∈ accounts, ∀ logs, ethGetLogs node acct crit = .ok logs →
        ∀ l ∈ logs, ∃ x ∈ out, logKeyOf x = logKeyOf l := by
  induction accounts generalizing allEventLogsMap with
  | nil =>
    refine ⟨allEventLogsMap, rfl, fun x hx => .inl hx, fun l hl => ⟨l, hl, rfl⟩, ?_⟩
    intro acct hacct
    cases hacct
  | cons acct accounts ih =>
    obtain ⟨eventLogs, hcall⟩ := hok acct List.mem_cons_self
    obtain ⟨out, hrun, hfrom, hmap, hkeys⟩ :=
      @ih (dedupeLogs allEventLogsMap eventLogs) fun a ha => hok a (List.mem_cons_of_mem acct ha)
    refine ⟨out, by simp [collectLogs, hcall, hrun], ?_, ?_, ?_⟩
    · intro x hx
      rcases hfrom x hx with hm | ⟨a, ha, logs, hlogs, hxl⟩
      · rcases mem_dedupeLogs hm with hold | hnew
        · exact .inl hold
        · exact .inr ⟨acct, List.mem_cons_self, eventLogs, hcall, hnew⟩
      · exact .inr ⟨a, List.mem_cons_of_mem acct ha, logs, hlogs, hxl⟩
    · intro l hl
      obtain ⟨y, hy, hyk⟩ := dedupeLogs_key (.inl ⟨l, hl, rfl⟩ :
        (∃ l' ∈ allEventLogsMap, logKeyOf l' = logKeyOf l) ∨ _)
      obtain ⟨x, hx, hxk⟩ := hmap y hy
      exact ⟨x, hx, hxk.trans hyk⟩
    · intro a ha logs hlogs l hl
      rcases List.mem_cons.mp ha with rfl | hlater
      · rw [hcall, Except.ok.injEq] at hlogs
        subst hlogs
        obtain ⟨y, hy, hyk⟩ := dedupeLogs_key (.inr ⟨l, hl, rfl⟩ :
          _ ∨ ∃ l' ∈ eventLogs, logKeyOf l' = logKeyOf l)
        obtain ⟨x, hx, hxk⟩ := hmap y hy
        exact ⟨x, hx, hxk.trans hyk⟩
      · exact hkeys a hlater logs hlogs l hl

/-- When the node answers every account, the gateway's answer is a value:
logs of the accounts' answers, with a log of every key they hold. -/
theorem getLogsOnCacheMiss_eq_ok {accounts : List Address}
    (hok : ∀ acct ∈ accounts, ∃ logs, ethGetLogs node acct crit = .ok logs) :
    ∃ out, getLogsOnCacheMiss accounts node crit = .ok (some out) ∧
      (∀ x ∈ out, ∃ acct ∈ accounts, ∃ logs, ethGetLogs node acct crit = .ok logs ∧ x ∈ logs) ∧
      ∀ acct ∈ accounts, ∀ logs, ethGetLogs node acct crit = .ok logs →
        ∀ l ∈ logs, ∃ x ∈ out, logKeyOf x = logKeyOf l := by
  obtain ⟨out, hrun, hfrom, -, hkeys⟩ := @collectLogs_eq_ok node crit accounts [] hok
  refine ⟨sortLogs out, by simp [getLogsOnCacheMiss, hrun], fun x hx => ?_, ?_⟩
  · rcases hfrom x ((List.mem_insertionSort _).mp hx) with hnil | hacct
    · cases hnil
    · exact hacct
  · intro acct hacct logs hlogs l hl
    obtain ⟨x, hx, hxk⟩ := hkeys acct hacct logs hlogs l hl
    exact ⟨x, (List.mem_insertionSort _).mpr hx, hxk⟩

end Collect

/-! ## A chain that grows by a batch -/

/-- The tables after a batch, its receipts and their logs are stored. -/
def appendBatch (ldb : LogDb) (b : BatchRow) (recs : List ReceiptRow)
    (logs : List EventLog) : LogDb :=
  ⟨{ ldb.db with batches := ldb.db.batches ++ [b] }, ldb.receipts ++ recs,
    { ldb.events with logs := ldb.events.logs ++ logs }⟩

/-- The node's chain grows by one canonical batch above every stored one,
with a new hash and sequence number; the head moves to it. -/
inductive Node.Grows : Node → Node → Prop
  | appendBatch (node : Node) (b : BatchRow) (recs : List ReceiptRow) (logs : List EventLog)
      (hcanon : b.isCanonical = true)
      (hheight : ∀ b' ∈ node.ldb.db.batches, b'.height < b.height)
      (hseq : ∀ b' ∈ node.ldb.db.batches, b'.sequence < b.sequence)
      (hhash : ∀ b' ∈ node.ldb.db.batches, b'.hash ≠ b.hash)
      (hrecs : ∀ rec ∈ recs, rec.batch = b.sequence) :
      Node.Grows node ⟨appendBatch node.ldb b recs logs, some b.sequence⟩

/-- No log the node returns on a chain carries the hash of a batch that is
not stored, unless that hash is the empty log's. -/
theorem blockHash_ne_of_ethGetLogs {node : Node} {acct : Address} {crit : FilterCriteriaJSON}
    {toBlock : Int64} {h : Hash} (hto : crit.toBlock = some toBlock) (hpos : 0 < toBlock.toInt)
    (hhash : crit.blockHash = none)
    (hfrom : ∀ f, crit.fromBlock = some f → 0 ≤ f.toInt ∧ f.toInt ≤ toBlock.toInt)
    (htopics : crit.topics.length ≤ 4) (hzero : h ≠ 0)
    (hfresh : ∀ b ∈ node.ldb.db.batches, b.hash ≠ h) {logs : List RpcLog}
    (hlogs : ethGetLogs node acct crit = .ok logs) : ∀ x ∈ logs, x.blockHash ≠ h := by
  obtain ⟨logs', hq, hmem⟩ := ethGetLogs_of_range node acct hto hpos hhash hfrom htopics
  rw [hq, Except.ok.injEq] at hlogs
  subst hlogs
  intro x hx
  obtain ⟨row, hrow, -, rfl⟩ := (hmem x).mp hx
  rcases blockHash_rowLog node.ldb.events row with hempty | hbatch
  · rw [hempty]
    exact Ne.symm hzero
  · rw [hbatch]
    exact hfresh row.batch (batch_mem_of_mem_joinedRows hrow)

/-- A lower bound at most a height that is at most `toBlock` is at most
`toBlock`. -/
theorem fromBlock_le_toBlock {crit : FilterCriteriaJSON} {height : Nat} {toBlock : Int64}
    (hfrom : ∀ f, crit.fromBlock = some f → 0 ≤ f.toInt ∧ f.toInt ≤ height)
    (hbelow : (height : Int) ≤ toBlock.toInt) :
    ∀ f, crit.fromBlock = some f → 0 ≤ f.toInt ∧ f.toInt ≤ toBlock.toInt := by
  intro f hf
  have hf' := hfrom f hf
  exact ⟨hf'.1, hf'.2.trans hbelow⟩

/-- A visible log that the filter selects, of a receipt of the new batch, is
returned to its account once the batch is stored. -/
theorem ethGetLogs_appendBatch {node : Node} {b : BatchRow} {recs : List ReceiptRow}
    {logs : List EventLog} {rec : ReceiptRow} {e : EventLog} {acct : Address}
    {crit : FilterCriteriaJSON} {toBlock : Int64} (hto : crit.toBlock = some toBlock)
    (hpos : 0 < toBlock.toInt) (hhash : crit.blockHash = none)
    (hfrom : ∀ f, crit.fromBlock = some f → 0 ≤ f.toInt ∧ f.toInt ≤ b.height)
    (hbelow : (b.height : Int) ≤ toBlock.toInt) (htopics : crit.topics.length ≤ 4)
    (hcanon : b.isCanonical = true) (hrecs : ∀ r ∈ recs, r.batch = b.sequence)
    (hrec : rec ∈ recs) (he : e ∈ logs) (hreceipt : e.receipt = rec.id)
    (hvis : Events.logVisible node.ldb.events acct rec.txSender e = true)
    (haddr : addressMatches node.ldb.events crit.addresses ⟨b, rec, some e⟩ = true)
    (htopic : topicsMatch crit.topics (topicColumns node.ldb.events (some e)) = true) :
    ∃ fresh, ethGetLogs ⟨appendBatch node.ldb b recs logs, some b.sequence⟩ acct crit =
      .ok fresh ∧ ∃ l ∈ fresh, l.blockHash = b.hash := by
  have hfrom' := fromBlock_le_toBlock hfrom hbelow
  obtain ⟨fresh, hq, hmem⟩ := ethGetLogs_of_range ⟨appendBatch node.ldb b recs logs,
    some b.sequence⟩ acct hto hpos hhash hfrom' htopics
  have hrow : (⟨b, rec, some e⟩ : JoinedRow) ∈ joinedRows (appendBatch node.ldb b recs logs) :=
    mem_joinedRows (List.mem_append_right _ hrec) (List.mem_append_right _ (List.mem_singleton_self b))
      (hrecs rec hrec).symm hcanon (List.mem_append_right _ he) hreceipt
  have hheight : inHeightRange (crit.fromBlock.map Int64.toInt) (some toBlock.toInt) b.height =
      true := by
    cases hf : crit.fromBlock with
    | none => simp [inHeightRange, hbelow]
    | some f => simp [inHeightRange, (hfrom f hf).2, hbelow]
  -- visibility, addresses and topics read only the tables the batch leaves alone
  have hsel : rowSelected (appendBatch node.ldb b recs logs) acct (crit.fromBlock.map Int64.toInt)
      (some toBlock.toInt) none crit.addresses crit.topics ⟨b, rec, some e⟩ = true := by
    simp only [rowSelected, Bool.and_eq_true]
    exact ⟨⟨⟨⟨hvis, rfl⟩, hheight⟩, haddr⟩, htopic⟩
  exact ⟨fresh, hq, _, (hmem _).mpr ⟨_, hrow, hsel, rfl⟩, rfl⟩

/-- The node with the two batches of `twoBatchDb`, at the head of the second. -/
def twoBatchNode : Node := ⟨twoBatchDb, some 2⟩

example : (getLogsEndpoint fun _ => [Events.alice]).answer twoBatchNode
    ⟨[], ⟨none, none, some 3, [], []⟩⟩ =
      .ok (some [emptyLog, ⟨⟨7, [1], [], 0⟩, (batchAt 1).hash, 1, (receiptAt 0 1).txHash, 0⟩,
        ⟨⟨7, [1], [], 0⟩, (batchAt 2).hash, 2, (receiptAt 1 2).txHash, 0⟩]) := by
  decide

end GoTen.WalletExtension.RpcCache
