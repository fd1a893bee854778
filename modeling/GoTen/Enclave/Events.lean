import GoTen.Common.Types
import GoTen.Verified.Result

/-!
# Event logs and who may see them (`storage/events_storage.go`, `enclavedb/events.go`)

The enclave stores each event log of an executed transaction with the rows
that decide who may read it:

* an `event_type` row per contract and event signature, created when the
  contract is deployed with a visibility configuration, or when the event is
  first emitted (`storeAutoConfigEventType`): a type of a non-transparent
  contract then has `auto_visibility`, and its `auto_public` flag is set once,
  from the topics of that first log (`setAutoVisibilityWhenEventFirstEmitted`);
* an `event_topic` row per topic value and event type, created the first time
  the value is seen, with the externally owned account the value names, if
  any (`storeTopic`, `determineRelevantAddressForTopic`);
* the `event_log` row, pointing at its type and its three topic rows.

`logsVisibilityQuery` is the SQL predicate the database path applies to a
log when answering a requester. The receipt RPC first tries a cache of recent
receipts, and filters their logs with `senderCanViewLog`, its own encoding of
the same rules; but it serves a cached receipt only to the very pointer the
receipt was cached with, and every request comes with a pointer of its own.

Row ids are the position of a row in its table. The cache of storage is
cold: every read goes to the tables.

## Main results

* `autoPublic_firstEmission`: the first log of a new auto-configured type
  sets its `auto_public` flag, and the flag keeps that value over every run
  of stored logs that follows (`autoPublic_reachable`).
* `getTransactionReceiptExecute_eq_readReceipt`: in every run of the
  enclave, whatever the receipt cache holds, every receipt request is
  answered from the database; `fetchFromCache_senderMiss` is a sender asking
  for a receipt the cache holds.
* `visibleLogs_firstEmission`: a log whose visibility depends on which log
  of its type came first.
* `storeEventLogs_anonymousLog`: storing a receipt's logs panics at a log
  without topics.
-/

namespace GoTen.Enclave.Events

open GoTen.Common
open GoTen.Verified

/-! ## Tables -/

/-- `enclavedb.Contract` as visibility reads it. -/
structure Contract where
  address : Address
  transparent : Option Bool
  deriving DecidableEq, Repr

/-- `Contract.IsTransparent`. -/
def Contract.isTransparent (c : Contract) : Bool :=
  c.transparent == some true

/-- A row of `event_type` (`enclavedb.EventType`). -/
structure EventType where
  id : Nat
  contract : Contract
  eventSignature : Hash
  autoVisibility : Bool
  autoPublic : Option Bool
  configPublic : Bool
  topic1CanView : Option Bool
  topic2CanView : Option Bool
  topic3CanView : Option Bool
  senderCanView : Option Bool
  deriving DecidableEq, Repr

/-- `EventType.IsPublic`. -/
def EventType.isPublic (et : EventType) : Bool :=
  et.contract.isTransparent || et.configPublic

/-- `EventType.IsTopicRelevant`, which panics on a topic number other than
one, two and three. -/
def EventType.isTopicRelevant (et : EventType) : Nat → Except Failure Bool
  | 1 => .ok (et.topic1CanView == some true)
  | 2 => .ok (et.topic2CanView == some true)
  | 3 => .ok (et.topic3CanView == some true)
  | n => .error (.panic s!"unknown topic no: {n}")

/-- A row of `externally_owned_account`. -/
structure Eoa where
  id : Nat
  address : Address
  deriving DecidableEq, Repr

/-- A row of `event_topic`: a topic value of an event type, and the account
it makes the log relevant to. -/
structure EventTopic where
  id : Nat
  eventType : Nat
  topic : Hash
  relAddress : Option Nat
  deriving DecidableEq, Repr

/-- A row of `event_log`: its type, its three user topics and its receipt. -/
structure EventLog where
  eventType : Nat
  topic1 : Option Nat
  topic2 : Option Nat
  topic3 : Option Nat
  data : List UInt8
  logIdx : Nat
  receipt : Nat
  deriving DecidableEq, Repr

/-- The tables visibility depends on. -/
structure EventDb where
  contracts : List Contract
  eoas : List Eoa
  eventTypes : List EventType
  topics : List EventTopic
  logs : List EventLog
  deriving DecidableEq, Repr

/-! ## Reads -/

/-- `ReadContractByAddress`. -/
def readContract (db : EventDb) (addr : Address) : Option Contract :=
  db.contracts.find? fun c => c.address == addr

/-- `ReadEventType` for the contract at an address. -/
def readEventType (db : EventDb) (addr : Address) (eventSignature : Hash) : Option EventType :=
  db.eventTypes.find? fun et => et.contract.address == addr && et.eventSignature == eventSignature

/-- `ReadEoa`: the id of an account. -/
def readEoa (db : EventDb) (addr : Address) : Option Nat :=
  (db.eoas.find? fun e => e.address == addr).map Eoa.id

/-- `ReadEventTopic`: the row of a topic value of an event type. -/
def findTopic (db : EventDb) (topic : Hash) (eventTypeId : Nat) : Option Nat :=
  (db.topics.find? fun t => t.topic == topic && t.eventType == eventTypeId).map EventTopic.id

/-- `ReadRelevantAddressFromEventTopic`. -/
def relevantAddressOf (db : EventDb) (topicId : Nat) : Option Nat :=
  (db.topics.find? fun t => t.id == topicId).bind EventTopic.relAddress

/-- `common.ExtractPotentialAddress`: a topic whose value has fewer than 80
or more than 160 bits is not an address; otherwise the address is its low
twenty bytes. -/
def extractPotentialAddress (topic : Hash) : Option Address :=
  if topic.toNat < 2 ^ 79 ∨ 2 ^ 160 ≤ topic.toNat then none
  else some (topic.setWidth 160)

/-! ## Writes -/

/-- `WriteEoa`. -/
def writeEoa (db : EventDb) (addr : Address) : EventDb :=
  { db with eoas := db.eoas ++ [⟨db.eoas.length, addr⟩] }

/-- `storeAutoConfigEventType`: the type of an event first emitted without a
configuration. -/
def storeAutoConfigEventType (db : EventDb) (contract : Contract) (eventSignature : Hash) :
    EventType × EventDb :=
  let et : EventType :=
    { id := db.eventTypes.length
      contract := contract
      eventSignature := eventSignature
      autoVisibility := !contract.isTransparent
      autoPublic := none
      configPublic := contract.isTransparent
      topic1CanView := none
      topic2CanView := none
      topic3CanView := none
      senderCanView := none }
  (et, { db with eventTypes := db.eventTypes ++ [et] })

/-- What `storeAutoConfigEventType` returned: the type appended as the last
row, at the position of its id, auto-visible for a non-transparent contract,
and without a flag. -/
theorem storeAutoConfigEventType_inv {db db₁ : EventDb} {contract : Contract}
    {eventSignature : Hash} {et : EventType}
    (h : (et, db₁) = storeAutoConfigEventType db contract eventSignature) :
    db₁ = { db with eventTypes := db.eventTypes ++ [et] } ∧ et.id = db.eventTypes.length ∧
      et.autoVisibility = !contract.isTransparent ∧ et.configPublic = contract.isTransparent ∧
      et.autoPublic = none := by
  obtain ⟨rfl, rfl⟩ := Prod.mk.inj h
  exact ⟨rfl, rfl, rfl, rfl, rfl⟩

/-- `determineRelevantAddressForTopic`. Under auto visibility an address
that is neither a known account nor a contract is stored as a new account.
For a configured topic without an address the source returns `ErrNotFound`,
which `storeTopic` ignores: no relevant address. -/
def determineRelevantAddressForTopic (db : EventDb) (et : EventType) (topicNo : Nat)
    (topic : Hash) : Except Failure (Option Address × EventDb) :=
  if et.autoVisibility then
    match extractPotentialAddress topic with
    | none => .ok (none, db)
    | some addr =>
        if (readEoa db addr).isSome then .ok (some addr, db)
        -- if the address is a contract then it's clearly not an EOA
        else if (readContract db addr).isSome then .ok (none, db)
        else .ok (some addr, writeEoa db addr)
  else if et.isPublic then .ok (none, db)
  else do
    let relevant ← et.isTopicRelevant topicNo
    if relevant then .ok (extractPotentialAddress topic, db) else .ok (none, db)

/-- `storeTopic`: the new row of a topic value, with the id of its relevant
account. -/
def storeTopic (db : EventDb) (et : EventType) (topicNo : Nat) (topic : Hash) :
    Except Failure (Nat × EventDb) := do
  let (relevantAddress, db) ← determineRelevantAddressForTopic db et topicNo topic
  let relAddressId ← match relevantAddress with
    | none => pure none
    | some addr => match readEoa db addr with
      | some id => pure (some id)
      | none => throw (.error "not found")
  let id := db.topics.length
  return (id, { db with topics := db.topics ++ [⟨id, et.id, topic, relAddressId⟩] })

/-- The loop of `storeTopics` from user topic number `i` on: a topic value
already stored for the type reuses its row. The three slots of `topicIds`
hold topics one to three; a fourth user topic is out of range. -/
def storeTopicsFrom (et : EventType) :
    Nat → List Hash → EventDb → List (Option Nat) → Except Failure (List (Option Nat) × EventDb)
  | _, [], db, topicIds => .ok (topicIds, db)
  | i, topic :: rest, db, topicIds => do
      let (topicId, db) ← match findTopic db topic et.id with
        | some id => pure (id, db)
        | none => storeTopic db et i topic
      if i - 1 < 3 then storeTopicsFrom et (i + 1) rest db (topicIds.set (i - 1) (some topicId))
      else throw (.panic "index out of range [3] with length 3")

/-- `UpdateEventTypeAutoPublic`. -/
def updateEventTypeAutoPublic (db : EventDb) (etId : Nat) (isPublic : Bool) : EventDb :=
  { db with eventTypes := db.eventTypes.map fun et =>
      if et.id = etId then { et with autoPublic := some isPublic } else et }

/-- `setAutoVisibilityWhenEventFirstEmitted`: for an auto-visible type whose
flag is not set yet, the type is public when no topic of this log names an
account. -/
def setAutoVisibilityWhenEventFirstEmitted (db : EventDb) (et : EventType)
    (topicIds : List (Option Nat)) : EventDb :=
  if !et.configPublic && et.autoVisibility && et.autoPublic.isNone then
    let isPublic := topicIds.all fun topicId => match topicId with
      | none => true
      | some id => (relevantAddressOf db id).isNone
    updateEventTypeAutoPublic db et.id isPublic
  else db

/-- `WriteEventLog`. -/
def writeEventLog (db : EventDb) (eventTypeId : Nat) (topicIds : List (Option Nat))
    (data : List UInt8) (logIdx execTx : Nat) : EventDb :=
  { db with logs := db.logs ++
      [⟨eventTypeId, topicIds.getD 0 none, topicIds.getD 1 none, topicIds.getD 2 none, data,
        logIdx, execTx⟩] }

/-- Writing a log row leaves the event types alone. -/
@[simp] theorem writeEventLog_eventTypes (db : EventDb) (eventTypeId : Nat)
    (topicIds : List (Option Nat)) (data : List UInt8) (logIdx execTx : Nat) :
    (writeEventLog db eventTypeId topicIds data logIdx execTx).eventTypes = db.eventTypes := rfl

/-- `eventsStorage.storeEventLog`: the log's type (created on first
emission), its topic rows, the log row, and the auto-public flag. -/
def storeEventLog (db : EventDb) (execTxId : Nat) (l : Log) : Except Failure EventDb :=
  match l.topics with
  | [] => .error (.panic "index out of range [0] with length 0")
  | eventSig :: userTopics =>
      match readContract db l.address with
      | none => .error (.error "could not read contract address. Cause: not found")
      | some contract => do
          let (eventType, db) := match readEventType db l.address eventSig with
            | some et => (et, db)
            | none => storeAutoConfigEventType db contract eventSig
          let (topicIds, db) ← storeTopicsFrom eventType 1 userTopics db [none, none, none]
          let db := writeEventLog db eventType.id topicIds l.data l.index execTxId
          return setAutoVisibilityWhenEventFirstEmitted db eventType topicIds

/-- The logs of one receipt, stored in order. -/
def storeEventLogs (db : EventDb) (execTxId : Nat) : List Log → Except Failure EventDb
  | [] => .ok db
  | l :: ls => do
      let db ← storeEventLog db execTxId l
      storeEventLogs db execTxId ls

/-! ## The database path -/

/-- The account a topic row of the log names (`eoaN` in the join). -/
def eoaOf (db : EventDb) (topicRow : Option EventTopic) : Option Address :=
  (topicRow.bind EventTopic.relAddress).bind fun id =>
    (db.eoas.find? fun e => e.id == id).map Eoa.address

/-- The topic row `tN` of the join: the row of the id in the log, of the
log's type. -/
def topicRowOf (db : EventDb) (etId : Nat) (topicId : Option Nat) : Option EventTopic :=
  topicId.bind fun id => db.topics.find? fun t => t.id == id && t.eventType == etId

/-- `logsVisibilityQuery` for one log of a canonical batch, with the sender
of its transaction. The source joins `t3` on `t1.event_type`. -/
def logVisible (db : EventDb) (requester txSender : Address) (e : EventLog) : Bool :=
  match db.eventTypes.find? fun et => et.id == e.eventType with
  | none => false
  | some et =>
      let t1 := topicRowOf db et.id e.topic1
      let t2 := topicRowOf db et.id e.topic2
      let t3 := if t1.isSome then e.topic3.bind fun id => db.topics.find? fun t => t.id == id
        else none
      let eoa1 := eoaOf db t1
      let eoa2 := eoaOf db t2
      let eoa3 := eoaOf db t3
      et.configPublic ||
        (et.autoVisibility && (et.autoPublic == some true || eoa1 == some requester ||
          eoa2 == some requester || eoa3 == some requester)) ||
        (!et.autoVisibility && !et.configPublic &&
          ((et.topic1CanView == some true && eoa1 == some requester) ||
            (et.topic2CanView == some true && eoa2 == some requester) ||
            (et.topic3CanView == some true && eoa3 == some requester) ||
            (et.senderCanView == some true && txSender == requester)))

/-- The log a row stands for, as `onRowWithEventLogAndReceipt` rebuilds it. -/
def rowToLog (db : EventDb) (e : EventLog) : Log :=
  match db.eventTypes.find? fun et => et.id == e.eventType with
  | none => ⟨0, [], e.data, e.logIdx⟩
  | some et =>
      let topicOf := fun (topicId : Option Nat) =>
        (topicRowOf db et.id topicId).map EventTopic.topic
      ⟨et.contract.address, et.eventSignature :: [topicOf e.topic1, topicOf e.topic2,
        topicOf e.topic3].filterMap id, e.data, e.logIdx⟩

/-- `loadReceiptsAndEventLogs` for the receipt `execTx`: its logs that the
requester may see. -/
def visibleLogs (db : EventDb) (requester txSender : Address) (execTx : Nat) : List Log :=
  ((db.logs.filter fun e => e.receipt == execTx && logVisible db requester txSender e).map
    (rowToLog db))

/-! ## The cache path -/

/-- A Go pointer to an address: the allocation it points to, and the
address stored there. Go's `==` on pointers compares allocations. -/
structure AddressRef where
  ref : Nat
  address : Address
  deriving DecidableEq, Repr

/-- `storage.CachedReceipt`. -/
structure CachedReceipt where
  receipt : Receipt
  fromAddr : AddressRef
  toAddr : Option Address
  deriving DecidableEq, Repr

/-- `isAddress`: `gethcommon.Address(topics[nr].Bytes())` converts the
32-byte slice to a 20-byte array, which keeps its first twenty bytes. -/
def isAddress (topics : List Hash) (nr : Nat) (requester : Address) : Bool :=
  match topics[nr]? with
  | none => false
  | some topic => topic.extractLsb' 96 160 == requester

/-- `senderCanViewLog`: the event type is read for the contract the
transaction called. -/
def senderCanViewLog (db : EventDb) (ctr : Contract) (l : Log) (sender : Address) :
    Except Failure Bool :=
  match l.topics with
  | [] => .error (.panic "index out of range [0] with length 0")
  | eventSig :: _ =>
      match readEventType db ctr.address eventSig with
      | none => .error (.error
          "could not read event type in eth_getTransactionReceipt request. Cause: not found")
      | some eventType => .ok (eventType.isPublic || eventType.autoPublic == some true ||
          eventType.senderCanView == some true ||
          (eventType.topic1CanView == some true && isAddress l.topics 1 sender) ||
          (eventType.topic2CanView == some true && isAddress l.topics 2 sender) ||
          (eventType.topic3CanView == some true && isAddress l.topics 3 sender) ||
          (eventType.autoVisibility && (isAddress l.topics 1 sender ||
            isAddress l.topics 2 sender || isAddress l.topics 3 sender)))

/-- `filterLogs`. -/
def filterLogs (db : EventDb) (ctr : Contract) (sender : Address) :
    List Log → Except Failure (List Log)
  | [] => .ok []
  | l :: ls => do
      let canView ← senderCanViewLog db ctr l sender
      let rest ← filterLogs db ctr sender ls
      return if canView then l :: rest else rest

/-- `fetchFromCache`: the cached receipt and the logs shown, or `none` when
the receipt is not cached or the requester pointer is not the cached
sender pointer. -/
def fetchFromCache (db : EventDb) (cache : Hash → Option CachedReceipt) (txHash : Hash)
    (requester : AddressRef) : Except Failure (Option (Receipt × List Log)) :=
  match cache txHash with
  | none => .ok none
  | some rec =>
      if rec.fromAddr.ref ≠ requester.ref then .ok none
      else
        let logs := rec.receipt.logs
        match rec.toAddr with
        | some toAddr =>
            if logs ≠ [] ∧ toAddr ≠ 0 then
              match readContract db toAddr with
              | none => .ok (some (rec.receipt, logs))
              | some ctr => do
                  let logs ← filterLogs db ctr requester.address rec.receipt.logs
                  return some (rec.receipt, logs)
            else .ok (some (rec.receipt, logs))
        | none => .ok (some (rec.receipt, logs))

/-! ## Event type rows over runs -/

/-- Every event type row's id is its position, as `LastInsertId` gives it. -/
def EventDb.Keyed (db : EventDb) : Prop :=
  ∀ i (h : i < db.eventTypes.length), db.eventTypes[i].id = i

/-- The event type rows and the contract rows, which the topic writes leave
alone. -/
def EventDb.SameTypes (db db' : EventDb) : Prop :=
  db'.eventTypes = db.eventTypes ∧ db'.contracts = db.contracts

theorem frame_determineRelevantAddressForTopic {db db' : EventDb} {et : EventType}
    {topicNo : Nat} {topic : Hash} {addr : Option Address}
    (h : determineRelevantAddressForTopic db et topicNo topic = .ok (addr, db')) :
    db.SameTypes db' := by
  unfold determineRelevantAddressForTopic at h
  split at h
  · split at h
    · cases h; exact ⟨rfl, rfl⟩
    · split at h
      · cases h; exact ⟨rfl, rfl⟩
      · split at h
        · cases h; exact ⟨rfl, rfl⟩
        · cases h; exact ⟨rfl, rfl⟩
  · split at h
    · cases h; exact ⟨rfl, rfl⟩
    · rw [Result.bind_eq_ok] at h
      obtain ⟨relevant, -, h⟩ := h
      split at h <;> cases h <;> exact ⟨rfl, rfl⟩

/-- `storeTopic` appends one topic row, of the type, after the accounts
`determineRelevantAddressForTopic` may have added. -/
theorem storeTopic_inv {db db' : EventDb} {et : EventType} {topicNo : Nat}
    {topic : Hash} {id : Nat} (h : storeTopic db et topicNo topic = .ok (id, db')) :
    ∃ addr db₁ relId, determineRelevantAddressForTopic db et topicNo topic = .ok (addr, db₁) ∧
      id = db₁.topics.length ∧
      db' = { db₁ with topics := db₁.topics ++ [⟨id, et.id, topic, relId⟩] } := by
  unfold storeTopic at h
  rw [Result.bind_eq_ok] at h
  obtain ⟨⟨addr, db₁⟩, hdet, h⟩ := h
  refine ⟨addr, db₁, ?_⟩
  dsimp only at h
  rcases addr with _ | a
  · simp only [pure, Except.pure, bind, Except.bind, Except.ok.injEq, Prod.mk.injEq] at h
    obtain ⟨rfl, rfl⟩ := h
    exact ⟨none, hdet, rfl, rfl⟩
  · cases hfind : readEoa db₁ a with
    | none => simp [hfind, bind, Except.bind, throw, throwThe, MonadExceptOf.throw] at h
    | some relId =>
        simp only [hfind, pure, Except.pure, bind, Except.bind, Except.ok.injEq,
          Prod.mk.injEq] at h
        obtain ⟨rfl, rfl⟩ := h
        exact ⟨some relId, hdet, rfl, rfl⟩

theorem frame_storeTopic {db db' : EventDb} {et : EventType} {topicNo : Nat}
    {topic : Hash} {id : Nat} (h : storeTopic db et topicNo topic = .ok (id, db')) :
    db.SameTypes db' := by
  obtain ⟨_, _, _, hdet, -, rfl⟩ := storeTopic_inv h
  have hframe := frame_determineRelevantAddressForTopic hdet
  exact hframe

theorem frame_storeTopicsFrom {et : EventType} {i : Nat} {topics : List Hash}
    {db db' : EventDb} {topicIds topicIds' : List (Option Nat)}
    (h : storeTopicsFrom et i topics db topicIds = .ok (topicIds', db')) :
    db.SameTypes db' := by
  induction topics generalizing i db topicIds with
  | nil =>
      rw [storeTopicsFrom] at h
      cases h
      exact ⟨rfl, rfl⟩
  | cons topic rest ih =>
      rw [storeTopicsFrom] at h
      -- a topic value already stored reuses its row; a new one gets a row
      split at h
      · simp only [pure, Except.pure, bind, Except.bind] at h
        split at h
        · exact ih h
        · cases h
      · rw [Result.bind_eq_ok] at h
        obtain ⟨⟨topicId, db₁⟩, hstore, h⟩ := h
        dsimp only at h
        split at h
        · obtain ⟨htypes, hcontracts⟩ := ih h
          obtain ⟨htypes₁, hcontracts₁⟩ := frame_storeTopic hstore
          exact ⟨htypes.trans htypes₁, hcontracts.trans hcontracts₁⟩
        · cases h

/-- What `storeEventLog` did: the log's type, read or created, its topic
rows, the log row and the flag. -/
theorem storeEventLog_inv {db db' : EventDb} {execTxId : Nat} {l : Log}
    (h : storeEventLog db execTxId l = .ok db') :
    ∃ eventSig userTopics contract eventType db₁ topicIds db₂,
      l.topics = eventSig :: userTopics ∧ readContract db l.address = some contract ∧
      ((readEventType db l.address eventSig = some eventType ∧ db₁ = db) ∨
        (readEventType db l.address eventSig = none ∧
          (eventType, db₁) = storeAutoConfigEventType db contract eventSig)) ∧
      storeTopicsFrom eventType 1 userTopics db₁ [none, none, none] = .ok (topicIds, db₂) ∧
      db' = setAutoVisibilityWhenEventFirstEmitted
        (writeEventLog db₂ eventType.id topicIds l.data l.index execTxId) eventType topicIds := by
  unfold storeEventLog at h
  split at h
  · cases h
  · rename_i eventSig userTopics htopics
    split at h
    · cases h
    · rename_i contract hcontract
      cases het : readEventType db l.address eventSig with
      | none =>
          rw [het] at h
          dsimp only at h
          rw [Result.bind_eq_ok] at h
          obtain ⟨⟨topicIds, db₂⟩, hstore, hret⟩ := h
          refine ⟨eventSig, userTopics, contract, _, _, topicIds, db₂, htopics, hcontract,
            .inr ⟨het, rfl⟩, hstore, ?_⟩
          exact (Result.pure_eq_ok.mp hret).symm
      | some et =>
          rw [het] at h
          dsimp only at h
          rw [Result.bind_eq_ok] at h
          obtain ⟨⟨topicIds, db₂⟩, hstore, hret⟩ := h
          refine ⟨eventSig, userTopics, contract, et, db, topicIds, db₂, htopics, hcontract,
            .inl ⟨het, rfl⟩, hstore, ?_⟩
          exact (Result.pure_eq_ok.mp hret).symm

theorem EventDb.Keyed.of_eventTypes {db db' : EventDb} (hk : db.Keyed)
    (h : db'.eventTypes = db.eventTypes) : db'.Keyed := by
  unfold EventDb.Keyed
  rw [h]
  exact hk

/-- In a keyed table a row sits at the position of its id. -/
theorem EventDb.Keyed.getElem?_id {db : EventDb} (hk : db.Keyed) {et : EventType}
    (hmem : et ∈ db.eventTypes) : db.eventTypes[et.id]? = some et := by
  obtain ⟨i, hi, rfl⟩ := List.mem_iff_getElem.mp hmem
  rw [hk i hi]
  exact List.getElem?_eq_getElem hi

theorem keyed_storeAutoConfigEventType {db : EventDb} (hk : db.Keyed) (contract : Contract)
    (eventSignature : Hash) : (storeAutoConfigEventType db contract eventSignature).2.Keyed := by
  intro i hi
  simp only [storeAutoConfigEventType, List.length_append, List.length_singleton] at hi ⊢
  rcases Nat.lt_or_ge i db.eventTypes.length with hlt | hge
  · rw [List.getElem_append_left hlt]
    exact hk i hlt
  · have hlast : i = db.eventTypes.length := by omega
    subst hlast
    simp

theorem keyed_updateEventTypeAutoPublic {db : EventDb} (hk : db.Keyed) (etId : Nat)
    (isPublic : Bool) : (updateEventTypeAutoPublic db etId isPublic).Keyed := by
  intro i hi
  simp only [updateEventTypeAutoPublic, List.length_map] at hi
  simp only [updateEventTypeAutoPublic, List.getElem_map]
  split
  · exact hk i hi
  · exact hk i hi

theorem storeEventLog_keyed {db db' : EventDb} {execTxId : Nat} {l : Log} (hk : db.Keyed)
    (h : storeEventLog db execTxId l = .ok db') : db'.Keyed := by
  obtain ⟨eventSig, userTopics, contract, eventType, db₁, topicIds, db₂, -, -, hread, hstore,
    rfl⟩ := storeEventLog_inv h
  have hk₁ : db₁.Keyed := by
    rcases hread with ⟨-, rfl⟩ | ⟨-, hnew⟩
    · exact hk
    · have hnewKeyed := keyed_storeAutoConfigEventType hk contract eventSig
      rw [← hnew] at hnewKeyed
      exact hnewKeyed
  have hk₂ : db₂.Keyed := hk₁.of_eventTypes (frame_storeTopicsFrom hstore).1
  unfold setAutoVisibilityWhenEventFirstEmitted
  split
  · exact keyed_updateEventTypeAutoPublic hk₂ _ _
  · exact hk₂

/-- A row whose flag is set keeps it through one stored log. -/
theorem storeEventLog_autoPublic {db db' : EventDb} {execTxId : Nat} {l : Log}
    (hk : db.Keyed) (h : storeEventLog db execTxId l = .ok db') {i : Nat} {b : Bool}
    (hi : (db.eventTypes[i]?).map EventType.autoPublic = some (some b)) :
    (db'.eventTypes[i]?).map EventType.autoPublic = some (some b) := by
  obtain ⟨row, hrowi, hrowFlag⟩ := Option.map_eq_some_iff.mp hi
  obtain ⟨eventSig, userTopics, contract, eventType, db₁, topicIds, db₂, -, -, hread, hstore,
    rfl⟩ := storeEventLog_inv h
  have hlt : i < db.eventTypes.length := (List.getElem?_eq_some_iff.mp hrowi).1
  -- before the flag is set, the rows up to `i` are those of `db`
  have hrow : db₂.eventTypes[i]? = some row := by
    rw [(frame_storeTopicsFrom hstore).1]
    rcases hread with ⟨-, rfl⟩ | ⟨-, hnew⟩
    · exact hrowi
    · obtain ⟨rfl, -⟩ := storeAutoConfigEventType_inv hnew
      show (db.eventTypes ++ [eventType])[i]? = some row
      rw [List.getElem?_append_left hlt]
      exact hrowi
  have hrowId : row.id = i := by
    obtain ⟨hlt', hget⟩ := List.getElem?_eq_some_iff.mp hrowi
    rw [← hget]
    exact hk i hlt
  unfold setAutoVisibilityWhenEventFirstEmitted
  split
  · rename_i hcond
    simp only [Bool.and_eq_true, Bool.not_eq_true', Option.isNone_iff_eq_none] at hcond
    -- the type whose flag is set has none yet, so it is not the row at `i`
    have hne : row.id ≠ eventType.id := by
      intro hid
      rcases hread with ⟨hfound, -⟩ | ⟨-, hnew⟩
      · have hat := hk.getElem?_id (List.mem_of_find?_eq_some hfound)
        rw [← hid, hrowId, hrowi] at hat
        cases hat
        rw [hcond.2] at hrowFlag
        cases hrowFlag
      · have hid' : eventType.id = db.eventTypes.length := (storeAutoConfigEventType_inv hnew).2.1
        omega
    simp only [updateEventTypeAutoPublic, List.getElem?_map]
    rw [writeEventLog_eventTypes, hrow]
    simp [hne, hrowFlag]
  · rw [writeEventLog_eventTypes, hrow]
    simp [hrowFlag]

/-- States reached from `db₀` by storing logs and registering accounts, as
executed batches do. -/
inductive Reachable (db₀ : EventDb) : EventDb → Prop
  | init : Reachable db₀ db₀
  | log {db db' : EventDb} (execTxId : Nat) (l : Log) :
      Reachable db₀ db → storeEventLog db execTxId l = .ok db' → Reachable db₀ db'
  | eoa {db : EventDb} (addr : Address) : Reachable db₀ db → Reachable db₀ (writeEoa db addr)

theorem Reachable.keyed {db₀ db : EventDb} (hk : db₀.Keyed) (h : Reachable db₀ db) : db.Keyed := by
  induction h with
  | init => exact hk
  | log _ _ _ hstore ih => exact storeEventLog_keyed ih hstore
  | eoa _ _ ih => exact ih.of_eventTypes rfl

/-- Once the flag of an event type is set, it stays set to the same value in
every state reached afterwards. -/
theorem autoPublic_reachable {db₀ db : EventDb} (hk : db₀.Keyed) (h : Reachable db₀ db)
    {i : Nat} {b : Bool} (hi : (db₀.eventTypes[i]?).map EventType.autoPublic = some (some b)) :
    (db.eventTypes[i]?).map EventType.autoPublic = some (some b) := by
  induction h with
  | init => exact hi
  | log _ _ hreach hstore ih => exact storeEventLog_autoPublic (hreach.keyed hk) hstore ih
  | eoa _ _ ih => exact ih

/-- The first log of a signature of a non-transparent contract sets the flag
of the new type. -/
theorem storeEventLog_new_autoPublic {db db' : EventDb} {execTxId : Nat} {l : Log}
    {eventSig : Hash} {userTopics : List Hash} {contract : Contract}
    (htopics : l.topics = eventSig :: userTopics)
    (hcontract : readContract db l.address = some contract)
    (hnotTransparent : contract.isTransparent = false)
    (hnew : readEventType db l.address eventSig = none)
    (h : storeEventLog db execTxId l = .ok db') :
    ∃ b, (db'.eventTypes[db.eventTypes.length]?).map EventType.autoPublic = some (some b) := by
  obtain ⟨eventSig', userTopics', contract', eventType, db₁, topicIds, db₂, htopics', hcontract',
    hread, hstore, rfl⟩ := storeEventLog_inv h
  rw [htopics] at htopics'
  obtain ⟨rfl, -⟩ := List.cons.inj htopics'
  rw [hcontract] at hcontract'
  cases hcontract'
  rcases hread with ⟨hfound, -⟩ | ⟨-, hstored⟩
  · rw [hnew] at hfound
    cases hfound
  · -- the new type sits after the old rows, without a flag
    obtain ⟨rfl, hid, hauto, hconfig, hnone⟩ := storeAutoConfigEventType_inv hstored
    have hrow : db₂.eventTypes[db.eventTypes.length]? = some eventType := by
      rw [(frame_storeTopicsFrom hstore).1]
      simp
    have hcond : (!eventType.configPublic && eventType.autoVisibility &&
        eventType.autoPublic.isNone) = true := by
      simp [hauto, hconfig, hnone, hnotTransparent]
    unfold setAutoVisibilityWhenEventFirstEmitted
    rw [if_pos hcond]
    simp only [updateEventTypeAutoPublic, List.getElem?_map]
    rw [writeEventLog_eventTypes, hrow]
    simp [hid]

/-- The first log of a signature of a non-transparent contract fixes the
`auto_public` flag of the type it creates: the flag it sets stays in every
state reached afterwards, whichever logs come next. -/
theorem autoPublic_firstEmission {db db₁ : EventDb} {execTxId : Nat} {l : Log}
    {eventSig : Hash} {userTopics : List Hash} {contract : Contract} (hk : db.Keyed)
    (htopics : l.topics = eventSig :: userTopics)
    (hcontract : readContract db l.address = some contract)
    (hnotTransparent : contract.isTransparent = false)
    (hnew : readEventType db l.address eventSig = none)
    (h : storeEventLog db execTxId l = .ok db₁) :
    ∃ b, ∀ db', Reachable db₁ db' →
      (db'.eventTypes[db.eventTypes.length]?).map EventType.autoPublic = some (some b) := by
  obtain ⟨b, hb⟩ := storeEventLog_new_autoPublic htopics hcontract hnotTransparent hnew h
  exact ⟨b, fun db' hreach => autoPublic_reachable (storeEventLog_keyed hk h) hreach hb⟩

/-! ## The two paths -/

/-- The cache serves a receipt only to the pointer stored with it. -/
theorem fetchFromCache_other_pointer {db : EventDb} {cache : Hash → Option CachedReceipt}
    {txHash : Hash} {rec : CachedReceipt} (hrec : cache txHash = some rec)
    {requester : AddressRef} (hptr : rec.fromAddr.ref ≠ requester.ref) :
    fetchFromCache db cache txHash requester = .ok none := by
  rw [fetchFromCache, hrec]
  dsimp only
  rw [if_pos hptr]

/-! ## The receipt RPC over runs

`storeReceiptAndEventLogs` stores the logs of an executed transaction and
hands the receipt to the cache with `txExecResult.From`, a pointer the
execution allocated. A request reaches `GetTransactionReceiptExecute` with
`builder.VK.AccountAddress`, a pointer `VerifyViewingKey` allocates for that
request. Allocations are numbered in the order the enclave makes them. -/

/-- A receipt in the database, with the sender and the callee of its
transaction. -/
structure StoredReceipt where
  txHash : Hash
  execTx : Nat
  sender : Address
  toAddr : Option Address
  receipt : Receipt
  deriving DecidableEq, Repr

/-- What `GetTransactionReceiptExecute` leaves in the call builder. -/
inductive ReceiptAnswer where
  | receipt (r : Receipt) (logs : List Log)
  | notFound
  | notAuthorised
  deriving DecidableEq, Repr

/-- The database path: `ExistsTransactionReceipt`, then `ReadReceipt`, which
shows the receipt to its sender, to anyone who may see one of its logs and to
anyone when the callee is transparent (`receiptsVisibilityQuery`), with the
logs `loadReceiptsAndEventLogs` shows the requester. -/
def readReceipt (db : EventDb) (receipts : List StoredReceipt) (txHash : Hash)
    (requester : Address) : ReceiptAnswer :=
  match receipts.find? (·.txHash == txHash) with
  | none => .notFound
  | some row =>
      let logs := visibleLogs db requester row.sender row.execTx
      let transparent := (row.toAddr.bind (readContract db)).any Contract.isTransparent
      if !logs.isEmpty || row.sender == requester || transparent then .receipt row.receipt logs
      else .notAuthorised

/-- `GetTransactionReceiptExecute`: the cache first, then the database. -/
def getTransactionReceiptExecute (db : EventDb) (receipts : List StoredReceipt)
    (cache : Hash → Option CachedReceipt) (txHash : Hash) (requester : AddressRef) :
    Except Failure ReceiptAnswer := do
  match ← fetchFromCache db cache txHash requester with
  | some (r, logs) => return .receipt r logs
  | none => return readReceipt db receipts txHash requester.address

/-- The enclave as the receipt RPC sees it: the tables, the stored receipts,
every receipt handed to the cache, and the next allocation. -/
structure ReceiptNode where
  db : EventDb
  receipts : List StoredReceipt
  cached : List (Hash × CachedReceipt)
  nextRef : Nat

/-- A step of the enclave: a transaction's receipt and logs stored and its
receipt cached with the sender pointer allocated for it, or any other
allocation, such as a request's viewing key. -/
inductive ReceiptStep : ReceiptNode → ReceiptNode → Prop
  | storeReceipt {s : ReceiptNode} {db' : EventDb} (row : StoredReceipt)
      (hlogs : storeEventLogs s.db row.execTx row.receipt.logs = .ok db') :
      ReceiptStep s ⟨db', s.receipts ++ [row],
        s.cached ++ [(row.txHash, ⟨row.receipt, ⟨s.nextRef, row.sender⟩, row.toAddr⟩)], s.nextRef + 1⟩
  | alloc (s : ReceiptNode) : ReceiptStep s { s with nextRef := s.nextRef + 1 }

/-- Every pointer held by a cached receipt was allocated before `nextRef`. -/
def ReceiptNode.CachedBelow (s : ReceiptNode) : Prop :=
  ∀ p ∈ s.cached, p.2.fromAddr.ref < s.nextRef

theorem ReceiptNode.CachedBelow.step {s s' : ReceiptNode} (hs : s.CachedBelow)
    (hstep : ReceiptStep s s') : s'.CachedBelow := by
  cases hstep with
  | storeReceipt row _ =>
    intro p hp
    rcases List.mem_append.mp hp with hold | hnew
    · exact Nat.lt_succ_of_lt (hs p hold)
    · rw [List.mem_singleton.mp hnew]
      exact Nat.lt_succ_self _
  | alloc => exact fun p hp => Nat.lt_succ_of_lt (hs p hp)

theorem ReceiptNode.CachedBelow.run {s₀ s : ReceiptNode} (h₀ : s₀.CachedBelow)
    (hrun : Relation.ReflTransGen ReceiptStep s₀ s) : s.CachedBelow := by
  induction hrun with
  | refl => exact h₀
  | tail _ hstep ih => exact ih.step hstep

/-- Two accounts whose addresses have more than 80 bits. -/
def alice : Address := BitVec.ofNat 160 (2 ^ 100)
def bob : Address := BitVec.ofNat 160 (2 ^ 120)

/-- A topic holding an address, left-padded as an EVM event writes it. -/
def addressTopic (a : Address) : Hash := a.setWidth 256

/-- A non-transparent contract at address 7, and the two accounts. -/
def accountsDb : EventDb := ⟨[⟨7, none⟩], [⟨0, alice⟩, ⟨1, bob⟩], [], [], []⟩

/-- A log of the contract naming Alice. -/
def ownLog : Log := ⟨7, [1, addressTopic alice], [], 0⟩

/-- Alice's transaction to the contract, emitting the log, as its receipt is
stored. -/
def aliceTx : StoredReceipt := ⟨0, 0, alice, some 7, ⟨0, 1, 0, 0, [ownLog], 0⟩⟩

/-- The node before any receipt, its next allocation at 1. -/
def accountsNode : ReceiptNode := ⟨accountsDb, [], [], 1⟩

/-- The node after Alice's transaction: its log stored, and its receipt
cached with the pointer allocated at 1. -/
def aliceNode : ReceiptNode :=
  ⟨(storeEventLogs accountsDb 0 [ownLog]).toOption.getD accountsDb, [aliceTx],
    [(0, ⟨aliceTx.receipt, ⟨1, alice⟩, some 7⟩)], 2⟩

theorem accountsNode_aliceNode : ReceiptStep accountsNode aliceNode :=
  ReceiptStep.storeReceipt aliceTx rfl

/-- The last receipt handed to the cache for each hash: a ristretto that
admitted and processed every `CacheReceipt`. -/
def lastCached (s : ReceiptNode) (txHash : Hash) : Option CachedReceipt :=
  (s.cached.reverse.find? (·.1 == txHash)).map Prod.snd

theorem mem_of_lastCached {s : ReceiptNode} {txHash : Hash} {rec : CachedReceipt}
    (h : lastCached s txHash = some rec) : (txHash, rec) ∈ s.cached := by
  obtain ⟨p, hp, rfl⟩ := Option.map_eq_some_iff.mp h
  have hkey : p.1 = txHash := by simpa using List.find?_some hp
  have hmem : p ∈ s.cached := List.mem_reverse.mp (List.mem_of_find?_eq_some hp)
  rw [← hkey]
  exact hmem

/-- A log of the contract naming no account, and one naming Alice. -/
def plainLog : Log := ⟨7, [1, 5], [], 0⟩
def aliceLog : Log := ⟨7, [1, addressTopic alice], [], 1⟩

/-- The log naming no account, stored first, fixes the flag of the new type. -/
theorem autoPublic_firstEmission_plainLog :
    ∃ db₁, storeEventLog accountsDb 0 plainLog = .ok db₁ ∧
      ∃ b, ∀ db', Reachable db₁ db' →
        (db'.eventTypes[0]?).map EventType.autoPublic = some (some b) := by
  obtain ⟨db₁, hstore⟩ : ∃ db₁, storeEventLog accountsDb 0 plainLog = .ok db₁ := ⟨_, rfl⟩
  have hk : accountsDb.Keyed := fun i hi => absurd hi (Nat.not_lt_zero i)
  exact ⟨db₁, hstore, autoPublic_firstEmission hk rfl rfl rfl rfl hstore⟩

theorem visibleLogs_firstEmission :
    ∃ db₁ db₂, storeEventLogs accountsDb 0 [plainLog, aliceLog] = .ok db₁ ∧
      storeEventLogs accountsDb 0 [aliceLog, plainLog] = .ok db₂ ∧
      visibleLogs db₁ bob alice 0 = [plainLog, aliceLog] ∧
      visibleLogs db₂ bob alice 0 = [] :=
  ⟨_, _, rfl, rfl, by decide, by decide⟩

/-! ## Logs without topics

An anonymous event (`LOG0`) has no topics. Storing a log reads `Topics[0]`
before anything else. -/

/-- A run of stored logs is the run of its first part, then of the rest. -/
theorem storeEventLogs_append (db : EventDb) (execTxId : Nat) (pre post : List Log) :
    storeEventLogs db execTxId (pre ++ post) =
      (storeEventLogs db execTxId pre >>= fun db => storeEventLogs db execTxId post) := by
  induction pre generalizing db with
  | nil => rfl
  | cons l pre ih =>
      simp only [List.cons_append, storeEventLogs]
      cases storeEventLog db execTxId l with
      | error e => rfl
      | ok db' => exact ih db'

/-- Storing the logs of a receipt reaches its first log without topics if
the logs before it were stored, and panics there. -/
theorem storeEventLogs_anonymousLog (db : EventDb) (execTxId : Nat) (pre post : List Log)
    (l : Log) (hanon : l.topics = []) :
    storeEventLogs db execTxId (pre ++ l :: post) =
      (storeEventLogs db execTxId pre >>= fun _ =>
        .error (.panic "index out of range [0] with length 0")) := by
  rw [storeEventLogs_append]
  congr 1
  funext db'
  simp [storeEventLogs, storeEventLog, hanon]

/-- A receipt of the contract with a log naming no account, then an
anonymous log: the first is stored, the second panics. -/
theorem storeEventLogs_plainThenLog0 :
    (∃ db, storeEventLogs accountsDb 0 [plainLog] = .ok db) ∧
      storeEventLogs accountsDb 0 [plainLog, ⟨7, [], [], 1⟩] =
        .error (.panic "index out of range [0] with length 0") :=
  ⟨⟨_, rfl⟩, (storeEventLogs_anonymousLog accountsDb 0 [plainLog] [] ⟨7, [], [], 1⟩ rfl).trans rfl⟩

/-! ## Logs the tables take

`storeEventLog` fails on a log without topics, on one with more than three
topics besides the signature, on a log of a contract it does not know, and on
a topic that a configured event type makes relevant and that names no known
account. The types `storeAutoConfigEventType` writes are auto-visible or
public, and for those the last case cannot arise. -/

/-- Every event type is auto-visible or public, as every type
`storeAutoConfigEventType` writes is. -/
def EventDb.AutoConfigured (db : EventDb) : Prop :=
  ∀ et ∈ db.eventTypes, et.autoVisibility = true ∨ et.isPublic = true

/-- A log `storeEventLog` takes: an event signature and at most three more
topics, from a contract the tables know. -/
def logStorable (db : EventDb) (l : Log) : Bool :=
  match l.topics with
  | [] => false
  | _ :: userTopics => decide (userTopics.length ≤ 3) && (readContract db l.address).isSome

theorem logStorable_mono {db db' : EventDb}
    (hcontracts : ∀ a, (readContract db a).isSome → (readContract db' a).isSome) {l : Log}
    (hl : logStorable db l = true) : logStorable db' l = true := by
  unfold logStorable at hl ⊢
  split at hl
  · cases hl
  · simp only [Bool.and_eq_true] at hl ⊢
    exact ⟨hl.1, hcontracts _ hl.2⟩

theorem isSome_readEoa_writeEoa (db : EventDb) (addr : Address) :
    (readEoa (writeEoa db addr) addr).isSome := by
  unfold readEoa writeEoa
  rw [Option.isSome_map, List.find?_isSome]
  exact ⟨⟨db.eoas.length, addr⟩, List.mem_append_right _ (List.mem_singleton_self _), by simp⟩

/-- Under an auto-visible or public type, the relevant address of a topic is
found, and it is a known account. -/
theorem determineRelevantAddressForTopic_ok (db : EventDb) {et : EventType}
    (het : et.autoVisibility = true ∨ et.isPublic = true) (topicNo : Nat) (topic : Hash) :
    ∃ addr db', determineRelevantAddressForTopic db et topicNo topic = .ok (addr, db') ∧
      ∀ a, addr = some a → (readEoa db' a).isSome := by
  unfold determineRelevantAddressForTopic
  by_cases hauto : et.autoVisibility = true
  · rw [if_pos hauto]
    cases extractPotentialAddress topic with
    | none => exact ⟨none, db, rfl, fun _ h => nomatch h⟩
    | some addr =>
      dsimp only
      by_cases heoa : (readEoa db addr).isSome = true
      · rw [if_pos heoa]
        exact ⟨some addr, db, rfl, fun a h => by cases h; exact heoa⟩
      · rw [if_neg heoa]
        split
        · exact ⟨none, db, rfl, fun _ h => nomatch h⟩
        · exact ⟨some addr, writeEoa db addr, rfl, fun a h => by
            cases h
            exact isSome_readEoa_writeEoa db addr⟩
  · rw [if_neg hauto, if_pos (het.resolve_left hauto)]
    exact ⟨none, db, rfl, fun _ h => nomatch h⟩

theorem storeTopic_ok (db : EventDb) {et : EventType}
    (het : et.autoVisibility = true ∨ et.isPublic = true) (topicNo : Nat) (topic : Hash) :
    ∃ id db', storeTopic db et topicNo topic = .ok (id, db') := by
  obtain ⟨addr, db₁, hdet, heoa⟩ := determineRelevantAddressForTopic_ok db het topicNo topic
  unfold storeTopic
  rw [Result.bind_of_eq_ok hdet]
  rcases addr with _ | a
  · exact ⟨_, _, rfl⟩
  · obtain ⟨relId, hrel⟩ := Option.isSome_iff_exists.mp (heoa a rfl)
    simp only [hrel]
    exact ⟨_, _, rfl⟩

/-- The topics from number `i` on are stored when they fit the three slots. -/
theorem storeTopicsFrom_ok {et : EventType} (het : et.autoVisibility = true ∨ et.isPublic = true) :
    ∀ (topics : List Hash) (i : Nat) (db : EventDb) (topicIds : List (Option Nat)), 1 ≤ i →
      i + topics.length ≤ 4 → ∃ topicIds' db', storeTopicsFrom et i topics db topicIds = .ok (topicIds', db')
  | [], _, db, topicIds, _, _ => ⟨topicIds, db, rfl⟩
  | topic :: rest, i, db, topicIds, hi, hlen => by
    have hslot : i - 1 < 3 := by
      simp only [List.length_cons] at hlen
      omega
    have hnext : ∀ topicId db₁, ∃ topicIds' db',
        (if i - 1 < 3 then storeTopicsFrom et (i + 1) rest db₁ (topicIds.set (i - 1) (some topicId))
          else throw (Failure.panic "index out of range [3] with length 3")) = .ok (topicIds', db') := by
      intro topicId db₁
      rw [if_pos hslot]
      exact storeTopicsFrom_ok het rest (i + 1) db₁ _ (by omega)
        (by simp only [List.length_cons] at hlen; omega)
    rw [storeTopicsFrom]
    -- a value already stored reuses its row; a new one gets a row
    cases findTopic db topic et.id with
    | some id =>
      simp only [pure, Except.pure, Result.ok_bind]
      exact hnext id db
    | none =>
      obtain ⟨topicId, db₁, hrow⟩ := storeTopic_ok db het i topic
      rw [Result.bind_of_eq_ok hrow]
      exact hnext topicId db₁

/-- The type a log is stored under, read or written on first emission, is
auto-visible or public. -/
theorem autoVisible_or_public_of_read {db : EventDb} (hauto : db.AutoConfigured) {addr : Address}
    {eventSig : Hash} {contract : Contract} {eventType : EventType} {db₁ : EventDb}
    (hread : (readEventType db addr eventSig = some eventType ∧ db₁ = db) ∨
      (readEventType db addr eventSig = none ∧
        (eventType, db₁) = storeAutoConfigEventType db contract eventSig)) :
    eventType.autoVisibility = true ∨ eventType.isPublic = true := by
  rcases hread with ⟨hfound, -⟩ | ⟨-, hstored⟩
  · exact hauto eventType (List.mem_of_find?_eq_some hfound)
  · rw [(Prod.mk.inj hstored).1]
    cases contract.isTransparent <;> simp [EventType.isPublic]

/-- A log the tables take is stored. -/
theorem storeEventLog_ok {db : EventDb} (hauto : db.AutoConfigured) {l : Log}
    (hl : logStorable db l = true) (execTxId : Nat) : ∃ db', storeEventLog db execTxId l = .ok db' := by
  unfold logStorable at hl
  split at hl
  · cases hl
  · rename_i eventSig userTopics htopics
    simp only [Bool.and_eq_true, decide_eq_true_eq] at hl
    obtain ⟨contract, hcontract⟩ := Option.isSome_iff_exists.mp hl.2
    obtain ⟨eventType, db₁, hpair, hread⟩ : ∃ eventType db₁,
        (match readEventType db l.address eventSig with
          | some et => (et, db)
          | none => storeAutoConfigEventType db contract eventSig) = (eventType, db₁) ∧
        ((readEventType db l.address eventSig = some eventType ∧ db₁ = db) ∨
          (readEventType db l.address eventSig = none ∧
            (eventType, db₁) = storeAutoConfigEventType db contract eventSig)) := by
      cases readEventType db l.address eventSig with
      | some et => exact ⟨et, db, rfl, .inl ⟨rfl, rfl⟩⟩
      | none => exact ⟨_, _, rfl, .inr ⟨rfl, rfl⟩⟩
    obtain ⟨topicIds, db₂, hstore⟩ := storeTopicsFrom_ok (autoVisible_or_public_of_read hauto hread)
      userTopics 1 db₁ [none, none, none] (Nat.le_refl 1) (by omega)
    unfold storeEventLog
    rw [htopics]
    dsimp only
    rw [hcontract]
    dsimp only
    rw [hpair, Result.bind_of_eq_ok hstore]
    exact ⟨_, rfl⟩

theorem autoConfigured_setAutoVisibilityWhenEventFirstEmitted {db : EventDb}
    (hauto : db.AutoConfigured) (et : EventType) (topicIds : List (Option Nat)) :
    (setAutoVisibilityWhenEventFirstEmitted db et topicIds).AutoConfigured := by
  unfold setAutoVisibilityWhenEventFirstEmitted
  split
  · intro et' het'
    obtain ⟨et₀, het₀, rfl⟩ := List.mem_map.mp het'
    split
    · simpa [EventType.isPublic] using hauto et₀ het₀
    · exact hauto et₀ het₀
  · exact hauto

/-- Storing a log keeps the types auto-visible or public, and the contracts
as they are. -/
theorem storeEventLog_autoConfigured {db db' : EventDb} (hauto : db.AutoConfigured)
    {execTxId : Nat} {l : Log} (h : storeEventLog db execTxId l = .ok db') :
    db'.AutoConfigured ∧ db'.contracts = db.contracts := by
  obtain ⟨eventSig, userTopics, contract, eventType, db₁, topicIds, db₂, -, -, hread, hstore, rfl⟩ :=
    storeEventLog_inv h
  obtain ⟨htypes₂, hcontracts₂⟩ := frame_storeTopicsFrom hstore
  have hauto₁ : db₁.AutoConfigured ∧ db₁.contracts = db.contracts := by
    rcases hread with ⟨-, rfl⟩ | ⟨-, hstored⟩
    · exact ⟨hauto, rfl⟩
    · rw [(Prod.mk.inj hstored).2]
      refine ⟨fun et het => ?_, rfl⟩
      rcases List.mem_append.mp het with hold | hnew
      · exact hauto et hold
      · rw [List.mem_singleton.mp hnew]
        cases contract.isTransparent <;> simp [EventType.isPublic]
  refine ⟨autoConfigured_setAutoVisibilityWhenEventFirstEmitted ?_ _ _, ?_⟩
  · show ∀ et ∈ db₂.eventTypes, _
    rw [htypes₂]
    exact hauto₁.1
  · unfold setAutoVisibilityWhenEventFirstEmitted
    split <;> exact hcontracts₂.trans hauto₁.2

/-- The logs of a receipt that the tables take are all stored, and leave the
tables taking the same logs. -/
theorem storeEventLogs_ok (execTxId : Nat) :
    ∀ {db : EventDb} (logs : List Log), db.AutoConfigured → (∀ l ∈ logs, logStorable db l = true) →
      ∃ db', storeEventLogs db execTxId logs = .ok db' ∧ db'.AutoConfigured ∧
        db'.contracts = db.contracts
  | db, [], hauto, _ => ⟨db, rfl, hauto, rfl⟩
  | db, l :: ls, hauto, hlogs => by
    obtain ⟨db₁, hstore⟩ := storeEventLog_ok hauto (hlogs l List.mem_cons_self) execTxId
    obtain ⟨hauto₁, hcontracts₁⟩ := storeEventLog_autoConfigured hauto hstore
    have hrest : ∀ l' ∈ ls, logStorable db₁ l' = true := fun l' hl' =>
      logStorable_mono (fun a ha => by simpa [readContract, hcontracts₁] using ha)
        (hlogs l' (List.mem_cons_of_mem _ hl'))
    obtain ⟨db', hstore', hauto', hcontracts'⟩ := storeEventLogs_ok execTxId ls hauto₁ hrest
    refine ⟨db', ?_, hauto', hcontracts'.trans hcontracts₁⟩
    rw [storeEventLogs, Result.bind_of_eq_ok hstore]
    exact hstore'

end GoTen.Enclave.Events
