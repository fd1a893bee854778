import GoTen.Common.Types
import GoTen.Verified.Abi
import GoTen.Verified.Result

/-!
# Cross-chain messages on the L2 side (`go/enclave/crosschain`)

The L2 message bus publishes two events: `LogMessagePublished` for a
cross-chain message and `ValueTransfer` for a transfer of value to L1. After
a batch is executed, `ExtractOutboundMessages` and `ExtractOutboundTransfers`
pick these events out of the receipts, and `ForMerkleTree` turns each one
into a leaf `[kind, keccak256(Pack(fields))]` of the cross-chain Merkle tree
whose root the batch header carries.

This file models `common.go` (log filtering, event conversion,
`HashPacked`, `ForMerkleTree`) and the two extractors of
`message_bus_manager.go`. geth's ABI decoder and keccak are parameters
(`MessageBusAbi`, `keccak256`); the ABI encoder is `Verified.Abi`.

## Main results

* `filterLogsFromReceipt_eq`, `filterLogsFromReceipts_eq`: the filter keeps
  exactly the matching logs of the successful receipts, in order, unless a
  topic is asked for and one of those receipts holds a log without topics.
* `filterLogsFromReceipts_anonymousLog`, `extractOutbound_anonymousLog`: such
  a log panics the filter whatever its address, and with it both extractors.
-/

namespace GoTen.Enclave.CrossChain

open GoTen.Common
open GoTen.Verified.Abi

/-- The data of a `LogMessagePublished` event, as `UnpackIntoInterface`
fills `MessageBus.MessageBusLogMessagePublished`. -/
structure LogMessagePublished where
  sender : Address
  sequence : UInt64
  nonce : UInt32
  topic : UInt32
  payload : List UInt8
  consistencyLevel : UInt8
  deriving DecidableEq, Repr

/-- The non-indexed data of a `ValueTransfer` event. -/
structure ValueTransferData where
  amount : Nat
  sequence : UInt64
  deriving DecidableEq, Repr

/-- What the manager uses of the generated `MessageBus` ABI: the two event
ids and geth's `UnpackIntoInterface` for each event. -/
structure MessageBusAbi where
  crossChainEventID : Hash
  valueTransferEventID : Hash
  unpackLogMessagePublished : List UInt8 → Except String LogMessagePublished
  unpackValueTransfer : List UInt8 → Except String ValueTransferData

/-- The L2 `MessageBusManager` as the extractors use it. -/
structure MessageBusManager where
  messageBusAddress : Address
  abi : MessageBusAbi
  keccak256 : List UInt8 → Hash

/-! ## Filtering and converting logs -/

/-- `filterLogsFromReceipt`: the logs of one receipt matching `address` and
`topic` when given. `log.Topics[0]` is read whenever a topic is given, and
panics on a log without topics. -/
def filterLogsFromReceipt (address : Option Address) (topic : Option Hash) :
    List Log → Except Failure (List Log)
  | [] => .ok []
  | l :: ls => do
      let skipAddress := match address with
        | some a => decide (l.address ≠ a)
        | none => false
      let skipTopic ← match topic with
        | none => pure false
        | some t => match l.topics with
          | [] => throw (.panic "index out of range [0] with length 0")
          | t0 :: _ => pure (decide (t0 ≠ t))
      let rest ← filterLogsFromReceipt address topic ls
      return if skipAddress || skipTopic then rest else l :: rest

/-- `filterLogsFromReceipts`: receipts with status 0 are skipped. -/
def filterLogsFromReceipts (address : Option Address) (topic : Option Hash) :
    List Receipt → Except Failure (List Log)
  | [] => .ok []
  | r :: rs => do
      if r.status = 0 then
        filterLogsFromReceipts address topic rs
      else
        let logs ← filterLogsFromReceipt address topic r.logs
        let rest ← filterLogsFromReceipts address topic rs
        return logs ++ rest

/-! ## What the filter returns

The source means to keep the logs that come from `address` and whose first
topic is `topic`, each when given (`logMatches`). It reads `log.Topics[0]`
for every log once a topic is given, whatever the address test said, so a
log without topics (`readsMissingTopic`) ends the filter with a panic. -/

/-- The logs the filter is meant to keep. -/
def logMatches (address : Option Address) (topic : Option Hash) (l : Log) : Bool :=
  (match address with
    | some a => l.address == a
    | none => true) &&
  (match topic with
    | some t => l.topics.head? == some t
    | none => true)

/-- The topic test reads a first topic that `l` does not have. -/
def readsMissingTopic (topic : Option Hash) (l : Log) : Bool :=
  topic.isSome && l.topics.isEmpty

/-- A log whose topic test succeeds is kept exactly when it matches. -/
theorem filterLogsFromReceipt_cons (address : Option Address) (topic : Option Hash)
    (l : Log) (ls : List Log) (hl : readsMissingTopic topic l = false) :
    filterLogsFromReceipt address topic (l :: ls) =
      (do
        let rest ← filterLogsFromReceipt address topic ls
        pure (if logMatches address topic l then l :: rest else rest)) := by
  cases topic with
  | none =>
      cases address <;> simp [filterLogsFromReceipt, logMatches]
  | some t =>
      obtain ⟨t0, ts, hts⟩ : ∃ t0 ts, l.topics = t0 :: ts := by
        cases h : l.topics with
        | nil => simp [readsMissingTopic, h] at hl
        | cons t0 ts => exact ⟨t0, ts, rfl⟩
      cases address with
      | none => simp [filterLogsFromReceipt, logMatches, hts]
      | some a =>
          by_cases ha : l.address = a <;> by_cases ht : t0 = t <;>
            simp [filterLogsFromReceipt, logMatches, hts, ha, ht]

/-- `filterLogsFromReceipt` panics on the first log without topics when a
topic is given, and otherwise keeps exactly the matching logs in order. -/
theorem filterLogsFromReceipt_eq (address : Option Address) (topic : Option Hash)
    (ls : List Log) :
    filterLogsFromReceipt address topic ls =
      if ls.any (readsMissingTopic topic) then
        .error (.panic "index out of range [0] with length 0")
      else .ok (ls.filter (logMatches address topic)) := by
  induction ls with
  | nil => rfl
  | cons l ls ih =>
      by_cases hl : readsMissingTopic topic l = true
      · -- a topic is given and `l` has none: the topic test panics
        obtain ⟨t, rfl⟩ : ∃ t, topic = some t := by
          cases topic with
          | none => simp [readsMissingTopic] at hl
          | some t => exact ⟨t, rfl⟩
        have hnil : l.topics = [] := by simpa [readsMissingTopic] using hl
        simp [filterLogsFromReceipt, hnil, hl]
      · rw [filterLogsFromReceipt_cons address topic l ls (by simpa using hl), ih]
        by_cases hany : ls.any (readsMissingTopic topic) = true
        · simp [hany]
        · simp only [Bool.not_eq_true] at hl hany
          simp only [hany, List.any_cons, hl, Bool.false_or, List.filter_cons]
          split <;> rfl

/-- `filterLogsFromReceipts`: the logs of the successful receipts, each
receipt's matching logs in order, unless a successful receipt holds a log
without topics and a topic is given. -/
theorem filterLogsFromReceipts_eq (address : Option Address) (topic : Option Hash)
    (rs : List Receipt) :
    filterLogsFromReceipts address topic rs =
      if rs.any (fun r => r.status != 0 && r.logs.any (readsMissingTopic topic)) then
        .error (.panic "index out of range [0] with length 0")
      else .ok ((rs.filter fun r => r.status != 0).flatMap
        fun r => r.logs.filter (logMatches address topic)) := by
  induction rs with
  | nil => rfl
  | cons r rs ih =>
      by_cases hs : r.status = 0
      · simp [filterLogsFromReceipts, hs, ih]
      · simp only [filterLogsFromReceipts, hs, if_false, filterLogsFromReceipt_eq, ih]
        by_cases hr : r.logs.any (readsMissingTopic topic) = true
        · simp [hr, hs]
        · by_cases hany : rs.any (fun r => r.status != 0 && r.logs.any (readsMissingTopic topic))
          · simp [hr, hany]
          · simp [hr, hany, hs]

/-- A successful receipt holding a log without topics is what the panic of
`filterLogsFromReceipts_eq` tests for, once a topic is given. -/
theorem any_readsMissingTopic {topic : Hash} {rs : List Receipt} {r : Receipt} {l : Log}
    (hr : r ∈ rs) (hs : r.status ≠ 0) (hl : l ∈ r.logs) (hanon : l.topics = []) :
    rs.any (fun r => r.status != 0 && r.logs.any (readsMissingTopic (some topic))) = true := by
  have hread : readsMissingTopic (some topic) l = true := by simp [readsMissingTopic, hanon]
  simp only [List.any_eq_true, Bool.and_eq_true, bne_iff_ne]
  exact ⟨r, hr, hs, l, hl, hread⟩

/-- A receipt of a successful transaction holding a log with no topics
makes the filter panic, for every address and topic asked for, whatever
the address of that log. -/
theorem filterLogsFromReceipts_anonymousLog (address : Option Address) (topic : Hash)
    (rs : List Receipt) (r : Receipt) (l : Log) (hr : r ∈ rs) (hs : r.status ≠ 0)
    (hl : l ∈ r.logs) (hanon : l.topics = []) :
    filterLogsFromReceipts address (some topic) rs =
      .error (.panic "index out of range [0] with length 0") := by
  rw [filterLogsFromReceipts_eq, if_pos (any_readsMissingTopic hr hs hl hanon)]

/-- A successful receipt with one `LOG0` log from an address other than the
one asked for. -/
theorem filterLogsFromReceipts_log0 :
    filterLogsFromReceipts (some 7) (some 3) [⟨0, 1, 0, 0, [⟨5, [], [], 0⟩], 0⟩] =
      .error (.panic "index out of range [0] with length 0") :=
  filterLogsFromReceipts_anonymousLog (some 7) 3 _ ⟨0, 1, 0, 0, [⟨5, [], [], 0⟩], 0⟩
    ⟨5, [], [], 0⟩ (List.mem_singleton_self _) (by decide) (List.mem_singleton_self _) rfl

/-- `createCrossChainMessage`: the struct literal copies five of the six
fields of the event; `ConsistencyLevel` keeps its zero value. -/
def createCrossChainMessage (event : LogMessagePublished) : CrossChainMessage :=
  { sender := event.sender
    sequence := event.sequence
    nonce := event.nonce
    topic := event.topic
    payload := event.payload
    consistencyLevel := 0 }

/-- `convertLogsToMessages`. -/
def convertLogsToMessages (abi : MessageBusAbi) : List Log → Except Failure (List CrossChainMessage)
  | [] => .ok []
  | l :: ls => do
      let event ← (abi.unpackLogMessagePublished l.data).mapError Failure.error
      let rest ← convertLogsToMessages abi ls
      return createCrossChainMessage event :: rest

/-- `BytesToAddress`: the low 20 bytes of a 32-byte word. -/
def bytesToAddress (h : Hash) : Address := h.setWidth 160

/-- `ConvertLogsToValueTransfers`: a transfer log has exactly three topics,
the sender and the receiver being the indexed ones. -/
def convertLogsToValueTransfers (abi : MessageBusAbi) :
    List Log → Except Failure (List ValueTransferEvent)
  | [] => .ok []
  | l :: ls => do
      match l.topics with
      | [_, t1, t2] =>
          let event ← (abi.unpackValueTransfer l.data).mapError Failure.error
          let rest ← convertLogsToValueTransfers abi ls
          return ⟨bytesToAddress t1, bytesToAddress t2, event.amount, event.sequence⟩ :: rest
      | ts => throw (.error s!"invalid number of topics in log: {ts.length}")

/-- `MessageBusManager.ExtractOutboundMessages`. -/
def extractOutboundMessages (m : MessageBusManager) (receipts : List Receipt) :
    Except Failure (List CrossChainMessage) := do
  let logs ← filterLogsFromReceipts (some m.messageBusAddress)
    (some m.abi.crossChainEventID) receipts
  convertLogsToMessages m.abi logs

/-- `MessageBusManager.ExtractOutboundTransfers`. -/
def extractOutboundTransfers (m : MessageBusManager) (receipts : List Receipt) :
    Except Failure (List ValueTransferEvent) := do
  let logs ← filterLogsFromReceipts (some m.messageBusAddress)
    (some m.abi.valueTransferEventID) receipts
  convertLogsToValueTransfers m.abi logs

/-- Both L2 extractors filter with a topic: a successful receipt of a batch
holding a log without topics makes each of them panic. -/
theorem extractOutbound_anonymousLog (m : MessageBusManager) (rs : List Receipt)
    (r : Receipt) (l : Log) (hr : r ∈ rs) (hs : r.status ≠ 0) (hl : l ∈ r.logs)
    (hanon : l.topics = []) :
    extractOutboundMessages m rs = .error (.panic "index out of range [0] with length 0") ∧
      extractOutboundTransfers m rs = .error (.panic "index out of range [0] with length 0") := by
  constructor
  · rw [extractOutboundMessages, filterLogsFromReceipts_eq,
      if_pos (any_readsMissingTopic hr hs hl hanon)]
    rfl
  · rw [extractOutboundTransfers, filterLogsFromReceipts_eq,
      if_pos (any_readsMissingTopic hr hs hl hanon)]
    rfl

/-! ## Leaves of the cross-chain tree -/

/-- The six fields of a message as `Pack` receives them, in the order of
`MessageStructs.HashPacked`. -/
def messageFields (msg : CrossChainMessage) : List AbiValue :=
  [.address msg.sender.toNat, .uint msg.sequence.toNat, .uint msg.nonce.toNat,
    .uint msg.topic.toNat, .bytes msg.payload, .uint msg.consistencyLevel.toNat]

/-- The four fields of a transfer, in the order of `ValueTransfers.HashPacked`. -/
def transferFields (vt : ValueTransferEvent) : List AbiValue :=
  [.address vt.sender.toNat, .address vt.receiver.toNat, .uint vt.amount, .uint vt.sequence.toNat]

/-- `MessageStructs.HashPacked`: keccak of the six fields packed as six
separate arguments. -/
def hashPackedMessage (keccak256 : List UInt8 → Hash) (msg : CrossChainMessage) : Hash :=
  keccak256 (abiEncode (messageFields msg))

/-- `ValueTransfers.HashPacked`. `Pack` refuses an amount that does not fit a
`uint256`, and the code panics on that error. -/
def hashPackedTransfer (keccak256 : List UInt8 → Hash) (vt : ValueTransferEvent) :
    Except Failure Hash :=
  if vt.amount < 2 ^ 256 then .ok (keccak256 (abiEncode (transferFields vt)))
  else .error (.panic "abi: cannot use value as uint256")

/-- `MessageStructs.ForMerkleTree`: one `["m", hash]` leaf per message. -/
def messagesForMerkleTree (keccak256 : List UInt8 → Hash) (msgs : List CrossChainMessage) :
    List (String × Hash) :=
  msgs.map fun msg => ("m", hashPackedMessage keccak256 msg)

/-- `ValueTransfers.ForMerkleTree`: one `["v", hash]` leaf per transfer. -/
def transfersForMerkleTree (keccak256 : List UInt8 → Hash) :
    List ValueTransferEvent → Except Failure (List (String × Hash))
  | [] => .ok []
  | vt :: vts => do
      let h ← hashPackedTransfer keccak256 vt
      let rest ← transfersForMerkleTree keccak256 vts
      return ("v", h) :: rest

end GoTen.Enclave.CrossChain
