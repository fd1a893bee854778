import GoTen.Enclave.BatchExecutor

/-!
# Outbound cross-chain data against the L1 message bus

After a batch is executed, `populateOutboundCrossChainData` writes the
messages its receipts published into the header, and the leaves
`[kind, hash]` of their Merkle tree into `CrossChainTree`. On L1,
`MerkleTreeMessageBus.verifyMessageInclusion` and
`verifyValueTransferInclusion` rebuild a leaf from the Solidity struct they
are given, as `keccak256(abi.encode(struct))`, and check it against the
published root. This file compares the two sides. keccak is a parameter and
is never assumed injective, so the statements are about the bytes hashed.

## Main results

* `populateOutboundCrossChainData_eq`: what the function writes, from what the
  two extractors return.
* `populateOutboundCrossChainData_anonymousLog`: a successful receipt with a
  log without topics panics the function.
* `transfersForMerkleTree_eq_contract`: a transfer leaf is the leaf the
  contract recomputes, the transfer struct being static.
* `contractMessagePreimage_eq`: for a message the contract hashes an offset
  word before the fields that `HashPacked` hashes.
* `populateOutboundCrossChainData_publishedReceipt`: one message published
  with consistency level one is stored with level zero, and its leaf is
  never the one the contract recomputes for any message, unless keccak
  collides.
-/

namespace GoTen.Enclave.OutboundData

open GoTen.Common
open GoTen.Verified
open GoTen.Verified.Abi
open GoTen.Enclave.CrossChain
open GoTen.Enclave.BatchExecutor

/-! ## The structs of the L1 contract -/

/-- The `Structs.CrossChainMessage` an event describes, every field as
emitted. -/
def emittedMessage (event : LogMessagePublished) : CrossChainMessage :=
  { sender := event.sender
    sequence := event.sequence
    nonce := event.nonce
    topic := event.topic
    payload := event.payload
    consistencyLevel := event.consistencyLevel }

/-- The bytes `verifyMessageInclusion` hashes: `abi.encode(message)`, one
struct argument. -/
def contractMessagePreimage (msg : CrossChainMessage) : List UInt8 :=
  abiEncode [.tuple (messageFields msg)]

/-- The bytes `verifyValueTransferInclusion` hashes. -/
def contractTransferPreimage (vt : ValueTransferEvent) : List UInt8 :=
  abiEncode [.tuple (transferFields vt)]

/-- The leaf value `verifyValueTransferInclusion` recomputes. -/
def contractTransferLeaf (keccak256 : List UInt8 → Hash) (vt : ValueTransferEvent) :
    String × Hash :=
  ("v", keccak256 (contractTransferPreimage vt))

theorem createCrossChainMessage_eq_emitted_iff (event : LogMessagePublished) :
    createCrossChainMessage event = emittedMessage event ↔ event.consistencyLevel = 0 := by
  constructor
  · intro h
    exact (congrArg CrossChainMessage.consistencyLevel h).symm
  · intro h
    simp [createCrossChainMessage, emittedMessage, h]

theorem contractMessagePreimage_eq (msg : CrossChainMessage) :
    contractMessagePreimage msg = word 32 ++ abiEncode (messageFields msg) := by
  have hdyn : anyDynamic (messageFields msg) = true := rfl
  rw [contractMessagePreimage, abiEncode_struct, hdyn]
  rfl

theorem contractTransferPreimage_eq (vt : ValueTransferEvent) :
    contractTransferPreimage vt = abiEncode (transferFields vt) := by
  have hstatic : anyDynamic (transferFields vt) = false := rfl
  rw [contractTransferPreimage, abiEncode_struct, hstatic]
  rfl

/-! ## The leaves of the tree -/

theorem take_abiEncode_messageFields (msg : CrossChainMessage) :
    (abiEncode (messageFields msg)).take 32 = word msg.sender.toNat := by
  have h := abiEncode_cons_static (.address msg.sender.toNat) (messageFields msg).tail rfl
  rwa [encode, length_word] at h

/-- A transfer leaf is the leaf the contract recomputes from the transfer. -/
theorem transfersForMerkleTree_eq_contract {keccak256 : List UInt8 → Hash}
    {vts : List ValueTransferEvent} {leaves : List (String × Hash)}
    (h : transfersForMerkleTree keccak256 vts = .ok leaves) :
    leaves = vts.map (contractTransferLeaf keccak256) := by
  induction vts generalizing leaves with
  | nil =>
      rw [transfersForMerkleTree] at h
      cases h
      rfl
  | cons vt vts ih =>
      rw [transfersForMerkleTree, Result.bind_eq_ok] at h
      obtain ⟨hash, hhash, h⟩ := h
      rw [Result.bind_eq_ok] at h
      obtain ⟨rest, hrest, hret⟩ := h
      -- `Pack` succeeded, so the amount fits and the leaf is the contract's
      have hleaf : ("v", hash) = contractTransferLeaf keccak256 vt := by
        unfold hashPackedTransfer at hhash
        split at hhash
        · cases hhash
          rw [contractTransferLeaf, contractTransferPreimage_eq]
        · cases hhash
      rw [← Result.pure_eq_ok.mp hret, List.map_cons, ih hrest, hleaf]

/-- One transfer of 10 from 5 to 6, with a stand-in for keccak256 that
hashes a byte string to its length: the code's leaf is the contract's. -/
theorem transfersForMerkleTree_eq_contract_oneTransfer :
    transfersForMerkleTree (fun bs => BitVec.ofNat 256 bs.length) [⟨5, 6, 10, 0⟩] =
        .ok [("v", 128)] ∧
      [("v", (128 : Hash))] =
        [(⟨5, 6, 10, 0⟩ : ValueTransferEvent)].map
          (contractTransferLeaf fun bs => BitVec.ofNat 256 bs.length) := by
  have hleaves : transfersForMerkleTree (fun bs => BitVec.ofNat 256 bs.length) [⟨5, 6, 10, 0⟩] =
      .ok [("v", 128)] := by
    decide +kernel
  exact ⟨hleaves, transfersForMerkleTree_eq_contract hleaves⟩

/-! ## What the batch header receives -/

section Populate

variable {σ η : Type} (ex : BatchExecutor σ η)

/-- With something to publish, the header receives the messages, the tree of
the transfer leaves then the message leaves, and its root. -/
theorem populateOutboundCrossChainData_eq {header : BatchHeader} {block : L1Header}
    {receipts : List Receipt} {msgs : List CrossChainMessage} {vts : List ValueTransferEvent}
    {leaves : List (String × Hash)} {root : Hash}
    (hm : extractOutboundMessages ex.messageBus receipts = .ok msgs)
    (hv : extractOutboundTransfers ex.messageBus receipts = .ok vts)
    (ht : transfersForMerkleTree ex.messageBus.keccak256 vts = .ok leaves)
    (hne : msgs ≠ [] ∨ vts ≠ [])
    (hroot : ex.merkleRoot (leaves ++ messagesForMerkleTree ex.messageBus.keccak256 msgs) =
      .ok root) :
    populateOutboundCrossChainData ex header block receipts = .ok { header with
      crossChainTree :=
        ex.marshalTree (leaves ++ messagesForMerkleTree ex.messageBus.keccak256 msgs)
      crossChainMessages := msgs
      crossChainRoot := root
      latestInboundCrossChainHash := block.hash
      latestInboundCrossChainHeight := block.number } := by
  -- both lists of leaves are built only when non-empty, which changes nothing
  have htr : (if vts ≠ [] then transfersForMerkleTree ex.messageBus.keccak256 vts
      else pure []) = .ok leaves := by
    by_cases hvts : vts = []
    · subst hvts
      rw [if_neg (not_not_intro rfl)]
      exact ht
    · rw [if_pos hvts]
      exact ht
  have hmsg : (if msgs ≠ [] then messagesForMerkleTree ex.messageBus.keccak256 msgs else []) =
      messagesForMerkleTree ex.messageBus.keccak256 msgs := by
    by_cases hmsgs : msgs = []
    · subst hmsgs
      rfl
    · rw [if_pos hmsgs]
  unfold populateOutboundCrossChainData
  rw [Result.bind_of_eq_ok hm, Result.bind_of_eq_ok hv, Result.bind_of_eq_ok htr, hmsg]
  dsimp only
  rw [if_pos hne.symm]
  simp [hroot, Except.mapError, bind, Except.bind, pure, Except.pure]

/-- A successful receipt holding a log without topics panics the function in
its first extractor, before anything is written, whatever else the receipts
hold. -/
theorem populateOutboundCrossChainData_anonymousLog {header : BatchHeader} {block : L1Header}
    {receipts : List Receipt} {r : Receipt} {l : Log} (hr : r ∈ receipts) (hs : r.status ≠ 0)
    (hl : l ∈ r.logs) (hanon : l.topics = []) :
    populateOutboundCrossChainData ex header block receipts =
      .error (.panic "index out of range [0] with length 0") := by
  unfold populateOutboundCrossChainData
  rw [(extractOutbound_anonymousLog ex.messageBus receipts r l hr hs hl hanon).1]
  rfl

end Populate

/-- A batch whose one receipt holds a `LOG0` log of the contract at address 5. -/
theorem populateOutboundCrossChainData_anonymousLog_log0 :
    populateOutboundCrossChainData nonceExecutor zeroHeader ⟨0, 0, 0⟩
        [⟨0, 1, 0, 0, [⟨5, [], [], 0⟩], 0⟩] =
      .error (.panic "index out of range [0] with length 0") :=
  populateOutboundCrossChainData_anonymousLog nonceExecutor (List.mem_singleton_self _)
    (by decide) (List.mem_singleton_self _) rfl

/-! ## One published message -/

/-- geth's `UnpackIntoInterface` for `LogMessagePublished`: six head words,
the payload at the offset the fifth one gives. -/
def decodeLogMessagePublished (data : List UInt8) : Except String LogMessagePublished :=
  if data.length < 192 then .error "abi: cannot marshal in to go type: length insufficient"
  else
    let offset := wordAt data 128
    .ok { sender := BitVec.ofNat 160 (wordAt data 0)
          sequence := UInt64.ofNat (wordAt data 32)
          nonce := UInt32.ofNat (wordAt data 64)
          topic := UInt32.ofNat (wordAt data 96)
          payload := (data.drop (offset + 32)).take (wordAt data offset)
          consistencyLevel := UInt8.ofNat (wordAt data 160) }

/-- geth's `UnpackIntoInterface` for the data of `ValueTransfer`. -/
def decodeValueTransfer (data : List UInt8) : Except String ValueTransferData :=
  if data.length < 64 then .error "abi: cannot marshal in to go type: length insufficient"
  else .ok ⟨wordAt data 0, UInt64.ofNat (wordAt data 32)⟩

/-- The L2 message bus at address 7, with event ids 1 and 2. -/
def sampleBus (keccak256 : List UInt8 → Hash) : MessageBusManager :=
  ⟨7, ⟨1, 2, decodeLogMessagePublished, decodeValueTransfer⟩, keccak256⟩

/-- A message published with consistency level one. -/
def publishedEvent : LogMessagePublished := ⟨5, 0, 0, 1, [1], 1⟩

/-- The receipt of the transaction that published it: one log of the bus,
its topic the event id, its data the ABI encoding of the six fields. -/
def publishedReceipt : Receipt :=
  ⟨0, 1, 0, 0, [⟨7, [1], abiEncode (messageFields (emittedMessage publishedEvent)), 0⟩], 0⟩

set_option maxRecDepth 8000 in
theorem populateOutboundCrossChainData_publishedReceipt {σ η : Type} (ex : BatchExecutor σ η)
    (keccak256 : List UInt8 → Hash) (header : BatchHeader) (block : L1Header) (root : Hash)
    (hroot : ex.merkleRoot
      [("m", keccak256 (abiEncode (messageFields (createCrossChainMessage publishedEvent))))] =
        .ok root) :
    ∃ h, populateOutboundCrossChainData { ex with messageBus := sampleBus keccak256 } header
        block [publishedReceipt] = .ok h ∧
      h.crossChainMessages = [createCrossChainMessage publishedEvent] ∧
      h.crossChainMessages ≠ [emittedMessage publishedEvent] ∧
      h.crossChainTree = ex.marshalTree
        [("m", keccak256 (abiEncode (messageFields (createCrossChainMessage publishedEvent))))] ∧
      ∀ msg, abiEncode (messageFields (createCrossChainMessage publishedEvent)) ≠
        contractMessagePreimage msg := by
  have hm : extractOutboundMessages (sampleBus keccak256) [publishedReceipt] =
      .ok [createCrossChainMessage publishedEvent] := rfl
  have hv : extractOutboundTransfers (sampleBus keccak256) [publishedReceipt] = .ok [] := rfl
  -- the event's consistency level is one, so the copy is not the event
  have hdiffer : [createCrossChainMessage publishedEvent] ≠ [emittedMessage publishedEvent] := by
    intro h
    have hlevel := (createCrossChainMessage_eq_emitted_iff publishedEvent).mp (List.cons.inj h).1
    exact absurd hlevel (by decide)
  refine ⟨_, populateOutboundCrossChainData_eq { ex with messageBus := sampleBus keccak256 } hm hv
    rfl (Or.inl (List.cons_ne_nil _ _)) hroot, rfl, hdiffer, rfl, ?_⟩
  -- the contract's bytes start with the offset word, the code's with the sender
  intro msg hmsg
  have hfirst := congrArg (List.take 32) hmsg
  rw [take_abiEncode_messageFields, contractMessagePreimage_eq,
    List.take_left' (length_word 32)] at hfirst
  exact absurd hfirst (by decide +kernel)

set_option maxRecDepth 8000 in
theorem populateOutboundCrossChainData_publishedReceipt_nonceExecutor :
    nonceExecutor.merkleRoot
      [("m", (fun _ => 0 : List UInt8 → Hash)
        (abiEncode (messageFields (createCrossChainMessage publishedEvent))))] = .ok 0 ∧
    ∃ h, populateOutboundCrossChainData { nonceExecutor with messageBus := sampleBus fun _ => 0 }
        zeroHeader ⟨0, 0, 0⟩ [publishedReceipt] = .ok h ∧
      h.crossChainMessages = [createCrossChainMessage publishedEvent] ∧
      h.crossChainMessages ≠ [emittedMessage publishedEvent] ∧
      h.crossChainTree = nonceExecutor.marshalTree
        [("m", (fun _ => 0 : List UInt8 → Hash)
          (abiEncode (messageFields (createCrossChainMessage publishedEvent))))] ∧
      ∀ msg, abiEncode (messageFields (createCrossChainMessage publishedEvent)) ≠
        contractMessagePreimage msg :=
  ⟨rfl, populateOutboundCrossChainData_publishedReceipt nonceExecutor (fun _ => 0) zeroHeader
    ⟨0, 0, 0⟩ 0 rfl⟩

end GoTen.Enclave.OutboundData
