import GoTen.Host.BatchListing

/-!
# The host's batch repository (`go/host/l2/batchrepository.go`)

Every host keeps the L2 batches it has seen in its database. The batch
repository stores the batches that reach the host: the sequencer's own,
those read from roll-ups, and those that peers gossip or send in answer to a
request (`HandleBatches`). It keeps a high watermark, `latestBatchSeqNo`,
and tells its subscribers of each batch that raises it.

A validator that misses a batch below the watermark asks the sequencer for
the batches from that sequence number on (`requestMissingBatchesFromPeers`),
at most once every thirty seconds; the sequencer answers with the run of
batches it stores from there (`HandleBatchRequest`), and the validator adds
them in order until the first one it cannot add. A sequencer that misses a
batch reads it back from its enclave.

The database is the host's `batch_host` table (`HostDB`); `storageImpl.AddBatch`
refuses a batch whose hash or whose sequence number is stored. The
goroutines the repository starts (`go r.requestMissingBatchesFromPeers`,
`go r.AddBatch`) are tasks that a later step runs. What the repository does
outside itself (a notification, a message to a peer) is an `Effect`.

## Main results

* `batchRequestLoop_eq`: the answer to a peer is the longest run of stored
  batches from the requested sequence number, cut at fifty-one batches.
* `addBatches_eq`: `HandleBatches` adds its batches up to the first one the
  storage refuses, and no later one.
* `announcements_ordered`: in every run, the batches announced to subscribers
  have increasing sequence numbers, the last at the watermark.
* `peerRequests_spaced`: in every run, the host's requests to the sequencer are
  at least thirty seconds apart, and the in-flight request the answer
  should clear is never recorded.
* `catchUp`: a validator that misses a batch the sequencer stores has it
  after one request and its answer.
-/

namespace GoTen.Host.BatchRepository

open GoTen.Common
open GoTen.Common.Converters
open GoTen.Verified.BigInt
open GoTen.Host.BatchListing

/-- `_maxBatchesInP2PResponse`. -/
def maxBatchesInP2PResponse : Nat := 50

/-- `_timeoutWaitingForP2PResponse`, in nanoseconds. -/
def timeoutWaitingForP2PResponse : Int := 30 * 1000000000

/-- `errutil.ErrNotFound`. -/
def errNotFound : Failure := .error "not found"

/-- `errutil.ErrAlreadyExists`. -/
def errAlreadyExists : Failure := .error "already exists"

/-- Reading a field through a nil pointer. -/
def nilDereference : Failure := .panic "runtime error: invalid memory address or nil pointer dereference"

/-! ## The host's storage -/

/-- `hostdb.GetBatchBySequenceNumber`: `fetchFullBatch` with `WHERE sequence=?`. -/
def getBatchBySequenceNumber (db : HostDB) (seqNo : UInt64) : Except Failure ExtBatch :=
  if seqNo.toNat < 2 ^ 63 then
    match db.rowBySequence seqNo with
    | some row => .ok row.extBatch
    | none => .error errNotFound
  else
    .error (.error ("failed to scan with query " ++ selectBatch ++ " WHERE sequence=" ++
      db.placeholder ++ " - " ++ errHighBitArgument))

/-- `hostdb.GetBatchHeader` finds a row: some stored batch has this hash. -/
def hasBatchHash (db : HostDB) (hash : Hash) : Bool :=
  db.batchHost.any fun row => row.fullHash == hash

/-- The tables with a new `batch_host` row and its `transaction_host` rows. -/
def insertBatch (db : HostDB) (row : BatchHostRow) (txs : List TransactionHostRow)
    (hnew : row.sequence ∉ db.batchHost.map BatchHostRow.sequence)
    (hlt : row.sequence.toNat < 2 ^ 63)
    (hheader : row.extBatch.header.map (fun header => uint64 header.sequencerOrderNo) =
      some row.sequence) : HostDB where
  placeholder := db.placeholder
  batchHost := db.batchHost ++ [row]
  transactionHost := db.transactionHost ++ txs
  sequence_nodup := by
    rw [List.map_append, List.nodup_append]
    exact ⟨db.sequence_nodup, List.nodup_singleton _, by
      intro a ha b hb
      simp only [List.map_cons, List.map_nil, List.mem_singleton] at hb
      subst hb
      exact fun heq => hnew (heq ▸ ha)⟩
  sequence_lt := by
    intro r hr
    rcases List.mem_append.mp hr with hr | hr
    · exact db.sequence_lt r hr
    · rw [List.mem_singleton.mp hr]
      exact hlt
  header_sequence := by
    intro r hr
    rcases List.mem_append.mp hr with hr | hr
    · exact db.header_sequence r hr
    · rw [List.mem_singleton.mp hr]
      exact hheader

variable (rlpHash : BatchHeader → Hash)

/-- `storageImpl.AddBatch`, with `hostdb.AddBatch` in its transaction.
`sequence` is the table's primary key: inserting a stored sequence number
is a unique violation, which `hostdb.AddBatch` turns into
`ErrAlreadyExists`. `database/sql` refuses a `uint64` argument with the high
bit set before the insert runs. -/
def addBatch (db : HostDB) (batch : ExtBatch) : Except Failure HostDB :=
  match hheader : batch.header with
  -- `batch.Hash()` reads the header
  | none => .error nilDereference
  | some header =>
    if hasBatchHash db (header.hash rlpHash) then .error errAlreadyExists
    else
      let seq := uint64 header.sequencerOrderNo
      if hlt : seq.toNat < 2 ^ 63 then
        if 2 ^ 63 ≤ (uint64 header.number).toNat then
          .error (.error ("could not add batch to host. Cause: host failed to insert batch: " ++
            "sql: converting argument $3 type: uint64 values with high bit set are not supported"))
        else if hnew : seq ∈ db.batchHost.map BatchHostRow.sequence then .error errAlreadyExists
        else
          .ok (insertBatch db ⟨seq, header.hash rlpHash, uint64 header.number, batch⟩
            (batch.txHashes.map fun txHash => ⟨txHash, seq⟩) hnew hlt (by simp [hheader, seq]))
      else
        .error (.error ("could not add batch to host. Cause: host failed to insert batch: " ++
          errHighBitArgument))

/-! ## The repository -/

/-- The fields of `Repository` that its methods read and write. -/
structure Repository where
  db : HostDB
  isSequencer : Bool
  latestBatchSeqNo : Nat
  latestValidatedSeqNo : Nat
  p2pInFlightRequested : Option Nat
  p2pInFlightReqTime : Option Int

/-- `NewBatchRepository`. -/
def newBatchRepository (isSequencer : Bool) (db : HostDB) : Repository :=
  ⟨db, isSequencer, 0, 0, none, none⟩

/-- What a method of the repository does outside it. -/
inductive Effect
  /-- `go subscriber.HandleBatch(batch)` for each subscriber to new batches. -/
  | newBatch (batch : ExtBatch)
  /-- `go subscriber.HandleBatch(batch)` for each subscriber to validated batches. -/
  | validatedBatch (batch : ExtBatch)
  /-- `RequestBatchesFromSequencer(fromSeqNo)`, sent. -/
  | requestBatches (fromSeqNo : Nat)
  /-- `RespondToBatchRequest(requesterID, batches)`. -/
  | respond (requesterID : String) (batches : List ExtBatch)
  deriving DecidableEq, Repr

/-- A goroutine the repository starts. -/
inductive Task
  /-- `go r.requestMissingBatchesFromPeers(fromSeqNo)`. -/
  | requestMissingBatchesFromPeers (fromSeqNo : Nat)
  /-- `go r.AddBatch(batch)` in `fetchBatchFallbackToEnclave`. -/
  | addBatch (batch : ExtBatch)
  deriving DecidableEq, Repr

namespace Repository

variable (r : Repository)

/-- `AddBatch`: store the batch, and raise the watermark and announce the
batch if it is above it. -/
def addBatch (batch : ExtBatch) : Except Failure (Repository × List Effect) :=
  match batch.header with
  -- the log line reads `batch.Header.SequencerOrderNo`
  | none => .error nilDereference
  | some header =>
    match BatchRepository.addBatch rlpHash r.db batch with
    | .error f => .error (f.wrap "could not add batch: ")
    | .ok db =>
      if header.sequencerOrderNo > r.latestBatchSeqNo then
        .ok ({ r with db := db, latestBatchSeqNo := header.sequencerOrderNo }, [.newBatch batch])
      else .ok ({ r with db := db }, [])

/-- The loop of `HandleBatches`: a failed `AddBatch` ends it. -/
def addBatches : Repository → List ExtBatch → Except Failure (Repository × List Effect)
  | r, [] => .ok (r, [])
  | r, batch :: rest =>
    match r.addBatch rlpHash batch with
    | .ok (r', effects) =>
      (addBatches r' rest).map fun (r'', effects') => (r'', effects ++ effects')
    | .error (.error _) => .ok (r, [])
    | .error f => .error f

/-- The start of `HandleBatches`: an answer that begins with the batch of
the in-flight request clears it. -/
def clearInFlight (batches : List ExtBatch) (isLive : Bool) : Except Failure Repository :=
  match batches, r.p2pInFlightRequested with
  | first :: _, some requested =>
    if isLive then .ok r
    else
      match first.header with
      | none => .error nilDereference
      | some header =>
        if header.sequencerOrderNo = requested then
          .ok { r with p2pInFlightRequested := none, p2pInFlightReqTime := none }
        else .ok r
  | _, _ => .ok r

/-- `HandleBatches`. -/
def handleBatches (batches : List ExtBatch) (isLive : Bool) :
    Except Failure (Repository × List Effect) := do
  let r ← r.clearInFlight batches isLive
  r.addBatches rlpHash batches

end Repository

/-- The loop of `HandleBatchRequest`: `for len(batches) <= _maxBatchesInP2PResponse`,
fetch the next sequence number, and stop at the first lookup that fails. -/
def batchRequestLoop (db : HostDB) (batches : List ExtBatch) (nextSeqNum : Nat) : List ExtBatch :=
  if batches.length ≤ maxBatchesInP2PResponse then
    match getBatchBySequenceNumber db (uint64 nextSeqNum) with
    | .ok batch => batchRequestLoop db (batches ++ [batch]) (nextSeqNum + 1)
    | .error _ => batches
  else batches
termination_by maxBatchesInP2PResponse + 1 - batches.length

namespace Repository

variable (r : Repository)

/-- `HandleBatchRequest`. -/
def handleBatchRequest (requesterID : String) (fromSeqNo : Nat) : List Effect :=
  let batches := batchRequestLoop r.db [] fromSeqNo
  if batches = [] then [] else [.respond requesterID batches]

/-- `FetchBatchBySeqNo`; `lookupBatchBySeqNo` is the enclave's answer. -/
def fetchBatchBySeqNo (lookupBatchBySeqNo : Nat → Except Failure ExtBatch) (seqNo : Nat) :
    Except Failure ExtBatch × List Task :=
  match getBatchBySequenceNumber r.db (uint64 seqNo) with
  | .ok b => (.ok b, [])
  | .error err =>
    if err = errNotFound ∧ seqNo < r.latestBatchSeqNo then
      if r.isSequencer then
        -- `fetchBatchFallbackToEnclave`
        match lookupBatchBySeqNo seqNo with
        | .ok b => (.ok b, [.addBatch b])
        | .error e => (.error e, [])
      else (.error err, [.requestMissingBatchesFromPeers seqNo])
    else (.error err, [])

/-- `requestMissingBatchesFromPeers` at `now`; `sent` is whether
`RequestBatchesFromSequencer` returned no error. -/
def requestMissingBatchesFromPeers (fromSeqNo : Nat) (now : Int) (sent : Bool) :
    Repository × List Effect :=
  let send : Repository × List Effect :=
    if sent then ({ r with p2pInFlightReqTime := some now }, [.requestBatches fromSeqNo])
    else (r, [])
  match r.p2pInFlightReqTime with
  | some reqTime => if now - reqTime < timeoutWaitingForP2PResponse then (r, []) else send
  | none => send

/-- `NotifyNewValidatedHead`. -/
def notifyNewValidatedHead (batch : ExtBatch) : Except Failure (Repository × List Effect) :=
  match batch.header with
  | none => .error nilDereference
  | some header =>
    let r := if header.sequencerOrderNo > r.latestValidatedSeqNo then
      { r with latestValidatedSeqNo := header.sequencerOrderNo } else r
    .ok (r, [.validatedBatch batch])

end Repository

/-! ## What the storage accepts -/

/-- The row `hostdb.AddBatch` writes for a batch with this header. -/
def rowOf (header : BatchHeader) (batch : ExtBatch) : BatchHostRow :=
  ⟨uint64 header.sequencerOrderNo, header.hash rlpHash, uint64 header.number, batch⟩

section Storage

variable {rlpHash}

/-- A lookup by sequence number finds exactly the stored rows. -/
theorem getBatchBySequenceNumber_eq_ok {db : HostDB} {seqNo : UInt64} {batch : ExtBatch} :
    getBatchBySequenceNumber db seqNo = .ok batch ↔
      ∃ row, db.rowBySequence seqNo = some row ∧ row.extBatch = batch := by
  unfold getBatchBySequenceNumber
  constructor
  · intro h
    split at h
    · split at h
      · rename_i row hrow
        exact ⟨row, hrow, by simpa using h⟩
      · cases h
    · cases h
  · rintro ⟨row, hrow, rfl⟩
    obtain ⟨hmem, rfl⟩ := (rowBySequence_eq_some db).mp hrow
    rw [if_pos (db.sequence_lt row hmem), hrow]

/-- What a successful `AddBatch` of the storage wrote: the batch's row at the
end of `batch_host`. -/
theorem addBatch_eq_ok {db db' : HostDB} {batch : ExtBatch}
    (h : addBatch rlpHash db batch = .ok db') :
    ∃ header, batch.header = some header ∧
      db'.batchHost = db.batchHost ++ [rowOf rlpHash header batch] := by
  unfold addBatch at h
  split at h
  · cases h
  · rename_i header hheader
    refine ⟨header, hheader, ?_⟩
    split at h
    · cases h
    · dsimp only at h
      split at h
      · split at h
        · cases h
        · split at h
          · cases h
          · cases h
            rfl
      · cases h

/-- The storage stores a batch with a header whose hash, sequence number and
height are new and below `2 ^ 63`. -/
theorem addBatch_of_new {db : HostDB} {batch : ExtBatch} {header : BatchHeader}
    (hheader : batch.header = some header)
    (hhash : hasBatchHash db (header.hash rlpHash) = false)
    (hseq : (uint64 header.sequencerOrderNo).toNat < 2 ^ 63)
    (hnumber : (uint64 header.number).toNat < 2 ^ 63)
    (hnew : uint64 header.sequencerOrderNo ∉ db.batchHost.map BatchHostRow.sequence) :
    ∃ db', addBatch rlpHash db batch = .ok db' ∧
      db'.batchHost = db.batchHost ++ [rowOf rlpHash header batch] := by
  unfold addBatch
  split
  · rename_i hnone
    rw [hnone] at hheader
    cases hheader
  · rename_i header' hheader'
    rw [hheader'] at hheader
    cases hheader
    simp only [hhash, Bool.false_eq_true, ↓reduceIte, hseq, ↓reduceDIte, hnew]
    rw [if_neg (by omega)]
    exact ⟨_, rfl, rfl⟩

/-- The storage refuses a batch with an error, or panics on a batch without
a header. -/
theorem addBatch_eq_error {db : HostDB} {batch : ExtBatch} {f : Failure}
    (h : addBatch rlpHash db batch = .error f) :
    (∃ msg, f = .error msg) ∨ (batch.header = none ∧ f = nilDereference) := by
  unfold addBatch at h
  split at h
  · exact .inr ⟨by assumption, by cases h; rfl⟩
  · left
    split at h
    · cases h
      exact ⟨_, rfl⟩
    · dsimp only at h
      split at h
      · split at h
        · cases h
          exact ⟨_, rfl⟩
        · split at h
          · cases h
            exact ⟨_, rfl⟩
          · cases h
      · cases h
        exact ⟨_, rfl⟩

end Storage

/-! ## What the repository's methods do -/

/-- The rows a list of batches with headers adds to `batch_host`. -/
def rowsOf (batches : List ExtBatch) : List BatchHostRow :=
  batches.filterMap fun batch => batch.header.map fun header => rowOf rlpHash header batch

section Methods

variable {rlpHash}

/-- What a successful `AddBatch` did: it stored the batch, and raised the
watermark and announced the batch exactly when the batch is above it. -/
theorem Repository.addBatch_eq_ok {r r' : Repository} {batch : ExtBatch} {effects : List Effect}
    (h : r.addBatch rlpHash batch = .ok (r', effects)) :
    ∃ header db', batch.header = some header ∧ BatchRepository.addBatch rlpHash r.db batch = .ok db' ∧
      (r.latestBatchSeqNo < header.sequencerOrderNo ∧
          r' = { r with db := db', latestBatchSeqNo := header.sequencerOrderNo } ∧
          effects = [.newBatch batch] ∨
        header.sequencerOrderNo ≤ r.latestBatchSeqNo ∧ r' = { r with db := db' } ∧
          effects = []) := by
  unfold Repository.addBatch at h
  split at h
  · cases h
  · rename_i header hheader
    split at h
    · cases h
    · rename_i db' hdb
      refine ⟨header, db', hheader, hdb, ?_⟩
      split at h
      · cases h
        exact .inl ⟨by omega, rfl, rfl⟩
      · cases h
        exact .inr ⟨by omega, rfl, rfl⟩

/-- `AddBatch` fails with an error of the storage, or panics on a batch
without a header. -/
theorem Repository.addBatch_eq_error {r : Repository} {batch : ExtBatch} {f : Failure}
    (h : r.addBatch rlpHash batch = .error f) :
    (∃ msg, f = .error msg) ∨ (batch.header = none ∧ f = nilDereference) := by
  unfold Repository.addBatch at h
  split at h
  · exact .inr ⟨by assumption, by cases h; rfl⟩
  · rename_i header hheader
    split at h
    · rename_i f' hf'
      cases h
      rcases BatchRepository.addBatch_eq_error hf' with ⟨msg, rfl⟩ | ⟨hnone, -⟩
      · exact .inl ⟨_, rfl⟩
      · rw [hnone] at hheader
        cases hheader
    · split at h <;> cases h

/-- What every successful run of the loop of `HandleBatches` keeps, given
that every successful `AddBatch` keeps it. -/
theorem addBatches_preserves (Inv : Repository → List Effect → Prop)
    (hstep : ∀ {r r' log effects batch}, Inv r log →
      r.addBatch rlpHash batch = .ok (r', effects) → Inv r' (log ++ effects)) :
    ∀ {batches : List ExtBatch} {r r' : Repository} {log effects : List Effect},
      Inv r log → r.addBatches rlpHash batches = .ok (r', effects) → Inv r' (log ++ effects)
  | [], r, r', log, effects, hinv, h => by
    simp only [Repository.addBatches, Except.ok.injEq, Prod.mk.injEq] at h
    obtain ⟨rfl, rfl⟩ := h
    simpa using hinv
  | batch :: rest, r, r', log, effects, hinv, h => by
    unfold Repository.addBatches at h
    split at h
    · rename_i r₁ effects₁ hadd
      cases hrest : r₁.addBatches rlpHash rest with
      | error f => simp [hrest, Except.map] at h
      | ok result =>
        obtain ⟨r₂, effects₂⟩ := result
        simp only [hrest, Except.map, Except.ok.injEq, Prod.mk.injEq] at h
        obtain ⟨rfl, rfl⟩ := h
        have := addBatches_preserves Inv hstep (hstep hinv hadd) hrest
        simpa using this
    · cases h
      simpa using hinv
    · cases h

/-- `clearInFlight` changes only the two fields of the in-flight request,
and only when one is recorded. -/
theorem clearInFlight_eq_ok {r r' : Repository} {batches : List ExtBatch} {isLive : Bool}
    (h : r.clearInFlight batches isLive = .ok r') :
    r' = r ∨ (r.p2pInFlightRequested.isSome ∧
      r' = { r with p2pInFlightRequested := none, p2pInFlightReqTime := none }) := by
  unfold Repository.clearInFlight at h
  split at h
  · rename_i requested hrequested
    split at h
    · cases h
      exact .inl rfl
    · split at h
      · cases h
      · split at h
        · cases h
          exact .inr ⟨by simp [hrequested], rfl⟩
        · cases h
          exact .inl rfl
  · cases h
    exact .inl rfl

/-- `clearInFlight` changes nothing when no in-flight request is recorded. -/
theorem clearInFlight_of_none {r : Repository} (batches : List ExtBatch) (isLive : Bool)
    (hnone : r.p2pInFlightRequested = none) : r.clearInFlight batches isLive = .ok r := by
  unfold Repository.clearInFlight
  split
  · rename_i hsome
    rw [hnone] at hsome
    cases hsome
  · rfl

/-- The storage's error inside a failed `AddBatch`. -/
theorem Repository.addBatch_eq_error_error {r : Repository} {batch : ExtBatch} {msg : String}
    (h : r.addBatch rlpHash batch = .error (.error msg)) :
    ∃ msg', BatchRepository.addBatch rlpHash r.db batch = .error (.error msg') := by
  unfold Repository.addBatch at h
  split at h
  · cases h
  · split at h
    · rename_i f hf
      rcases BatchRepository.addBatch_eq_error hf with ⟨msg', rfl⟩ | ⟨-, rfl⟩
      · exact ⟨msg', hf⟩
      · cases h
    · split at h <;> cases h

/-- `HandleBatches` stores a prefix of the batches it receives, in order,
and stops at the first one the storage refuses (a batch already stored, or
one whose sequence number is taken): the batches after it are dropped, new
or not. -/
theorem addBatches_eq : ∀ {r r' : Repository} {batches : List ExtBatch} {effects : List Effect},
    r.addBatches rlpHash batches = .ok (r', effects) →
    ∃ pre rest, batches = pre ++ rest ∧
      r'.db.batchHost = r.db.batchHost ++ rowsOf rlpHash pre ∧
      ∀ batch ∈ rest.head?, ∃ msg, BatchRepository.addBatch rlpHash r'.db batch = .error (.error msg)
  | r, r', [], effects, h => by
    simp only [Repository.addBatches, Except.ok.injEq, Prod.mk.injEq] at h
    obtain ⟨rfl, rfl⟩ := h
    exact ⟨[], [], rfl, by simp [rowsOf], by simp⟩
  | r, r', batch :: rest, effects, h => by
    unfold Repository.addBatches at h
    split at h
    · -- stored: the rest of the loop runs from the new state
      rename_i r₁ effects₁ hadd
      cases hrest : r₁.addBatches rlpHash rest with
      | error f => simp [hrest, Except.map] at h
      | ok result =>
        obtain ⟨r₂, effects₂⟩ := result
        simp only [hrest, Except.map, Except.ok.injEq, Prod.mk.injEq] at h
        obtain ⟨rfl, rfl⟩ := h
        obtain ⟨pre, rest', hsplit, hdb, hstop⟩ := addBatches_eq hrest
        obtain ⟨header, db₁, hheader, hdb₁, hr₁⟩ := Repository.addBatch_eq_ok hadd
        obtain ⟨header', hheader', hrows⟩ := BatchRepository.addBatch_eq_ok hdb₁
        rw [hheader] at hheader'
        cases hheader'
        have hdb₁' : r₁.db = db₁ := by
          rcases hr₁ with ⟨-, rfl, -⟩ | ⟨-, rfl, -⟩ <;> rfl
        refine ⟨batch :: pre, rest', by rw [hsplit]; rfl, ?_, hstop⟩
        rw [hdb, hdb₁', hrows]
        simp [rowsOf, hheader]
    · -- refused: nothing stored from here on
      rename_i msg hadd
      cases h
      exact ⟨[], batch :: rest, rfl, by simp [rowsOf],
        by simpa using Repository.addBatch_eq_error_error hadd⟩
    · cases h

/-- A host that stores batches one to three and receives 5, 2, 6 stores 5,
is refused 2, and drops 6. -/
theorem addBatches_eq_refusedSecond :
    let rlpHash := fun header : BatchHeader => BitVec.ofNat 256 header.number
    let batches := [(rowAt 5).extBatch, (rowAt 2).extBatch, (rowAt 6).extBatch]
    ∃ r' effects, (newBatchRepository false threeBatchDb).addBatches rlpHash batches = .ok (r', effects) ∧
      r'.db.batchHost.map BatchHostRow.sequence = [1, 2, 3, 5] ∧
      ∃ pre rest, batches = pre ++ rest ∧
        r'.db.batchHost = threeBatchDb.batchHost ++ rowsOf rlpHash pre ∧
        ∀ batch ∈ rest.head?, ∃ msg,
          BatchRepository.addBatch rlpHash r'.db batch = .error (.error msg) := by
  intro rlpHash batches
  exact ⟨_, _, rfl, rfl, @addBatches_eq rlpHash (newBatchRepository false threeBatchDb) _ batches _ rfl⟩

end Methods

/-! ## The answer to a peer -/

/-- From `batches` on, the loop of `HandleBatchRequest` appends the stored
batches from `nextSeqNum` on, one sequence number after the other, until a
lookup fails or it holds fifty-one batches. -/
theorem batchRequestLoop_spec (db : HostDB) (batches : List ExtBatch) (nextSeqNum : Nat)
    (hlen : batches.length ≤ maxBatchesInP2PResponse + 1) :
    ∃ rest, batchRequestLoop db batches nextSeqNum = batches ++ rest ∧
      batches.length + rest.length ≤ maxBatchesInP2PResponse + 1 ∧
      (∀ i (hi : i < rest.length), ∃ row,
        db.rowBySequence (uint64 ↑(nextSeqNum + i)) = some row ∧ rest[i] = row.extBatch) ∧
      (batches.length + rest.length ≤ maxBatchesInP2PResponse →
        db.rowBySequence (uint64 ↑(nextSeqNum + rest.length)) = none) := by
  fun_induction batchRequestLoop db batches nextSeqNum with
  | case1 batches nextSeqNum hroom batch hbatch ih =>
    -- one more stored batch, then the rest of the run from the next number
    obtain ⟨row, hrow, rfl⟩ := getBatchBySequenceNumber_eq_ok.mp hbatch
    obtain ⟨rest, hloop, hbound, hrun, hstop⟩ := ih (by simp; omega)
    refine ⟨row.extBatch :: rest, by simpa using hloop, by simp at hbound ⊢; omega, ?_, ?_⟩
    · intro i hi
      cases i with
      | zero => exact ⟨row, by simpa using hrow, rfl⟩
      | succ i =>
        obtain ⟨row', hrow', heq⟩ := hrun i (by simpa using hi)
        exact ⟨row', by rw [← hrow']; congr 2; omega, by simpa using heq⟩
    · intro hroom'
      have := hstop (by simp at hroom' ⊢; omega)
      rw [← this]
      congr 2
      simp
      omega
  | case2 batches nextSeqNum hroom err herr =>
    -- the lookup fails: no stored batch at `nextSeqNum`
    refine ⟨[], by simp, by simp; omega, by simp, fun _ => ?_⟩
    cases hrow : db.rowBySequence (uint64 ↑(nextSeqNum + 0)) with
    | none => rfl
    | some row =>
      have hok := getBatchBySequenceNumber_eq_ok.mpr ⟨row, by simpa using hrow, rfl⟩
      rw [hok] at herr
      cases herr
  | case3 batches nextSeqNum hfull =>
    exact ⟨[], by simp, by simp; omega, by simp, fun h => absurd h (by simpa using hfull)⟩

/-- The batches `HandleBatchRequest` sends a peer are the stored batches
from the requested sequence number on, one number after the other, up to
the first number without a batch and at most fifty-one: one more than
`_maxBatchesInP2PResponse`, since the loop runs while it holds at most that
many. -/
theorem batchRequestLoop_eq (db : HostDB) (fromSeqNo : Nat) :
    let batches := batchRequestLoop db [] fromSeqNo
    batches.length ≤ maxBatchesInP2PResponse + 1 ∧
      (∀ i (hi : i < batches.length), ∃ row,
        db.rowBySequence (uint64 ↑(fromSeqNo + i)) = some row ∧ batches[i] = row.extBatch) ∧
      (batches.length ≤ maxBatchesInP2PResponse →
        db.rowBySequence (uint64 ↑(fromSeqNo + batches.length)) = none) := by
  obtain ⟨rest, hloop, hbound, hrun, hstop⟩ := batchRequestLoop_spec db [] fromSeqNo (by simp)
  simp only [List.nil_append, List.length_nil, Nat.zero_add] at hloop hbound hstop
  intro batches
  rw [show batches = rest from hloop]
  exact ⟨hbound, hrun, hstop⟩

/-! ## The repository over a run -/

/-- A host's repository, its clock, the goroutines it started that have not
run, and what it did outside itself, with the time it did it. -/
structure System where
  repo : Repository
  clock : Int
  tasks : List Task
  effects : List (Int × Effect)

/-- A host that starts on its database, with no batch seen yet. -/
def System.init (isSequencer : Bool) (db : HostDB) (clock : Int) : System :=
  ⟨newBatchRepository isSequencer db, clock, [], []⟩

/-- The repository became `r` and did `effects`, now. -/
def System.did (s : System) (r : Repository) (effects : List Effect) : System :=
  { s with repo := r, effects := s.effects ++ effects.map (s.clock, ·) }

variable (lookupBatchBySeqNo : Nat → Except Failure ExtBatch)

/-- One step of a host: time passes; another part of the host stores a batch
(the sequencer's own, or one read from a roll-up); the P2P layer hands over
batches or a peer's request; the host fetches a batch; a goroutine the
repository started runs; the enclave validated a batch. A step that panics
ends the run and is not a step. -/
inductive Step : System → System → Prop
  | tick (s : System) (d : Nat) : Step s { s with clock := s.clock + d }
  | addBatch (s : System) (batch : ExtBatch) {r : Repository} {effects : List Effect}
      (h : s.repo.addBatch rlpHash batch = .ok (r, effects)) : Step s (s.did r effects)
  | handleBatches (s : System) (batches : List ExtBatch) (isLive : Bool) {r : Repository}
      {effects : List Effect} (h : s.repo.handleBatches rlpHash batches isLive = .ok (r, effects)) :
      Step s (s.did r effects)
  | handleBatchRequest (s : System) (requesterID : String) (fromSeqNo : Nat) :
      Step s (s.did s.repo (s.repo.handleBatchRequest requesterID fromSeqNo))
  | fetchBatchBySeqNo (s : System) (seqNo : Nat) :
      Step s { s with tasks := s.tasks ++ (s.repo.fetchBatchBySeqNo lookupBatchBySeqNo seqNo).2 }
  | requestMissing (s : System) (i fromSeqNo : Nat)
      (hi : s.tasks[i]? = some (.requestMissingBatchesFromPeers fromSeqNo)) (sent : Bool) :
      Step s ({ s with tasks := s.tasks.eraseIdx i }.did
        (s.repo.requestMissingBatchesFromPeers fromSeqNo s.clock sent).1
        (s.repo.requestMissingBatchesFromPeers fromSeqNo s.clock sent).2)
  | addFetched (s : System) (i : Nat) (batch : ExtBatch) (hi : s.tasks[i]? = some (.addBatch batch))
      {r : Repository} {effects : List Effect} (h : s.repo.addBatch rlpHash batch = .ok (r, effects)) :
      Step s ({ s with tasks := s.tasks.eraseIdx i }.did r effects)
  | addFetchedFails (s : System) (i : Nat) (batch : ExtBatch)
      (hi : s.tasks[i]? = some (.addBatch batch)) {msg : String}
      (h : s.repo.addBatch rlpHash batch = .error (.error msg)) :
      Step s { s with tasks := s.tasks.eraseIdx i }
  | notifyNewValidatedHead (s : System) (batch : ExtBatch) {r : Repository} {effects : List Effect}
      (h : s.repo.notifyNewValidatedHead batch = .ok (r, effects)) : Step s (s.did r effects)

/-- The states a host reaches from a start on its database. -/
def Reachable (isSequencer : Bool) (db : HostDB) (clock : Int) (s : System) : Prop :=
  Relation.ReflTransGen (Step rlpHash lookupBatchBySeqNo) (System.init isSequencer db clock) s

/-! ## Announcements of new batches -/

/-- An announcement to the subscribers of new batches. -/
def Effect.isNewBatch : Effect → Bool
  | .newBatch _ => true
  | _ => false

/-- A request to the sequencer. -/
def Effect.isRequest : Effect → Bool
  | .requestBatches _ => true
  | _ => false

/-- The sequence numbers of the batches announced to the subscribers of new
batches, in order. -/
def announced (effects : List Effect) : List Nat :=
  effects.filterMap fun
    | .newBatch batch => batch.header.map BatchHeader.sequencerOrderNo
    | _ => none

theorem announced_append (l l' : List Effect) : announced (l ++ l') = announced l ++ announced l' :=
  List.filterMap_append

theorem announced_of_not_newBatch {effects : List Effect}
    (h : ∀ e ∈ effects, e.isNewBatch = false) : announced effects = [] := by
  apply List.filterMap_eq_nil_iff.mpr
  intro e he
  cases e with
  | newBatch batch => simpa [Effect.isNewBatch] using h _ he
  | _ => rfl

/-- The batches announced to subscribers go up, the last one is the
watermark, and every announced batch is stored. -/
structure Announced (r : Repository) (log : List Effect) : Prop where
  increasing : (announced log).Pairwise (· < ·)
  le_watermark : ∀ n ∈ announced log, n ≤ r.latestBatchSeqNo
  watermark : r.latestBatchSeqNo = 0 ∨ r.latestBatchSeqNo ∈ announced log
  stored : ∀ batch, Effect.newBatch batch ∈ log → ∃ row ∈ r.db.batchHost, row.extBatch = batch

section Announced

variable {rlpHash} {r r' : Repository} {log effects : List Effect}

theorem Announced.init (isSequencer : Bool) (db : HostDB) :
    Announced (newBatchRepository isSequencer db) [] :=
  ⟨List.Pairwise.nil, by simp [announced], .inl rfl, by simp⟩

/-- A step that keeps the table and the watermark and announces nothing
keeps the announcements in order. -/
theorem Announced.frame (hinv : Announced r log) (hdb : r'.db = r.db)
    (hlatest : r'.latestBatchSeqNo = r.latestBatchSeqNo)
    (heffects : ∀ e ∈ effects, e.isNewBatch = false) : Announced r' (log ++ effects) := by
  have hnone := announced_of_not_newBatch heffects
  refine ⟨?_, ?_, ?_, ?_⟩
  · simpa [announced_append, hnone] using hinv.increasing
  · simpa [announced_append, hnone, hlatest] using hinv.le_watermark
  · simpa [announced_append, hnone, hlatest] using hinv.watermark
  · intro batch hmem
    rcases List.mem_append.mp hmem with hmem | hmem
    · simpa [hdb] using hinv.stored batch hmem
    · simpa [Effect.isNewBatch] using heffects _ hmem

/-- `AddBatch` announces a batch only above the watermark, and raises the
watermark to it. -/
theorem Announced.addBatch {batch : ExtBatch} (hinv : Announced r log)
    (h : r.addBatch rlpHash batch = .ok (r', effects)) : Announced r' (log ++ effects) := by
  obtain ⟨header, db', hheader, hdb, hcases⟩ := Repository.addBatch_eq_ok h
  obtain ⟨header', hheader', hrows⟩ := BatchRepository.addBatch_eq_ok hdb
  rw [hheader] at hheader'
  cases hheader'
  -- every stored batch stays stored, and the new one is stored
  have hstored : ∀ b, Effect.newBatch b ∈ log ++ [Effect.newBatch batch] →
      ∃ row ∈ db'.batchHost, row.extBatch = b := by
    intro b hb
    rw [hrows]
    rcases List.mem_append.mp hb with hb | hb
    · obtain ⟨row, hrow, hext⟩ := hinv.stored b hb
      exact ⟨row, List.mem_append_left _ hrow, hext⟩
    · simp only [List.mem_singleton, Effect.newBatch.injEq] at hb
      exact ⟨_, List.mem_append_right _ (List.mem_singleton_self _), hb.symm⟩
  rcases hcases with ⟨hlt, rfl, rfl⟩ | ⟨hle, rfl, rfl⟩
  · have hann : announced (log ++ [.newBatch batch]) =
        announced log ++ [header.sequencerOrderNo] := by
      simp [announced, hheader]
    refine ⟨?_, ?_, ?_, hstored⟩
    · rw [hann, List.pairwise_append]
      refine ⟨hinv.increasing, List.pairwise_singleton _ _, ?_⟩
      intro n hn m hm
      rw [List.mem_singleton.mp hm]
      exact Nat.lt_of_le_of_lt (hinv.le_watermark n hn) hlt
    · intro n hn
      rw [hann] at hn
      rcases List.mem_append.mp hn with hn | hn
      · exact Nat.le_of_lt (Nat.lt_of_le_of_lt (hinv.le_watermark n hn) hlt)
      · exact Nat.le_of_eq (List.mem_singleton.mp hn)
    · exact .inr (by simp [hann])
  · simp only [List.append_nil]
    exact ⟨hinv.increasing, hinv.le_watermark, hinv.watermark,
      fun b hb => hstored b (List.mem_append_left _ hb)⟩

theorem Announced.addBatches {batches : List ExtBatch} (hinv : Announced r log)
    (h : r.addBatches rlpHash batches = .ok (r', effects)) : Announced r' (log ++ effects) :=
  addBatches_preserves (Announced) (fun hinv h => hinv.addBatch h) hinv h

theorem Announced.handleBatches {batches : List ExtBatch} {isLive : Bool} (hinv : Announced r log)
    (h : r.handleBatches rlpHash batches isLive = .ok (r', effects)) :
    Announced r' (log ++ effects) := by
  unfold Repository.handleBatches at h
  cases hclear : r.clearInFlight batches isLive with
  | error f => simp [hclear] at h
  | ok r₁ =>
    simp only [hclear, GoTen.Verified.Result.ok_bind] at h
    -- clearing the in-flight request touches neither the table nor the watermark
    have hinv₁ : Announced r₁ log := by
      rcases clearInFlight_eq_ok hclear with rfl | ⟨-, rfl⟩
      · exact hinv
      · exact ⟨hinv.increasing, hinv.le_watermark, hinv.watermark, hinv.stored⟩
    exact hinv₁.addBatches h

end Announced

/-! ## What each method leaves alone -/

section Frames

variable {rlpHash} {r r' : Repository} {effects : List Effect}

/-- `AddBatch` touches neither the in-flight request nor the peers. -/
theorem Repository.addBatch_p2p {batch : ExtBatch} (h : r.addBatch rlpHash batch = .ok (r', effects)) :
    r'.p2pInFlightRequested = r.p2pInFlightRequested ∧
      r'.p2pInFlightReqTime = r.p2pInFlightReqTime ∧ ∀ e ∈ effects, e.isRequest = false := by
  obtain ⟨header, db', -, -, hcases⟩ := Repository.addBatch_eq_ok h
  rcases hcases with ⟨-, rfl, rfl⟩ | ⟨-, rfl, rfl⟩ <;> simp [Effect.isRequest]

/-- Nor does the loop of `HandleBatches`. -/
theorem Repository.addBatches_p2p {batches : List ExtBatch}
    (h : r.addBatches rlpHash batches = .ok (r', effects)) :
    r'.p2pInFlightRequested = r.p2pInFlightRequested ∧
      r'.p2pInFlightReqTime = r.p2pInFlightReqTime ∧ ∀ e ∈ effects, e.isRequest = false := by
  have := @addBatches_preserves rlpHash
    (fun r₁ log => r₁.p2pInFlightRequested = r.p2pInFlightRequested ∧
      r₁.p2pInFlightReqTime = r.p2pInFlightReqTime ∧ ∀ e ∈ log, e.isRequest = false)
    (fun ⟨hreq, htime, hlog⟩ hadd => by
      obtain ⟨hreq', htime', heff⟩ := Repository.addBatch_p2p hadd
      refine ⟨hreq'.trans hreq, htime'.trans htime, ?_⟩
      intro e he
      rcases List.mem_append.mp he with he | he
      · exact hlog e he
      · exact heff e he)
    batches r r' [] effects ⟨rfl, rfl, by simp⟩ h
  simpa using this

theorem Repository.notifyNewValidatedHead_eq_ok {batch : ExtBatch}
    (h : r.notifyNewValidatedHead batch = .ok (r', effects)) :
    r'.db = r.db ∧ r'.latestBatchSeqNo = r.latestBatchSeqNo ∧
      r'.p2pInFlightRequested = r.p2pInFlightRequested ∧
      r'.p2pInFlightReqTime = r.p2pInFlightReqTime ∧ effects = [.validatedBatch batch] := by
  unfold Repository.notifyNewValidatedHead at h
  split at h
  · cases h
  · cases h
    split <;> exact ⟨rfl, rfl, rfl, rfl, rfl⟩

theorem handleBatchRequest_not_request (requesterID : String) (fromSeqNo : Nat) :
    ∀ e ∈ r.handleBatchRequest requesterID fromSeqNo, e.isRequest = false ∧ e.isNewBatch = false := by
  unfold Repository.handleBatchRequest
  dsimp only
  split <;> simp [Effect.isRequest, Effect.isNewBatch]

/-- `requestMissingBatchesFromPeers` records the time of a request it sent,
and only that. -/
theorem requestMissingBatchesFromPeers_cases (fromSeqNo : Nat) (now : Int) (sent : Bool) :
    r.requestMissingBatchesFromPeers fromSeqNo now sent = (r, []) ∨
      (sent = true ∧ (∀ reqTime, r.p2pInFlightReqTime = some reqTime →
          reqTime + timeoutWaitingForP2PResponse ≤ now) ∧
        r.requestMissingBatchesFromPeers fromSeqNo now sent =
          ({ r with p2pInFlightReqTime := some now }, [.requestBatches fromSeqNo])) := by
  unfold Repository.requestMissingBatchesFromPeers
  cases sent with
  | false =>
    left
    cases r.p2pInFlightReqTime <;> simp
  | true =>
    cases hreqTime : r.p2pInFlightReqTime with
    | none => exact .inr ⟨rfl, (fun t ht => by cases ht), by simp⟩
    | some reqTime =>
      by_cases hlate : now - reqTime < timeoutWaitingForP2PResponse
      · exact .inl (by simp [hlate])
      · exact .inr ⟨rfl, (fun t ht => by cases ht; omega), by simp [hlate]⟩

end Frames

/-! ## Requests to the sequencer -/

/-- The times at which the host sent a request to the sequencer, in order. -/
def requestTimes (effects : List (Int × Effect)) : List Int :=
  effects.filterMap fun e => if e.2.isRequest then some e.1 else none

theorem requestTimes_append (l l' : List (Int × Effect)) :
    requestTimes (l ++ l') = requestTimes l ++ requestTimes l' :=
  List.filterMap_append

theorem requestTimes_of_not_request {effects : List Effect} (t : Int)
    (h : ∀ e ∈ effects, e.isRequest = false) : requestTimes (effects.map (t, ·)) = [] := by
  apply List.filterMap_eq_nil_iff.mpr
  intro e he
  obtain ⟨e', he', rfl⟩ := List.mem_map.mp he
  simp [h e' he']

/-- The requests to the sequencer are at least thirty seconds apart, the
last one is the time the repository keeps, none is in the future, and no
in-flight request is recorded. -/
structure Spaced (s : System) : Prop where
  inFlight : s.repo.p2pInFlightRequested = none
  spaced : (requestTimes s.effects).IsChain fun t t' => t + timeoutWaitingForP2PResponse ≤ t'
  lastRequest : s.repo.p2pInFlightReqTime = (requestTimes s.effects).getLast?
  before : ∀ t ∈ requestTimes s.effects, t ≤ s.clock

/-! ## Over every run -/

section Runs

variable {rlpHash lookupBatchBySeqNo} {s s' : System}

theorem effects_did (s : System) (r : Repository) (effects : List Effect) :
    (s.did r effects).effects.map Prod.snd = s.effects.map Prod.snd ++ effects := by
  simp [System.did, Function.comp_def]

/-- The announcements stay in order over every step. -/
theorem Announced.step (hinv : Announced s.repo (s.effects.map Prod.snd))
    (h : Step rlpHash lookupBatchBySeqNo s s') : Announced s'.repo (s'.effects.map Prod.snd) := by
  cases h with
  | tick d => exact hinv
  | addBatch batch hadd =>
    rw [effects_did]
    exact hinv.addBatch hadd
  | handleBatches batches isLive hhandle =>
    rw [effects_did]
    exact hinv.handleBatches hhandle
  | handleBatchRequest requesterID fromSeqNo =>
    rw [effects_did]
    exact hinv.frame rfl rfl fun e he => (handleBatchRequest_not_request requesterID fromSeqNo e he).2
  | fetchBatchBySeqNo seqNo => exact hinv
  | requestMissing i fromSeqNo hi sent =>
    rw [effects_did]
    rcases requestMissingBatchesFromPeers_cases (r := s.repo) fromSeqNo s.clock sent with
      heq | ⟨-, -, heq⟩ <;> rw [heq]
    · simpa [System.did] using hinv
    · exact hinv.frame rfl rfl (by simp [Effect.isNewBatch])
  | addFetched i batch hi hadd =>
    rw [effects_did]
    exact hinv.addBatch hadd
  | addFetchedFails i batch hi herr => exact hinv
  | notifyNewValidatedHead batch hnotify =>
    rw [effects_did]
    obtain ⟨hdb, hlatest, -, -, rfl⟩ := Repository.notifyNewValidatedHead_eq_ok hnotify
    exact hinv.frame hdb hlatest (by simp [Effect.isNewBatch])

/-- A validator on batches one to three that stores batch five announces it,
then misses batch four and asks the sequencer for it. -/
theorem validatorRun : ∃ s, Reachable (fun header => BitVec.ofNat 256 header.number)
      (fun _ => .error errNotFound) false threeBatchDb 0 s ∧
    announced (s.effects.map Prod.snd) = [5] ∧ requestTimes s.effects = [0] :=
  ⟨_, ((Relation.ReflTransGen.single (Step.addBatch _ (rowAt 5).extBatch rfl)).tail
    (Step.fetchBatchBySeqNo _ 4)).tail (Step.requestMissing _ 0 4 rfl true), rfl, rfl⟩

/-- In every run of a host, the repository announces new batches to its
subscribers in increasing order of sequence number, never above the
watermark, the last one at the watermark, and only batches it stores. -/
theorem announcements_ordered {isSequencer : Bool} {db : HostDB} {clock : Int}
    (h : Reachable rlpHash lookupBatchBySeqNo isSequencer db clock s) :
    Announced s.repo (s.effects.map Prod.snd) := by
  induction h with
  | refl => exact Announced.init isSequencer db
  | tail _ hstep ih => exact ih.step hstep

theorem announcements_ordered_validatorRun :
    ∃ s, Reachable (fun header => BitVec.ofNat 256 header.number) (fun _ => .error errNotFound)
      false threeBatchDb 0 s ∧ announced (s.effects.map Prod.snd) = [5] ∧
      Announced s.repo (s.effects.map Prod.snd) := by
  obtain ⟨s, hreach, hannounced, -⟩ := validatorRun
  exact ⟨s, hreach, hannounced, announcements_ordered hreach⟩

theorem Spaced.init (isSequencer : Bool) (db : HostDB) (clock : Int) :
    Spaced (System.init isSequencer db clock) :=
  ⟨rfl, List.isChain_nil, rfl, by simp [System.init, requestTimes]⟩

/-- A step that sends no request and keeps the request fields, with time
not going back, keeps the requests spaced. -/
theorem Spaced.frame (hinv : Spaced s)
    (hreq : s'.repo.p2pInFlightRequested = s.repo.p2pInFlightRequested)
    (htime : s'.repo.p2pInFlightReqTime = s.repo.p2pInFlightReqTime)
    (hclock : s.clock ≤ s'.clock) (htimes : requestTimes s'.effects = requestTimes s.effects) :
    Spaced s' := by
  refine ⟨hreq.trans hinv.inFlight, htimes ▸ hinv.spaced, ?_, ?_⟩
  · rw [htime, htimes]
    exact hinv.lastRequest
  · intro t ht
    rw [htimes] at ht
    exact Int.le_trans (hinv.before t ht) hclock

theorem requestTimes_did {s : System} {r : Repository} {effects : List Effect}
    (h : ∀ e ∈ effects, e.isRequest = false) :
    requestTimes (s.did r effects).effects = requestTimes s.effects := by
  simp [System.did, requestTimes_append, requestTimes_of_not_request _ h]

/-- The requests stay thirty seconds apart over every step. -/
theorem Spaced.step (hinv : Spaced s) (h : Step rlpHash lookupBatchBySeqNo s s') : Spaced s' := by
  cases h with
  | tick d => exact hinv.frame rfl rfl (by simp) rfl
  | addBatch batch hadd =>
    obtain ⟨hreq, htime, heff⟩ := Repository.addBatch_p2p hadd
    exact hinv.frame hreq htime (Int.le_refl _) (requestTimes_did heff)
  | handleBatches batches isLive hhandle =>
    -- no in-flight request is recorded, so nothing is cleared
    unfold Repository.handleBatches at hhandle
    rw [clearInFlight_of_none batches isLive hinv.inFlight, GoTen.Verified.Result.ok_bind] at hhandle
    obtain ⟨hreq, htime, heff⟩ := Repository.addBatches_p2p hhandle
    exact hinv.frame hreq htime (Int.le_refl _) (requestTimes_did heff)
  | handleBatchRequest requesterID fromSeqNo =>
    exact hinv.frame rfl rfl (Int.le_refl _) (requestTimes_did fun e he =>
      (handleBatchRequest_not_request requesterID fromSeqNo e he).1)
  | fetchBatchBySeqNo seqNo => exact hinv.frame rfl rfl (Int.le_refl _) rfl
  | requestMissing i fromSeqNo hi sent =>
    rcases requestMissingBatchesFromPeers_cases (r := s.repo) fromSeqNo s.clock sent with
      heq | ⟨-, hlate, heq⟩ <;> rw [heq]
    · exact hinv.frame rfl rfl (Int.le_refl _) (requestTimes_did (by simp))
    · -- a request sent now: thirty seconds after the last one, which the repository keeps
      have htimes : requestTimes ({ s with tasks := s.tasks.eraseIdx i }.did
          { s.repo with p2pInFlightReqTime := some s.clock } [.requestBatches fromSeqNo]).effects =
          requestTimes s.effects ++ [s.clock] := by
        simp [System.did, requestTimes, Effect.isRequest]
      refine ⟨hinv.inFlight, ?_, ?_, ?_⟩
      · rw [htimes]
        refine hinv.spaced.append (List.isChain_singleton _) ?_
        intro t ht t' ht'
        rw [← hinv.lastRequest] at ht
        simp only [List.head?_cons, Option.mem_def, Option.some.injEq] at ht'
        subst ht'
        exact hlate t ht
      · rw [htimes]
        simp [System.did]
      · intro t ht
        rw [htimes] at ht
        rcases List.mem_append.mp ht with ht | ht
        · exact hinv.before t ht
        · simp only [List.mem_singleton] at ht
          simp [System.did, ht]
  | addFetched i batch hi hadd =>
    obtain ⟨hreq, htime, heff⟩ := Repository.addBatch_p2p hadd
    exact hinv.frame hreq htime (Int.le_refl _) (requestTimes_did heff)
  | addFetchedFails i batch hi herr => exact hinv.frame rfl rfl (Int.le_refl _) rfl
  | notifyNewValidatedHead batch hnotify =>
    obtain ⟨-, -, hreq, htime, rfl⟩ := Repository.notifyNewValidatedHead_eq_ok hnotify
    exact hinv.frame hreq htime (Int.le_refl _) (requestTimes_did (by simp [Effect.isRequest]))

/-- In every run of a host, its requests to the sequencer are at least
thirty seconds apart; and the in-flight request, which an answer would
clear, is never recorded, so the thirty seconds always run out in full. -/
theorem peerRequests_spaced {isSequencer : Bool} {db : HostDB} {clock : Int}
    (h : Reachable rlpHash lookupBatchBySeqNo isSequencer db clock s) : Spaced s := by
  induction h with
  | refl => exact Spaced.init isSequencer db clock
  | tail _ hstep ih => exact ih.step hstep

theorem peerRequests_spaced_validatorRun :
    ∃ s, Reachable (fun header => BitVec.ofNat 256 header.number) (fun _ => .error errNotFound)
      false threeBatchDb 0 s ∧ requestTimes s.effects = [0] ∧ Spaced s := by
  obtain ⟨s, hreach, -, htimes⟩ := validatorRun
  exact ⟨s, hreach, htimes, peerRequests_spaced hreach⟩

end Runs

/-! ## A validator catches up -/

section CatchUp

variable {rlpHash}

theorem rowBySequence_eq_none {db : HostDB} {i : UInt64} :
    db.rowBySequence i = none ↔ i ∉ db.batchHost.map BatchHostRow.sequence := by
  simp [HostDB.rowBySequence, List.find?_eq_none]

/-- A stored batch is what `FetchBatchBySeqNo` returns, and no goroutine
starts. -/
theorem Repository.fetchBatchBySeqNo_of_stored {r : Repository} {seqNo : Nat} {row : BatchHostRow}
    (hrow : r.db.rowBySequence (uint64 seqNo) = some row)
    (lookupBatchBySeqNo : Nat → Except Failure ExtBatch) :
    r.fetchBatchBySeqNo lookupBatchBySeqNo seqNo = (.ok row.extBatch, []) := by
  rw [Repository.fetchBatchBySeqNo, getBatchBySequenceNumber_eq_ok.mpr ⟨row, hrow, rfl⟩]

/-- The loop of `HandleBatches` runs to its end on batches that all have a
header: a refused batch ends it, and nothing panics. -/
theorem addBatches_ok : ∀ (r : Repository) (batches : List ExtBatch),
    (∀ batch ∈ batches, batch.header.isSome) →
    ∃ r' effects, r.addBatches rlpHash batches = .ok (r', effects)
  | r, [], _ => ⟨r, [], rfl⟩
  | r, batch :: rest, hheaders => by
    unfold Repository.addBatches
    cases hadd : r.addBatch rlpHash batch with
    | ok result =>
      obtain ⟨r₁, effects₁⟩ := result
      obtain ⟨r₂, effects₂, hrest⟩ := addBatches_ok r₁ rest
        (fun b hb => hheaders b (List.mem_cons_of_mem _ hb))
      exact ⟨r₂, effects₁ ++ effects₂, by simp [hrest, Except.map]⟩
    | error f =>
      rcases Repository.addBatch_eq_error hadd with ⟨msg, rfl⟩ | ⟨hnone, -⟩
      · exact ⟨r, [], rfl⟩
      · have := hheaders batch List.mem_cons_self
        rw [hnone] at this
        cases this

/-- A validator that misses a batch below its watermark gets it in one
round: its fetch starts a request to the sequencer, which goes out unless
one went out less than thirty seconds ago; the sequencer answers with the
run of batches it stores from there; and handling the answer stores the
missing batch. -/
theorem catchUp {validator sequencer : Repository} {seqNo : Nat} {row : BatchHostRow}
    {header : BatchHeader} (lookupBatchBySeqNo : Nat → Except Failure ExtBatch)
    (requesterID : String) (now : Int)
    (hvalidator : validator.isSequencer = false)
    (hmissing : validator.db.rowBySequence (uint64 seqNo) = none)
    (hbelow : seqNo < validator.latestBatchSeqNo) (hseqNo : seqNo < 2 ^ 63)
    (hnone : validator.p2pInFlightRequested = none)
    (hquiet : ∀ t, validator.p2pInFlightReqTime = some t → t + timeoutWaitingForP2PResponse ≤ now)
    (hstored : sequencer.db.rowBySequence (uint64 seqNo) = some row)
    (hheader : row.extBatch.header = some header)
    (hnumber : (uint64 header.number).toNat < 2 ^ 63)
    (hhash : hasBatchHash validator.db (header.hash rlpHash) = false) :
    validator.fetchBatchBySeqNo lookupBatchBySeqNo seqNo =
        (.error errNotFound, [.requestMissingBatchesFromPeers seqNo]) ∧
      validator.requestMissingBatchesFromPeers seqNo now true =
        ({ validator with p2pInFlightReqTime := some now }, [.requestBatches seqNo]) ∧
      ∃ batches, sequencer.handleBatchRequest requesterID seqNo = [.respond requesterID batches] ∧
        ∃ r effects, ({ validator with p2pInFlightReqTime := some now }).handleBatches rlpHash
            batches false = .ok (r, effects) ∧
          ∃ row' ∈ r.db.batchHost, row'.extBatch = row.extBatch := by
  have hlt : (uint64 ↑seqNo).toNat < 2 ^ 63 := by
    simp only [uint64, Int.natAbs_natCast, UInt64.toNat_ofNat']
    omega
  -- the validator's lookup fails with `ErrNotFound`
  have hfetch : getBatchBySequenceNumber validator.db (uint64 seqNo) = .error errNotFound := by
    rw [getBatchBySequenceNumber, if_pos hlt, hmissing]
  -- the request goes out
  have hrequest : validator.requestMissingBatchesFromPeers seqNo now true =
      ({ validator with p2pInFlightReqTime := some now }, [.requestBatches seqNo]) := by
    rcases requestMissingBatchesFromPeers_cases (r := validator) seqNo now true with
      heq | ⟨-, -, heq⟩
    · unfold Repository.requestMissingBatchesFromPeers at heq
      cases htime : validator.p2pInFlightReqTime with
      | none => simp [htime] at heq
      | some t =>
        have := hquiet t htime
        rw [htime] at heq
        simp only [show ¬ now - t < timeoutWaitingForP2PResponse by omega, ↓reduceIte] at heq
        simp at heq
    · exact heq
  -- the answer starts with the stored batch
  obtain ⟨hbound, hrun, -⟩ := batchRequestLoop_eq sequencer.db seqNo
  obtain ⟨rest, hloop⟩ : ∃ rest, batchRequestLoop sequencer.db [] seqNo = row.extBatch :: rest := by
    cases hl : batchRequestLoop sequencer.db [] seqNo with
    | nil =>
      obtain ⟨rest, hloop, -, -, hstop⟩ := batchRequestLoop_spec sequencer.db [] seqNo (by simp)
      simp only [List.nil_append] at hloop
      rw [hloop] at hl
      subst hl
      have := hstop (by simp [maxBatchesInP2PResponse])
      simp [hstored] at this
    | cons first rest =>
      obtain ⟨row₀, hrow₀, hfirst⟩ := hrun 0 (by simp [hl])
      simp only [Nat.add_zero, hstored, Option.some.injEq] at hrow₀
      subst hrow₀
      simp only [hl, List.getElem_cons_zero] at hfirst
      exact ⟨rest, by rw [hfirst]⟩
  -- every batch of the answer has a header
  have hheaders : ∀ batch ∈ row.extBatch :: rest, batch.header.isSome := by
    intro batch hmem
    rw [← hloop] at hmem
    obtain ⟨i, hi, rfl⟩ := List.getElem_of_mem hmem
    obtain ⟨row', hrow', heq⟩ := hrun i hi
    obtain ⟨hmem', -⟩ := (rowBySequence_eq_some sequencer.db).mp hrow'
    have := sequencer.db.header_sequence row' hmem'
    rw [heq]
    cases hh : row'.extBatch.header with
    | none => simp [hh] at this
    | some _ => rfl
  -- the stored batch is new to the validator
  obtain ⟨hmem, hseq⟩ := (rowBySequence_eq_some sequencer.db).mp hstored
  have hheaderSeq := sequencer.db.header_sequence row hmem
  rw [hheader, hseq] at hheaderSeq
  simp only [Option.map_some, Option.some.injEq] at hheaderSeq
  obtain ⟨db', hdb', hrows⟩ := addBatch_of_new hheader hhash
    (by rw [hheaderSeq]; exact hlt) hnumber (by rw [hheaderSeq]; exact rowBySequence_eq_none.mp hmissing)
  refine ⟨by simp [Repository.fetchBatchBySeqNo, hfetch, hbelow, hvalidator], hrequest,
    row.extBatch :: rest, by simp [Repository.handleBatchRequest, hloop], ?_⟩
  obtain ⟨r, effects, hall⟩ := @addBatches_ok rlpHash
    { validator with p2pInFlightReqTime := some now } _ hheaders
  refine ⟨r, effects, ?_, ?_⟩
  · unfold Repository.handleBatches
    rw [@clearInFlight_of_none { validator with p2pInFlightReqTime := some now } _ _ hnone,
      GoTen.Verified.Result.ok_bind]
    exact hall
  · -- the first `AddBatch` stores the batch, and the rest of the loop only adds rows
    unfold Repository.addBatches at hall
    obtain ⟨r₁, effects₁, hadd₁⟩ : ∃ r₁ effects₁, ({ validator with
        p2pInFlightReqTime := some now }).addBatch rlpHash row.extBatch = .ok (r₁, effects₁) := by
      unfold Repository.addBatch
      simp only [hheader, hdb']
      split <;> exact ⟨_, _, rfl⟩
    rw [hadd₁] at hall
    cases hrest : r₁.addBatches rlpHash rest with
    | error f => simp [hrest, Except.map] at hall
    | ok result =>
      obtain ⟨r₂, effects₂⟩ := result
      simp only [hrest, Except.map, Except.ok.injEq, Prod.mk.injEq] at hall
      obtain ⟨rfl, -⟩ := hall
      obtain ⟨pre, -, -, hdb₂, -⟩ := addBatches_eq hrest
      obtain ⟨header₁, db₁, -, hdb₁, hr₁⟩ := Repository.addBatch_eq_ok hadd₁
      have hdb₁' : r₁.db = db₁ := by
        rcases hr₁ with ⟨-, rfl, -⟩ | ⟨-, rfl, -⟩ <;> rfl
      rw [hdb₁] at hdb'
      cases hdb'
      refine ⟨rowOf rlpHash header row.extBatch, ?_, rfl⟩
      rw [hdb₂, hdb₁', hrows]
      simp

/-- A validator on batches one and three, at watermark three, gets batch two
from a sequencer on batches one to three. -/
theorem catchUp_secondBatch :
    let rlpHash := fun header : BatchHeader => BitVec.ofNat 256 header.number
    let validator : Repository := { newBatchRepository false
      ⟨"?", [rowAt 1, rowAt 3], [], by decide, by decide, by decide⟩ with latestBatchSeqNo := 3 }
    let sequencer := newBatchRepository true threeBatchDb
    validator.fetchBatchBySeqNo (fun _ => .error errNotFound) 2 =
        (.error errNotFound, [.requestMissingBatchesFromPeers 2]) ∧
      validator.requestMissingBatchesFromPeers 2 40 true =
        ({ validator with p2pInFlightReqTime := some 40 }, [.requestBatches 2]) ∧
      ∃ batches, sequencer.handleBatchRequest "peer" 2 = [.respond "peer" batches] ∧
        ∃ r effects, ({ validator with p2pInFlightReqTime := some 40 }).handleBatches rlpHash
            batches false = .ok (r, effects) ∧
          ∃ row' ∈ r.db.batchHost, row'.extBatch = (rowAt 2).extBatch := by
  intro rlpHash validator sequencer
  exact @catchUp rlpHash validator sequencer 2 (rowAt 2) (headerAt 2) (fun _ => .error errNotFound)
    "peer" 40 rfl (by decide) (by decide) (by decide) rfl (fun _ h => by cases h) (by decide) rfl
    (by decide) (by decide)

end CatchUp

end GoTen.Host.BatchRepository
