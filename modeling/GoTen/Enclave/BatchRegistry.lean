import GoTen.Enclave.Storage
import GoTen.Enclave.RollupCompression

/-!
# The batches of a new rollup (`BatchesAfter`, `CreateInternalRollup`)

The sequencer builds a rollup from the batches stored after the last one it
published. `batchRegistry.BatchesAfter` reads them by sequence number, from
the requested one up to the head batch, and stops before the first batch
whose L1 proof block is above a height bound or which the rollup limiter
refuses. The proof block of a batch is fetched, and its height checked,
only when it is not the previous batch's; the blocks so fetched go into the
rollup, where compression looks up the proof block of every batch.

The limiter's state is passed in and out (`RollupLimiter`). The sequencer's
own limiter, `rollupLimiter`, charges every batch a size against what is
left of the rollup's.

## Main results

* `batchesAfterLoop_window`: whatever the loop returns is a `Window`: the
  stored batches from its start on, each accepted, up to the first one that
  breaks the loop, with blocks below the bound holding every proof block.
* `batchesAfterLoop_ok_or_limiter`: on stored batches the loop returns, or
  fails with an error of the limiter.
* `batchesAfter_window`: on a stored chain, `BatchesAfter` returns a window
  whose sequence numbers count up from the requested one, or an error of
  the limiter, which the sequencer's limiter never returns.
* `createInternalRollup_blocks`: a rollup holds the proof block of every
  batch it carries, so compressing it does not stop on a missing block.
-/

namespace GoTen.Enclave.BatchRegistry

open GoTen.Common
open GoTen.Verified
open GoTen.Enclave.Storage

/-- `limiters.RollupLimiter`, with the limiter's state passed in and out. -/
structure RollupLimiter (σ : Type) where
  acceptBatch : σ → Batch → Except String (Bool × σ)

/-- `rollupLimiter`, whose state is the size left. `encodedSize` is the size
it charges a batch, `uint64(float64(len(rlp(txs))) * 0.85) + 1`. -/
def rollupLimiter (encodedSize : Batch → Nat) : RollupLimiter Nat where
  acceptBatch remainingSize batch :=
    if encodedSize batch > remainingSize then .ok (false, remainingSize)
    else .ok (true, remainingSize - encodedSize batch)

/-- The sequencer's limiter never fails. -/
theorem rollupLimiter_ne_error (encodedSize : Batch → Nat) (remainingSize : Nat) (batch : Batch)
    (e : String) : (rollupLimiter encodedSize).acceptBatch remainingSize batch ≠ .error e := by
  intro h
  unfold rollupLimiter at h
  dsimp only at h
  split at h <;> cases h

/-- The fetch of the loop's block check: the proof block of the batch and
the blocks appended, or `none` where the block is above the bound and the
loop breaks. -/
def fetchProofBlock (db : Db) (upToL1Height : Nat) (batch : Batch) :
    Except Failure (Option (L1Header × List L1Header)) := do
  let block ← (fetchBlock db batch.header.l1Proof).mapError
    (Failure.wrap "could not retrieve block. Cause: ")
  if block.number > upToL1Height then pure none else pure (some (block, [block]))

/-- The block check of the loop: a block that is the proof of the previous
batch is kept as it is, without a check. -/
def checkBlock (db : Db) (upToL1Height : Nat) (currentBlock : Option L1Header) (batch : Batch) :
    Except Failure (Option (L1Header × List L1Header)) :=
  match currentBlock with
  | some b =>
      if b.hash = batch.header.l1Proof then .ok (some (b, []))
      else fetchProofBlock db upToL1Height batch
  | none => fetchProofBlock db upToL1Height batch

/-- The loop of `BatchesAfter`, with `n` sequence numbers left up to the
head batch's: the batches and blocks it appends from `currentBatchSeq` on.
It breaks at a block above the bound before appending it, and at a refused
batch after appending that batch's block. -/
def batchesAfterLoop (db : Db) (upToL1Height : Nat) (rollupLimiter : RollupLimiter σ) :
    Nat → Nat → Option L1Header → σ → Except Failure (List Batch × List L1Header)
  | 0, _, _, _ => .ok ([], [])
  | n + 1, currentBatchSeq, currentBlock, l => do
      let batch ← (fetchBatchBySeqNo db currentBatchSeq).mapError
        (Failure.wrap s!"could not retrieve batch by sequence number {currentBatchSeq}. Cause: ")
      match ← checkBlock db upToL1Height currentBlock batch with
      | none => pure ([], [])
      | some (block, appended) =>
          let (didAcceptBatch, l) ← (rollupLimiter.acceptBatch l batch).mapError Failure.error
          if !didAcceptBatch then pure ([], appended)
          else
            let (batches, blocks) ←
              batchesAfterLoop db upToL1Height rollupLimiter n (currentBatchSeq + 1) (some block) l
            pure (batch :: batches, appended ++ blocks)

/-- The sanity check at the end of `BatchesAfter`, from index `i` on: some
batch's sequence number is not `current + i`. -/
def outOfSequenceFrom (current : Nat) : Nat → List Batch → Bool
  | _, [] => false
  | i, b :: bs => current + i != b.header.sequencerOrderNo || outOfSequenceFrom current (i + 1) bs

/-- The sanity check that the batches follow the first one's sequence number. -/
def outOfSequence (resultBatches : List Batch) : Bool :=
  match resultBatches with
  | [] => false
  | first :: _ => outOfSequenceFrom first.header.sequencerOrderNo 0 resultBatches

/-- `batchRegistry.BatchesAfter`. `headBatchSeq` is `HeadBatchSeq()`, nil
before the genesis batch, and `l` the limiter's state. -/
def batchesAfter (db : Db) (headBatchSeq : Option Nat) (batchSeqNo upToL1Height : Nat)
    (rollupLimiter : RollupLimiter σ) (l : σ) : Except Failure (List Batch × List L1Header) := do
  let some head := headBatchSeq | throw (.panic "invalid memory address or nil pointer dereference")
  -- sanity check
  let headBatch ← fetchBatchHeaderBySeqNo db head
  let headSeq := headBatch.sequencerOrderNo
  if headSeq < batchSeqNo then
    throw (.error s!"head batch height {headSeq} is in the past compared to requested batch {batchSeqNo}")
  let (resultBatches, resultBlocks) ← batchesAfterLoop db upToL1Height rollupLimiter
    (headSeq + 1 - batchSeqNo) batchSeqNo none l
  if outOfSequence resultBatches then
    throw (.error "created invalid rollup with batches out of sequence")
  pure (resultBatches, resultBlocks)

/-- `FetchCanonicaBlockByHeight`: the canonical block row at the height,
read again by its hash. -/
def fetchCanonicalBlockByHeight (db : Db) (height : Nat) : Except Failure L1Header :=
  match db.blocks.find? fun r => r.isCanonical && r.header.number == height with
  | some r => fetchBlock db r.header.hash
  | none => .error (.error "not found")

/-- The rollup's `blockMap`: each block under its hash, a later one
overwriting an earlier one. -/
def blockMap (blocks : List L1Header) (hash : Hash) : Option L1Header :=
  blocks.reverse.find? fun b => b.hash == hash

/-- `rollupProducerImpl.CreateInternalRollup`. -/
def createInternalRollup (db : Db) (headBatchSeq : Option Nat) (fromBatchNo upToL1Height : Nat)
    (rollupLimiter : RollupLimiter σ) (l : σ) : Except Failure Rollup := do
  let (batches, blocks) ←
    (batchesAfter db headBatchSeq fromBatchNo upToL1Height rollupLimiter l).mapError
      (Failure.wrap s!"could not fetch \x27from\x27 batch (seqNo={fromBatchNo}) for rollup: ")
  let some lastBatch := batches.getLast? | throw (.error "no batches for rollup")
  let block ← fetchCanonicalBlockByHeight db upToL1Height
  let rh : RollupHeader := ⟨block.hash, batches.flatMap (·.header.crossChainMessages), 0, [],
    BigInt.uint64 lastBatch.header.sequencerOrderNo⟩
  pure ⟨rh, batches, blockMap blocks⟩

/-! ## What the storage answers -/

/-- A block read by its hash has that hash. -/
theorem fetchBlock_hash {db : Db} {hash : Hash} {block : L1Header}
    (h : fetchBlock db hash = .ok block) : block.hash = hash := by
  unfold fetchBlock findBlock at h
  split at h
  · rename_i r hr
    cases h
    simpa using List.find?_some hr
  · cases h

/-- A batch read by its sequence number has it, when the `batch` table keys
every row by its header's sequence number. -/
theorem fetchBatchBySeqNo_seqNo {db : Db} {seq : Nat} {batch : Batch}
    (hkeyed : ∀ r ∈ db.batches, r.sequence = r.header.sequencerOrderNo)
    (h : fetchBatchBySeqNo db seq = .ok batch) : batch.header.sequencerOrderNo = seq := by
  cases hr : db.batches.find? (fun r => r.sequence == seq) with
  | none => simp [fetchBatchBySeqNo, fetchBatchHeaderBySeqNo, hr] at h
  | some r =>
      have hseq : r.sequence = seq := by simpa using List.find?_some hr
      have hbatch : batch.header = r.header := by
        simp only [fetchBatchBySeqNo, fetchBatchHeaderBySeqNo, hr, Result.ok_bind] at h
        cases h
        rfl
      rw [hbatch, ← hkeyed r (List.mem_of_find?_eq_some hr), hseq]

/-- The header read by a sequence number is that of the batch read by it. -/
theorem fetchBatchHeaderBySeqNo_of_fetchBatchBySeqNo {db : Db} {seq : Nat} {batch : Batch}
    (h : fetchBatchBySeqNo db seq = .ok batch) :
    fetchBatchHeaderBySeqNo db seq = .ok batch.header := by
  cases hh : fetchBatchHeaderBySeqNo db seq with
  | error e => simp [fetchBatchBySeqNo, hh] at h
  | ok header =>
      simp only [fetchBatchBySeqNo, hh, Result.ok_bind] at h
      cases h
      rfl

/-! ## The block check -/

section Loop

variable {db : Db} {upToL1Height : Nat} {batch : Batch} {block : L1Header}
  {appended : List L1Header}

/-- The fetch of the block check gives the proof block, below the bound,
and appends it. -/
theorem fetchProofBlock_eq_some
    (h : fetchProofBlock db upToL1Height batch = .ok (some (block, appended))) :
    fetchBlock db batch.header.l1Proof = .ok block ∧ block.number ≤ upToL1Height ∧
      appended = [block] := by
  cases hf : fetchBlock db batch.header.l1Proof with
  | error e => simp [fetchProofBlock, hf, Except.mapError] at h
  | ok b =>
      by_cases hle : b.number ≤ upToL1Height
      · have hnot : ¬ upToL1Height < b.number := by omega
        simp [fetchProofBlock, hf, Except.mapError, hnot, pure, Except.pure] at h
        obtain ⟨rfl, rfl⟩ := h
        exact ⟨rfl, hle, rfl⟩
      · have hgt : upToL1Height < b.number := by omega
        simp [fetchProofBlock, hf, Except.mapError, hgt, pure, Except.pure] at h

/-- The fetch of the block check breaks the loop only at a proof block
above the bound. -/
theorem fetchProofBlock_eq_none (h : fetchProofBlock db upToL1Height batch = .ok none) :
    ∃ block, fetchBlock db batch.header.l1Proof = .ok block ∧ upToL1Height < block.number := by
  cases hf : fetchBlock db batch.header.l1Proof with
  | error e => simp [fetchProofBlock, hf, Except.mapError] at h
  | ok b =>
      refine ⟨b, rfl, ?_⟩
      by_contra hle
      simp [fetchProofBlock, hf, Except.mapError, hle, pure, Except.pure] at h

/-- The fetch of the block check answers when the proof block is stored. -/
theorem fetchProofBlock_ok (hf : fetchBlock db batch.header.l1Proof = .ok block) :
    ∃ r, fetchProofBlock db upToL1Height batch = .ok r := by
  by_cases hgt : upToL1Height < block.number
  · exact ⟨none, by simp [fetchProofBlock, hf, Except.mapError, hgt, pure, Except.pure]⟩
  · exact ⟨some (block, [block]),
      by simp [fetchProofBlock, hf, Except.mapError, hgt, pure, Except.pure]⟩

/-- What the block check keeps: the proof block of the batch, below the
bound, either fetched and appended or the current block. -/
theorem checkBlock_eq_some {currentBlock : Option L1Header}
    (hcur : ∀ c, currentBlock = some c → c.number ≤ upToL1Height)
    (h : checkBlock db upToL1Height currentBlock batch = .ok (some (block, appended))) :
    block.hash = batch.header.l1Proof ∧ block.number ≤ upToL1Height ∧
      (appended = [block] ∨ appended = [] ∧ currentBlock = some block) := by
  have hfetched : fetchProofBlock db upToL1Height batch = .ok (some (block, appended)) →
      block.hash = batch.header.l1Proof ∧ block.number ≤ upToL1Height ∧
        (appended = [block] ∨ appended = [] ∧ currentBlock = some block) := by
    intro hp
    obtain ⟨hf, hle, happ⟩ := fetchProofBlock_eq_some hp
    exact ⟨fetchBlock_hash hf, hle, .inl happ⟩
  cases currentBlock with
  | none => exact hfetched h
  | some c =>
      by_cases hc : c.hash = batch.header.l1Proof
      · simp only [checkBlock, if_pos hc, Except.ok.injEq, Option.some.injEq,
          Prod.mk.injEq] at h
        obtain ⟨rfl, rfl⟩ := h
        exact ⟨hc, hcur _ rfl, .inr ⟨rfl, rfl⟩⟩
      · simp only [checkBlock, if_neg hc] at h
        exact hfetched h

/-- The block check breaks the loop only at a fetched proof block above the
bound. -/
theorem checkBlock_eq_none {currentBlock : Option L1Header}
    (h : checkBlock db upToL1Height currentBlock batch = .ok none) :
    ∃ block, fetchBlock db batch.header.l1Proof = .ok block ∧ upToL1Height < block.number := by
  cases currentBlock with
  | none => exact fetchProofBlock_eq_none h
  | some c =>
      by_cases hc : c.hash = batch.header.l1Proof
      · simp [checkBlock, if_pos hc] at h
      · simp only [checkBlock, if_neg hc] at h
        exact fetchProofBlock_eq_none h

/-- The block check answers when the proof block is stored. -/
theorem checkBlock_ok {currentBlock : Option L1Header}
    (hf : fetchBlock db batch.header.l1Proof = .ok block) :
    ∃ r, checkBlock db upToL1Height currentBlock batch = .ok r := by
  cases currentBlock with
  | none => exact fetchProofBlock_ok hf
  | some c =>
      by_cases hc : c.hash = batch.header.l1Proof
      · exact ⟨some (c, []), by simp only [checkBlock, if_pos hc]⟩
      · simp only [checkBlock, if_neg hc]
        exact fetchProofBlock_ok hf

/-- A block the check appends is below the bound. -/
theorem checkBlock_appended_le {currentBlock : Option L1Header}
    (hcur : ∀ c, currentBlock = some c → c.number ≤ upToL1Height)
    (h : checkBlock db upToL1Height currentBlock batch = .ok (some (block, appended))) :
    ∀ blk ∈ appended, blk.number ≤ upToL1Height := by
  obtain ⟨-, hle, happ⟩ := checkBlock_eq_some hcur h
  intro blk hblk
  rcases happ with rfl | ⟨rfl, -⟩
  · rw [List.mem_singleton.mp hblk]
    exact hle
  · exact absurd hblk List.not_mem_nil

/-! ## The window the loop returns -/

/-- The limiter's state after it accepted every batch of the list in turn,
`none` if it refused or failed on one. -/
def limiterRun (rollupLimiter : RollupLimiter σ) : σ → List Batch → Option σ
  | l, [] => some l
  | l, b :: bs =>
      match rollupLimiter.acceptBatch l b with
      | .ok (true, l') => limiterRun rollupLimiter l' bs
      | _ => none

/-- What the loop from `seq`, with `n` sequence numbers left and
`currentBlock` checked before it, returns: the batches stored from `seq` on,
each accepted by the limiter in turn; blocks, none above the bound, that
with the current block hold the proof block of each batch; and, where it
stopped short, the next batch, which has a proof block above the bound or
which the limiter refused. -/
structure Window (db : Db) (rollupLimiter : RollupLimiter σ) (l : σ) (seq n upToL1Height : Nat)
    (currentBlock : Option L1Header) (batches : List Batch) (blocks : List L1Header) : Prop where
  stored : ∀ i (hi : i < batches.length), fetchBatchBySeqNo db (seq + i) = .ok batches[i]
  length_le : batches.length ≤ n
  proofBlocks : ∀ b ∈ batches, ∃ block ∈ currentBlock.toList ++ blocks,
    block.hash = b.header.l1Proof
  heights : ∀ block ∈ blocks, block.number ≤ upToL1Height
  accepted : limiterRun rollupLimiter l batches ≠ none
  stopped : batches.length < n → ∃ b, fetchBatchBySeqNo db (seq + batches.length) = .ok b ∧
    ((∃ block, fetchBlock db b.header.l1Proof = .ok block ∧ upToL1Height < block.number) ∨
      ∃ l' l'', limiterRun rollupLimiter l batches = some l' ∧
        rollupLimiter.acceptBatch l' b = .ok (false, l''))

variable {rollupLimiter : RollupLimiter σ}

/-- One round of the loop: it breaks at the block check, or at the
limiter's refusal, or appends the batch and goes on. -/
theorem batchesAfterLoop_succ_eq_ok {n seq : Nat} {currentBlock : Option L1Header} {l : σ}
    {batches : List Batch} {blocks : List L1Header}
    (h : batchesAfterLoop db upToL1Height rollupLimiter (n + 1) seq currentBlock l =
      .ok (batches, blocks)) :
    ∃ batch, fetchBatchBySeqNo db seq = .ok batch ∧
      ((checkBlock db upToL1Height currentBlock batch = .ok none ∧ batches = [] ∧ blocks = []) ∨
        ∃ block appended l', checkBlock db upToL1Height currentBlock batch =
            .ok (some (block, appended)) ∧
          ((rollupLimiter.acceptBatch l batch = .ok (false, l') ∧ batches = [] ∧
              blocks = appended) ∨
            ∃ rest restBlocks, rollupLimiter.acceptBatch l batch = .ok (true, l') ∧
              batchesAfterLoop db upToL1Height rollupLimiter n (seq + 1) (some block) l' =
                .ok (rest, restBlocks) ∧
              batches = batch :: rest ∧ blocks = appended ++ restBlocks)) := by
  cases hf : fetchBatchBySeqNo db seq with
  | error e => simp [batchesAfterLoop, hf, Except.mapError] at h
  | ok batch =>
    refine ⟨batch, rfl, ?_⟩
    cases hc : checkBlock db upToL1Height currentBlock batch with
    | error e => simp [batchesAfterLoop, hf, hc, Except.mapError] at h
    | ok r =>
      cases r with
      | none =>
          simp [batchesAfterLoop, hf, hc, Except.mapError, pure, Except.pure] at h
          exact .inl ⟨rfl, h.1, h.2⟩
      | some p =>
        obtain ⟨block, appended⟩ := p
        cases ha : rollupLimiter.acceptBatch l batch with
        | error e => simp [batchesAfterLoop, hf, hc, ha, Except.mapError] at h
        | ok res =>
          obtain ⟨didAccept, l'⟩ := res
          refine .inr ⟨block, appended, l', rfl, ?_⟩
          cases didAccept with
          | false =>
              simp [batchesAfterLoop, hf, hc, ha, Except.mapError, pure, Except.pure] at h
              exact .inl ⟨rfl, h.1, h.2.symm⟩
          | true =>
            cases hr : batchesAfterLoop db upToL1Height rollupLimiter n (seq + 1) (some block) l' with
            | error e => simp [batchesAfterLoop, hf, hc, ha, hr, Except.mapError] at h
            | ok res' =>
                obtain ⟨rest, restBlocks⟩ := res'
                simp [batchesAfterLoop, hf, hc, ha, hr, Except.mapError, pure, Except.pure] at h
                exact .inr ⟨rest, restBlocks, rfl, rfl, h.1.symm, h.2.symm⟩

/-- A loop that appended no batch returns a window, given the reason it
stopped. -/
theorem window_nil {seq n : Nat} {currentBlock : Option L1Header} {l : σ}
    {blocks : List L1Header} (hheights : ∀ block ∈ blocks, block.number ≤ upToL1Height)
    (hstop : 0 < n → ∃ b, fetchBatchBySeqNo db seq = .ok b ∧
      ((∃ block, fetchBlock db b.header.l1Proof = .ok block ∧ upToL1Height < block.number) ∨
        ∃ l'', rollupLimiter.acceptBatch l b = .ok (false, l''))) :
    Window db rollupLimiter l seq n upToL1Height currentBlock [] blocks where
  stored i hi := absurd hi (Nat.not_lt_zero i)
  length_le := Nat.zero_le n
  proofBlocks b hb := absurd hb List.not_mem_nil
  heights := hheights
  accepted := Option.some_ne_none l
  stopped hn := by
    obtain ⟨b, hb, hwhy⟩ := hstop hn
    refine ⟨b, hb, ?_⟩
    rcases hwhy with hheight | ⟨l'', hrefused⟩
    · exact .inl hheight
    · exact .inr ⟨l, l'', rfl, hrefused⟩

/-- A batch appended in front of the window the rest of the loop returned. -/
theorem window_cons {seq n : Nat} {currentBlock : Option L1Header} {l l' : σ} {batch : Batch}
    {rest : List Batch} {restBlocks : List L1Header}
    (hcur : ∀ c, currentBlock = some c → c.number ≤ upToL1Height)
    (hf : fetchBatchBySeqNo db seq = .ok batch)
    (hc : checkBlock db upToL1Height currentBlock batch = .ok (some (block, appended)))
    (ha : rollupLimiter.acceptBatch l batch = .ok (true, l'))
    (hw : Window db rollupLimiter l' (seq + 1) n upToL1Height (some block) rest restBlocks) :
    Window db rollupLimiter l seq (n + 1) upToL1Height currentBlock (batch :: rest)
      (appended ++ restBlocks) := by
  obtain ⟨hproof, hle, happ⟩ := checkBlock_eq_some hcur hc
  -- the proof block of the batch is kept, appended or as the current block
  have hkept : block ∈ currentBlock.toList ++ (appended ++ restBlocks) := by
    rcases happ with rfl | ⟨rfl, rfl⟩
    · simp
    · simp
  have hrun : limiterRun rollupLimiter l (batch :: rest) = limiterRun rollupLimiter l' rest := by
    simp [limiterRun, ha]
  constructor
  · intro i hi
    cases i with
    | zero => simpa using hf
    | succ i =>
        have hi' : i < rest.length := by simpa using hi
        rw [show seq + (i + 1) = seq + 1 + i by omega]
        simpa using hw.stored i hi'
  · simpa using hw.length_le
  · intro b hb
    rcases List.mem_cons.mp hb with rfl | hb
    · exact ⟨block, hkept, hproof⟩
    · obtain ⟨blk, hblk, hhash⟩ := hw.proofBlocks b hb
      simp only [Option.toList_some, List.singleton_append, List.mem_cons] at hblk
      rcases hblk with rfl | hblk
      · exact ⟨blk, hkept, hhash⟩
      · exact ⟨blk, by simp [hblk], hhash⟩
  · intro blk hblk
    rcases List.mem_append.mp hblk with happended | hrest
    · exact checkBlock_appended_le hcur hc blk happended
    · exact hw.heights blk hrest
  · rw [hrun]
    exact hw.accepted
  · intro hlt
    have hlt' : rest.length < n := by simpa using hlt
    obtain ⟨b, hb, hwhy⟩ := hw.stopped hlt'
    refine ⟨b, by simpa [show seq + (rest.length + 1) = seq + 1 + rest.length by omega] using hb, ?_⟩
    rw [hrun]
    exact hwhy

/-- Whatever the loop returns is a window. The induction is on the sequence
numbers left; the current block stays below the bound. -/
theorem batchesAfterLoop_window {n seq : Nat} {currentBlock : Option L1Header} {l : σ}
    {batches : List Batch} {blocks : List L1Header}
    (hcur : ∀ c, currentBlock = some c → c.number ≤ upToL1Height)
    (h : batchesAfterLoop db upToL1Height rollupLimiter n seq currentBlock l =
      .ok (batches, blocks)) :
    Window db rollupLimiter l seq n upToL1Height currentBlock batches blocks := by
  induction n generalizing seq currentBlock l batches blocks with
  | zero =>
      cases h
      exact window_nil (by simp) (fun hn => absurd hn (Nat.lt_irrefl 0))
  | succ n ih =>
      obtain ⟨batch, hf, hstep⟩ := batchesAfterLoop_succ_eq_ok h
      rcases hstep with ⟨hc, rfl, rfl⟩ |
        ⟨block, appended, l', hc, ⟨hrefused, rfl, rfl⟩ | ⟨rest, restBlocks, ha, hrest, rfl, rfl⟩⟩
      · -- a proof block above the bound
        apply window_nil (by simp)
        intro _
        exact ⟨batch, hf, .inl (checkBlock_eq_none hc)⟩
      · -- the limiter refused the batch after its block was appended
        apply window_nil (checkBlock_appended_le hcur hc)
        intro _
        exact ⟨batch, hf, .inr ⟨l', hrefused⟩⟩
      · have hle := (checkBlock_eq_some hcur hc).2.1
        have hw := ih (fun c hc' => by cases hc'; exact hle) hrest
        exact window_cons hcur hf hc ha hw

/-- On stored batches the loop returns, or fails with an error the limiter
returned. The induction is on the sequence numbers left. -/
theorem batchesAfterLoop_ok_or_limiter {n seq : Nat} (currentBlock : Option L1Header) (l : σ)
    (hstored : ∀ i < n, ∃ batch, fetchBatchBySeqNo db (seq + i) = .ok batch ∧
      ∃ block, fetchBlock db batch.header.l1Proof = .ok block) :
    (∃ r, batchesAfterLoop db upToL1Height rollupLimiter n seq currentBlock l = .ok r) ∨
      ∃ e, batchesAfterLoop db upToL1Height rollupLimiter n seq currentBlock l = .error (.error e) ∧
        ∃ l' b, rollupLimiter.acceptBatch l' b = .error e := by
  induction n generalizing seq currentBlock l with
  | zero => exact .inl ⟨_, rfl⟩
  | succ n ih =>
      obtain ⟨batch, hf, block, hblock⟩ := hstored 0 (Nat.zero_lt_succ n)
      rw [Nat.add_zero] at hf
      have hcheck : ∃ r, checkBlock db upToL1Height currentBlock batch = .ok r :=
        checkBlock_ok hblock
      obtain ⟨r, hc⟩ := hcheck
      cases r with
      | none =>
          left
          exact ⟨([], []), by simp [batchesAfterLoop, hf, hc, Except.mapError, pure, Except.pure]⟩
      | some p =>
        obtain ⟨blk, appended⟩ := p
        cases ha : rollupLimiter.acceptBatch l batch with
        | error e =>
            right
            exact ⟨e, by simp [batchesAfterLoop, hf, hc, ha, Except.mapError], l, batch, ha⟩
        | ok res =>
          obtain ⟨didAccept, l'⟩ := res
          cases didAccept with
          | false =>
              left
              exact ⟨([], appended),
                by simp [batchesAfterLoop, hf, hc, ha, Except.mapError, pure, Except.pure]⟩
          | true =>
            have hstored' : ∀ i < n, ∃ batch, fetchBatchBySeqNo db (seq + 1 + i) = .ok batch ∧
                ∃ block, fetchBlock db batch.header.l1Proof = .ok block := by
              intro i hi
              rw [show seq + 1 + i = seq + (i + 1) by omega]
              exact hstored (i + 1) (by omega)
            rcases ih (some blk) l' hstored' with ⟨⟨rest, restBlocks⟩, hr⟩ | ⟨e, hr, hlim⟩
            · left
              exact ⟨(batch :: rest, appended ++ restBlocks),
                by simp [batchesAfterLoop, hf, hc, ha, hr, Except.mapError, pure, Except.pure]⟩
            · right
              exact ⟨e, by simp [batchesAfterLoop, hf, hc, ha, hr, Except.mapError], hlim⟩

end Loop

/-! ## `BatchesAfter` on a stored chain -/

/-- A chain of batches stored from `s` to `head`: every row of the `batch`
table is keyed by its header's sequence number, and every batch of the
range is stored with its L1 proof block. -/
structure StoredChain (db : Db) (s head : Nat) : Prop where
  keyed : ∀ r ∈ db.batches, r.sequence = r.header.sequencerOrderNo
  stored : ∀ seq, s ≤ seq → seq ≤ head →
    ∃ batch, fetchBatchBySeqNo db seq = .ok batch ∧
      ∃ block, fetchBlock db batch.header.l1Proof = .ok block

section Chain

variable {db : Db} {s head upToL1Height : Nat} {rollupLimiter : RollupLimiter σ} {l : σ}

/-- The batches of a window count up from its first sequence number. -/
theorem Window.seqNos {n : Nat} {currentBlock : Option L1Header} {batches : List Batch}
    {blocks : List L1Header}
    (hkeyed : ∀ r ∈ db.batches, r.sequence = r.header.sequencerOrderNo)
    (hw : Window db rollupLimiter l s n upToL1Height currentBlock batches blocks) :
    batches.map (·.header.sequencerOrderNo) = List.range' s batches.length := by
  apply List.ext_getElem (by simp)
  intro i h₁ h₂
  have hi : i < batches.length := by simpa using h₁
  simp only [List.getElem_map, List.getElem_range', Nat.one_mul]
  exact fetchBatchBySeqNo_seqNo hkeyed (hw.stored i hi)

/-- The sanity check passes on batches counting up from `current + i`. -/
theorem outOfSequenceFrom_eq_false {current : Nat} (bs : List Batch) :
    ∀ i, bs.map (·.header.sequencerOrderNo) = List.range' (current + i) bs.length →
      outOfSequenceFrom current i bs = false := by
  induction bs with
  | nil =>
      intro i _
      rfl
  | cons b bs ih =>
      intro i h
      rw [List.map_cons, List.length_cons, List.range'_succ, List.cons.injEq] at h
      have hnext : bs.map (·.header.sequencerOrderNo) =
          List.range' (current + (i + 1)) bs.length := by
        rw [h.2, Nat.add_assoc]
      simp [outOfSequenceFrom, h.1, ih (i + 1) hnext]

/-- The sanity check passes on batches counting up from the first one's
sequence number. -/
theorem outOfSequence_eq_false {batches : List Batch}
    (h : batches.map (·.header.sequencerOrderNo) = List.range' s batches.length) :
    outOfSequence batches = false := by
  cases batches with
  | nil => rfl
  | cons b bs =>
      have hb : b.header.sequencerOrderNo = s := by
        simp only [List.map_cons, List.length_cons, List.range'_succ, List.cons.injEq] at h
        exact h.1
      unfold outOfSequence
      apply outOfSequenceFrom_eq_false
      simpa [hb] using h

/-- The head batch of a stored chain is read back with its sequence number. -/
theorem StoredChain.headBatch (hchain : StoredChain db s head) (hs : s ≤ head) :
    ∃ headBatch, fetchBatchHeaderBySeqNo db head = .ok headBatch ∧
      headBatch.sequencerOrderNo = head := by
  obtain ⟨batch, hf, -⟩ := hchain.stored head hs (Nat.le_refl head)
  exact ⟨batch.header, fetchBatchHeaderBySeqNo_of_fetchBatchBySeqNo hf,
    fetchBatchBySeqNo_seqNo hchain.keyed hf⟩

/-- The loop of `BatchesAfter` over a stored chain reads stored batches
with stored proof blocks. -/
theorem StoredChain.loopStored (hchain : StoredChain db s head) :
    ∀ i < head + 1 - s, ∃ batch, fetchBatchBySeqNo db (s + i) = .ok batch ∧
      ∃ block, fetchBlock db batch.header.l1Proof = .ok block := by
  intro i hi
  exact hchain.stored (s + i) (by omega) (by omega)

/-- On a stored chain, `BatchesAfter` returns what the loop over the whole
range returned, a window whose sequence numbers count up. -/
theorem batchesAfter_of_loop_ok {batches : List Batch} {blocks : List L1Header}
    (hchain : StoredChain db s head) (hs : s ≤ head)
    (hloop : batchesAfterLoop db upToL1Height rollupLimiter (head + 1 - s) s none l =
      .ok (batches, blocks)) :
    batchesAfter db (some head) s upToL1Height rollupLimiter l = .ok (batches, blocks) ∧
      batches.map (·.header.sequencerOrderNo) = List.range' s batches.length ∧
      Window db rollupLimiter l s (head + 1 - s) upToL1Height none batches blocks := by
  obtain ⟨headBatch, hhead, hseq⟩ := hchain.headBatch hs
  have hw := batchesAfterLoop_window (fun c hc => by cases hc) hloop
  have hseqNos := hw.seqNos hchain.keyed
  have hnot : ¬ head < s := by omega
  refine ⟨?_, hseqNos, hw⟩
  simp [batchesAfter, hhead, hseq, hnot, hloop, outOfSequence_eq_false hseqNos, pure,
    Except.pure]

/-- On a stored chain, an error of the loop is the error of `BatchesAfter`. -/
theorem batchesAfter_of_loop_error {f : Failure}
    (hchain : StoredChain db s head) (hs : s ≤ head)
    (hloop : batchesAfterLoop db upToL1Height rollupLimiter (head + 1 - s) s none l = .error f) :
    batchesAfter db (some head) s upToL1Height rollupLimiter l = .error f := by
  obtain ⟨headBatch, hhead, hseq⟩ := hchain.headBatch hs
  have hnot : ¬ head < s := by omega
  simp [batchesAfter, hhead, hseq, hnot, hloop]

/-- On a stored chain from `s` up to the head, `BatchesAfter` from `s`
returns a window of the range whose sequence numbers are `s, s + 1, …`, or
an error that the limiter returned. -/
theorem batchesAfter_window (hchain : StoredChain db s head) (hs : s ≤ head) :
    (∃ batches blocks,
        batchesAfter db (some head) s upToL1Height rollupLimiter l = .ok (batches, blocks) ∧
        batches.map (·.header.sequencerOrderNo) = List.range' s batches.length ∧
        Window db rollupLimiter l s (head + 1 - s) upToL1Height none batches blocks) ∨
      ∃ e, batchesAfter db (some head) s upToL1Height rollupLimiter l = .error (.error e) ∧
        ∃ l' b, rollupLimiter.acceptBatch l' b = .error e := by
  have hrun : (∃ r, batchesAfterLoop db upToL1Height rollupLimiter (head + 1 - s) s none l =
      .ok r) ∨ ∃ e, batchesAfterLoop db upToL1Height rollupLimiter (head + 1 - s) s none l =
        .error (.error e) ∧ ∃ l' b, rollupLimiter.acceptBatch l' b = .error e :=
    batchesAfterLoop_ok_or_limiter none l hchain.loopStored
  rcases hrun with ⟨⟨batches, blocks⟩, hloop⟩ | ⟨e, hloop, hlim⟩
  · left
    exact ⟨batches, blocks, batchesAfter_of_loop_ok hchain hs hloop⟩
  · right
    exact ⟨e, batchesAfter_of_loop_error hchain hs hloop, hlim⟩

end Chain

/-- Two L1 blocks, at heights 5 and 7. -/
def proofBlockA : L1Header := ⟨50, 40, 5⟩
def proofBlockB : L1Header := ⟨70, 50, 7⟩

/-- The row of a batch with its sequence number as height, and an L1 proof. -/
def windowRow (seq : Nat) (l1Proof : Hash) : BatchRow :=
  ⟨seq, BitVec.ofNat 256 seq, seq, true, { heightHeader seq seq with l1Proof := l1Proof }, l1Proof⟩

/-- Batches 1 and 2 proved by the block at height 5, batch 3 by the one at
height 7. -/
def windowDb : Db :=
  ⟨[⟨proofBlockA, true⟩, ⟨proofBlockB, true⟩], [windowRow 1 50, windowRow 2 50, windowRow 3 70], []⟩

/-- The three batches, with the limiter charging each one and eight left:
the window from batch 1 below height 6 stops at batch 3, whose block is at
height 7, and holds batches 1 and 2 with the block at height 5. -/
theorem batchesAfter_windowDb :
    StoredChain windowDb 1 3 ∧ 1 ≤ 3 ∧
      batchesAfter windowDb (some 3) 1 6 (rollupLimiter fun _ => 1) 8 =
        .ok ([⟨(windowRow 1 50).header, []⟩, ⟨(windowRow 2 50).header, []⟩], [proofBlockA]) ∧
      Window windowDb (rollupLimiter fun _ => 1) 8 1 (3 + 1 - 1) 6 none
        [⟨(windowRow 1 50).header, []⟩, ⟨(windowRow 2 50).header, []⟩] [proofBlockA] := by
  have hchain : StoredChain windowDb 1 3 := by
    constructor
    · decide
    · intro seq h₁ h₂
      interval_cases seq <;> exact ⟨_, rfl, _, rfl⟩
  have hok : batchesAfter windowDb (some 3) 1 6 (rollupLimiter fun _ => 1) 8 =
      .ok ([⟨(windowRow 1 50).header, []⟩, ⟨(windowRow 2 50).header, []⟩], [proofBlockA]) := by
    decide
  rcases batchesAfter_window hchain (by decide) with ⟨batches, blocks, hres, -, hw⟩ |
    ⟨e, -, l', b, hlim⟩
  · rw [hok] at hres
    cases hres
    exact ⟨hchain, by decide, hok, hw⟩
  · exact absurd hlim (rollupLimiter_ne_error _ l' b e)

/-! ## The rollup -/

/-- A block of the list is in the block map under its hash, as a block of
the list with that hash. -/
theorem blockMap_of_mem {blocks : List L1Header} {block : L1Header} (h : block ∈ blocks) :
    ∃ b ∈ blocks, blockMap blocks block.hash = some b ∧ b.hash = block.hash := by
  have hsome : (blocks.reverse.find? fun b => b.hash == block.hash).isSome := by
    rw [List.find?_isSome]
    exact ⟨block, List.mem_reverse.mpr h, by simp⟩
  obtain ⟨b, hb⟩ := Option.isSome_iff_exists.mp hsome
  exact ⟨b, List.mem_reverse.mp (List.mem_of_find?_eq_some hb), hb,
    by simpa using List.find?_some hb⟩

section Rollup

variable {db : Db} {s upToL1Height : Nat} {rollupLimiter : RollupLimiter σ} {l : σ}

/-- `BatchesAfter` returns only what its loop from the requested batch
returned. -/
theorem batchesAfter_eq_ok {headBatchSeq : Option Nat} {batches : List Batch}
    {blocks : List L1Header}
    (h : batchesAfter db headBatchSeq s upToL1Height rollupLimiter l = .ok (batches, blocks)) :
    ∃ n, batchesAfterLoop db upToL1Height rollupLimiter n s none l = .ok (batches, blocks) := by
  cases headBatchSeq with
  | none => simp [batchesAfter] at h
  | some head =>
    cases hh : fetchBatchHeaderBySeqNo db head with
    | error e => simp [batchesAfter, hh] at h
    | ok headBatch =>
      by_cases hlt : headBatch.sequencerOrderNo < s
      · simp [batchesAfter, hh, hlt] at h
      · cases hloop : batchesAfterLoop db upToL1Height rollupLimiter
            (headBatch.sequencerOrderNo + 1 - s) s none l with
        | error e => simp [batchesAfter, hh, hlt, hloop] at h
        | ok r =>
          refine ⟨_, hloop.trans ?_⟩
          by_cases hout : outOfSequence r.1
          · simp [batchesAfter, hh, hlt, hloop, hout] at h
          · simpa [batchesAfter, hh, hlt, hloop, hout, pure, Except.pure] using h

/-- A rollup created from the registry holds, under its hash, the L1 proof
block of every batch it carries, below the height bound; so compressing it
does not stop on a missing block. -/
theorem createInternalRollup_blocks {headBatchSeq : Option Nat} {rollup : Rollup}
    (h : createInternalRollup db headBatchSeq s upToL1Height rollupLimiter l = .ok rollup) :
    (∀ b ∈ rollup.batches, ∃ block, rollup.blocks b.header.l1Proof = some block ∧
      block.number ≤ upToL1Height) ∧
    ∀ reorgMap i prev prevL1Height, ∃ out, RollupCompression.compressBatches reorgMap
      rollup.blocks rollup.batches i prev prevL1Height = .ok out := by
  cases hb : batchesAfter db headBatchSeq s upToL1Height rollupLimiter l with
  | error e => simp [createInternalRollup, hb, Except.mapError] at h
  | ok res =>
    obtain ⟨batches, blocks⟩ := res
    -- the rollup carries what `BatchesAfter` returned
    have hrollup : rollup.batches = batches ∧ rollup.blocks = blockMap blocks := by
      cases hlast : batches.getLast? with
      | none => simp [createInternalRollup, hb, hlast, Except.mapError] at h
      | some last =>
        cases hc : fetchCanonicalBlockByHeight db upToL1Height with
        | error e => simp [createInternalRollup, hb, hlast, hc, Except.mapError] at h
        | ok block =>
            simp [createInternalRollup, hb, hlast, hc, Except.mapError, pure, Except.pure] at h
            rw [← h]
            exact ⟨rfl, rfl⟩
    obtain ⟨n, hloop⟩ := batchesAfter_eq_ok hb
    have hw := batchesAfterLoop_window (fun c hc => by cases hc) hloop
    have hproofs : ∀ b ∈ rollup.batches, ∃ block, rollup.blocks b.header.l1Proof = some block ∧
        block.number ≤ upToL1Height := by
      intro b hbm
      rw [hrollup.1] at hbm
      obtain ⟨blk, hblk, hhash⟩ := hw.proofBlocks b hbm
      have hblk' : blk ∈ blocks := by simpa using hblk
      obtain ⟨found, hfound, hmap, -⟩ := blockMap_of_mem hblk'
      refine ⟨found, ?_, hw.heights found hfound⟩
      rw [hrollup.2, ← hhash, hmap]
    refine ⟨hproofs, ?_⟩
    intro reorgMap i prev prevL1Height
    apply RollupCompression.compressBatches_ok
    intro b hbm
    obtain ⟨block, hblock, -⟩ := hproofs b hbm
    exact ⟨block, hblock⟩

end Rollup

/-- The rollup of batches 1 and 2 up to height 5 carries their block and
compresses from any start. -/
theorem createInternalRollup_blocks_windowDb :
    ∃ rollup, createInternalRollup windowDb (some 3) 1 5 (rollupLimiter fun _ => 1) 8 = .ok rollup ∧
      (∀ b ∈ rollup.batches, ∃ block, rollup.blocks b.header.l1Proof = some block ∧
        block.number ≤ 5) ∧
      ∀ reorgMap i prev prevL1Height, ∃ out, RollupCompression.compressBatches reorgMap
        rollup.blocks rollup.batches i prev prevL1Height = .ok out := by
  obtain ⟨rollup, hrollup⟩ : ∃ rollup,
      createInternalRollup windowDb (some 3) 1 5 (rollupLimiter fun _ => 1) 8 = .ok rollup :=
    ⟨_, rfl⟩
  exact ⟨rollup, hrollup, createInternalRollup_blocks hrollup⟩

end GoTen.Enclave.BatchRegistry
