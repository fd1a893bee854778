import GoTen.Common.Types
import GoTen.Verified.BigInt
import GoTen.Verified.Chain
import GoTen.Verified.Radix
import GoTen.Verified.Result

/-!
# Rollup header compression (`components/rollup_compression.go`)

A rollup carries the transactions of its batches and a `CalldataRollupHeader`
from which a validator rebuilds everything else of the batch headers:

* sequence numbers are implicit: the first one is stored, the others follow;
* heights are implicit too, but only canonical batches advance the counter,
  starting at the height of the first canonical batch;
* times are stored as `int64` deltas of the previous time, and L1 proofs as
  `int64` deltas of the previous proof's height, resolved against the L1
  chain by walking parents down from the block the rollup was compressed at;
* a re-orged batch keeps its whole RLP-encoded header.

`createRollupHeader` writes the header from the batches and
`createIncompleteBatches` reads it back into `batchFromRollup` records.
Storage, RLP and the trie hash are the fields of `RollupCompression`.

## Main results

* `calcL1AncestorsOfHeight_spec`: the parent walk finds every ancestor of
  the compression block from the lowest proof height up.
* `createIncompleteBatches_createRollupHeader`: for a rollup whose numbers
  fit an `int64`, decompression gives back every batch's sequence number,
  time, L1 proof and transactions, and its height or its header.
-/

namespace GoTen.Enclave.RollupCompression

set_option linter.dupNamespace false

open GoTen.Common
open GoTen.Verified
open GoTen.Verified.BigInt

/-- The collaborators of `RollupCompression` that compression uses. -/
structure RollupCompression where
  /-- `storage.FetchNonCanonicalBatchesBetween`, by sequence numbers. -/
  fetchNonCanonicalBatchesBetween : UInt64 → UInt64 → Except Failure (List BatchHeader)
  /-- `storage.FetchBlock`. -/
  fetchBlock : Hash → Option L1Header
  /-- `rlp.EncodeToBytes` and `rlp.DecodeBytes` of a batch header. -/
  rlpEncodeHeader : BatchHeader → List UInt8
  rlpDecodeHeader : List UInt8 → Except String BatchHeader
  /-- `types.DeriveSha` of transactions and `types.EmptyRootHash`. -/
  deriveShaTxs : List Tx → Hash
  emptyRootHash : Hash

/-- `batchFromRollup`: a batch as far as the rollup determines it. -/
structure BatchFromRollup where
  transactions : List Tx
  seqNo : Int
  height : Int
  txHash : Hash
  time : UInt64
  l1Proof : Hash
  coinbase : Address
  baseFee : Nat
  gasLimit : UInt64
  header : Option BatchHeader
  deriving DecidableEq, Repr

variable (rc : RollupCompression)

/-! ## Compression -/

/-- The loop of `createRollupHeader` from batch `i` on: the header kept for a
re-orged batch, the time delta to the previous batch, and the L1 height (for
the first batch) or its delta to the previous batch's. A proof block missing
from the rollup's blocks is a nil pointer. -/
def compressBatches (reorgMap : UInt64 → Bool) (blocks : Hash → Option L1Header) :
    List Batch → Nat → UInt64 → Int →
      Except Failure (List (Option BatchHeader) × List Int × List Int)
  | [], _, _, _ => .ok ([], [], [])
  | batch :: batches, i, prev, prevL1Height => do
      let reorg := if reorgMap (uint64 batch.header.sequencerOrderNo) then some batch.header
        else none
      let deltaTime : Int := (batch.header.time - prev).toInt64.toInt
      let some block := blocks batch.header.l1Proof
        | throw (.panic "invalid memory address or nil pointer dereference")
      let l1HeightDelta : Int := if i = 0 then block.number
        else (int64 block.number - int64 prevL1Height).toInt
      let (reorgs, deltaTimes, l1HeightDeltas) ←
        compressBatches reorgMap blocks batches (i + 1) batch.header.time block.number
      return (reorg :: reorgs, deltaTime :: deltaTimes, l1HeightDelta :: l1HeightDeltas)

/-- `transformToByteArray`: the RLP of each kept header, empty for the others. -/
def transformToByteArray (reorgs : List (Option BatchHeader)) : List (List UInt8) :=
  reorgs.map fun
    | some reorg => rc.rlpEncodeHeader reorg
    | none => []

/-- The first batch without a kept header. -/
def findFirstCanon : List (Batch × Option BatchHeader) → Option Batch
  | [] => none
  | (batch, none) :: _ => some batch
  | (_, some _) :: rest => findFirstCanon rest

/-- The `reorgMap` of `createRollupHeader`: the sequence numbers of the
non-canonical batches. -/
def reorgMapOf (reorgedBatches : List BatchHeader) (seqNo : UInt64) : Bool :=
  reorgedBatches.any fun batch => uint64 batch.sequencerOrderNo == seqNo

/-- `RollupCompression.createRollupHeader`. -/
def createRollupHeader (rollup : Rollup) : Except Failure CalldataRollupHeader := do
  let batches := rollup.batches
  let some first := batches.head? | throw (.panic "index out of range [0] with length 0")
  let some last := batches.getLast? | throw (.panic "index out of range [-1]")
  let startTime := first.header.time
  let reorgedBatches ← rc.fetchNonCanonicalBatchesBetween (uint64 first.header.sequencerOrderNo)
    (uint64 last.header.sequencerOrderNo)
  let (reorgs, deltaTimes, l1HeightDeltas) ←
    compressBatches (reorgMapOf reorgedBatches) rollup.blocks batches 0 startTime 0
  let reorgsBA := if reorgedBatches.length = 0 then [] else transformToByteArray rc reorgs
  let firstCanon := (findFirstCanon (batches.zip reorgs)).getD first
  return { firstBatchSequence := first.header.sequencerOrderNo
           firstCanonBatchHeight := firstCanon.header.number
           firstCanonParentHash := firstCanon.header.parentHash
           startTime := startTime
           batchTimeDeltas := deltaTimes.map gobEncode
           reOrgs := reorgsBA
           l1HeightDeltas := l1HeightDeltas.map gobEncode
           coinbase := first.header.coinbase
           baseFee := first.header.baseFee
           gasLimit := first.header.gasLimit }

/-! ## Decompression -/

/-- The loop of `calculateL1HeightsFromDeltas` from batch `idx` on: every
delta after the first is added to the previous height, and a negative
result stops the enclave. -/
def l1HeightsLoop (deltas : List (List UInt8)) :
    List (List Tx) → Nat → UInt64 → Except Failure (List UInt64)
  | [], _, _ => .ok []
  | _ :: rest, idx, prevHeight =>
      if idx > 0 then do
        let some bytes := deltas[idx]? | throw (.panic "index out of range")
        let l1Delta ← (gobDecode bytes).mapError Failure.error
        let value := int64 l1Delta + prevHeight.toInt64
        Result.check (decide (value < 0)) (.crit "Should not have a negative height")
        let heights ← l1HeightsLoop deltas rest (idx + 1) value.toUInt64
        return value.toUInt64 :: heights
      else l1HeightsLoop deltas rest (idx + 1) prevHeight

/-- `calculateL1HeightsFromDeltas`: the first delta is the height itself. -/
def calculateL1HeightsFromDeltas (header : CalldataRollupHeader)
    (transactionsPerBatch : List (List Tx)) : Except Failure (List UInt64) := do
  let some firstDelta := header.l1HeightDeltas[0]?
    | throw (.panic "index out of range [0] with length 0")
  let referenceHeight ← (gobDecode firstDelta).mapError Failure.error
  let heights ← l1HeightsLoop header.l1HeightDeltas transactionsPerBatch 0
    (uint64 referenceHeight)
  return uint64 referenceHeight :: heights

/-- `calcL1AncestorsOfHeight`: record `toBlock` at its height and walk to its
parent until the height `fromHeight`. The source recursion is unbounded; it
is given one step per height of `toBlock` and one more, which is how many it
takes on a chain whose parents are one lower. -/
def calcL1AncestorsOfHeight (fromHeight : Int) :
    Nat → L1Header → (UInt64 → Option L1Header) → Except Failure (UInt64 → Option L1Header)
  | 0, _, _ => throw (.error "walk to the ancestor height did not terminate")
  | fuel + 1, toBlock, path =>
      let path := Function.update path (uint64 toBlock.number) (some toBlock)
      if uint64 toBlock.number = uint64 fromHeight then .ok path
      else match rc.fetchBlock toBlock.parentHash with
        | none => throw (.error "not found")
        | some p => calcL1AncestorsOfHeight fromHeight fuel p path

/-- The re-org handling of `createIncompleteBatches` for one batch: its
header when the rollup has re-orgs and a non-empty entry for the batch. -/
def fullReorgedHeaderAt (header : CalldataRollupHeader) (currentBatchIdx : Nat) :
    Except Failure (Option BatchHeader) :=
  if header.reOrgs.length > 0 then
    match header.reOrgs[currentBatchIdx]? with
    | none => throw (.panic "index out of range")
    | some encHeader =>
        if encHeader.length > 0 then
          some <$> (rc.rlpDecodeHeader encHeader).mapError Failure.error
        else pure none
  else pure none

/-- The loop of `createIncompleteBatches` from batch `currentBatchIdx` on. -/
def incompleteBatchesLoop (header : CalldataRollupHeader) (l1Heights : List UInt64)
    (l1BlocksAtHeight : UInt64 → Option L1Header) (startAtSeq : Int64) :
    List (List Tx) → Nat → Int64 → Int64 → Except Failure (List BatchFromRollup)
  | [], _, _, _ => .ok []
  | batchTransactions :: rest, currentBatchIdx, currentHeight, currentTime => do
      let some l1Height := l1Heights[currentBatchIdx]? | throw (.panic "index out of range")
      let some block := l1BlocksAtHeight l1Height
        | throw (.error "programming error. L1 block not retrieved")
      let some timeBytes := header.batchTimeDeltas[currentBatchIdx]?
        | throw (.panic "index out of range")
      let timeDelta ← (gobDecode timeBytes).mapError Failure.error
      let currentTime := currentTime + int64 timeDelta
      let currentSeqNo : Int := (startAtSeq + Int64.ofNat currentBatchIdx).toInt
      let fullReorgedHeader ← fullReorgedHeaderAt rc header currentBatchIdx
      let currentHeight := if fullReorgedHeader.isNone then currentHeight + 1 else currentHeight
      let txHash := if batchTransactions = [] then rc.emptyRootHash
        else rc.deriveShaTxs batchTransactions
      let batch : BatchFromRollup :=
        { transactions := batchTransactions
          seqNo := currentSeqNo
          height := currentHeight.toInt
          txHash := txHash
          time := currentTime.toUInt64
          l1Proof := block.hash
          header := fullReorgedHeader
          coinbase := header.coinbase
          baseFee := header.baseFee
          gasLimit := header.gasLimit }
      let batches ← incompleteBatchesLoop header l1Heights l1BlocksAtHeight startAtSeq rest
        (currentBatchIdx + 1) currentHeight currentTime
      return batch :: batches

/-- `RollupCompression.createIncompleteBatches`. -/
def createIncompleteBatches (header : CalldataRollupHeader)
    (transactionsPerBatch : List (List Tx)) (compressionL1Head : Hash) :
    Except Failure (List BatchFromRollup) := do
  let startAtSeq := int64 header.firstBatchSequence
  let currentHeight := int64 header.firstCanonBatchHeight - 1
  let currentTime := header.startTime.toInt64
  let some rollupL1Block := rc.fetchBlock compressionL1Head
    | throw (.error "can't find the block used for compression")
  let l1Heights ← calculateL1HeightsFromDeltas header transactionsPerBatch
  let some minHeight := l1Heights.min? | throw (.panic "slices.Min: empty list")
  let l1BlocksAtHeight ← calcL1AncestorsOfHeight rc minHeight.toInt64.toInt
    (rollupL1Block.number + 1) rollupL1Block (fun _ => none)
  incompleteBatchesLoop rc header l1Heights l1BlocksAtHeight startAtSeq transactionsPerBatch 0
    currentHeight currentTime

/-! ## The parent walk -/

section Walk

variable {rc}

/-- The walk from a stored block down to the height `m` of one of its
ancestors records every ancestor from height `m` up at its height, and
leaves the heights above the block as they were. -/
theorem calcL1AncestorsOfHeight_spec
    (hn : Chain.Numbered rc.fetchBlock L1Header.parentHash L1Header.number)
    {fromHeight : Int} {m : Nat} (hm : uint64 fromHeight = uint64 m) (a0 : L1Header) :
    ∀ (fuel : Nat) {k : Hash} {toBlock : L1Header} (path : UInt64 → Option L1Header),
      rc.fetchBlock k = some toBlock → toBlock.number < 2 ^ 64 → toBlock.number < m + fuel →
      Chain.AncestorOrSelf rc.fetchBlock L1Header.parentHash a0 toBlock → a0.number = m →
      ∃ path', calcL1AncestorsOfHeight rc fromHeight fuel toBlock path = .ok path' ∧
        (∀ a, Chain.AncestorOrSelf rc.fetchBlock L1Header.parentHash a toBlock → m ≤ a.number →
          path' (uint64 a.number) = some a) ∧
        (∀ u : UInt64, toBlock.number < u.toNat → path' u = path u)
  | 0, k, toBlock, path, hk, _, hfuel, ha0, hm0 => by
      have := ha0.number_le hn hk
      omega
  | fuel + 1, k, toBlock, path, hk, hlt, hfuel, ha0, hm0 => by
      have hle : m ≤ toBlock.number := hm0 ▸ ha0.number_le hn hk
      have hne : ∀ u : UInt64, toBlock.number < u.toNat → u ≠ uint64 toBlock.number := by
        rintro u hu rfl
        rw [toNat_uint64_natCast hlt] at hu
        omega
      by_cases hstop : toBlock.number = m
      · refine ⟨Function.update path (uint64 toBlock.number) (some toBlock), ?_, ?_, ?_⟩
        · simp only [calcL1AncestorsOfHeight, hm, hstop, if_true]
        · intro a ha ham
          have hnum : a.number = toBlock.number := le_antisymm (ha.number_le hn hk) (hstop ▸ ham)
          rw [ha.eq_of_number_eq hn hk hnum, Function.update_self]
        · intro u hu
          exact Function.update_of_ne (hne u hu) _ _
      · have hcont : uint64 toBlock.number ≠ uint64 fromHeight := by
          rw [hm, Ne, uint64_natCast_inj hlt (by omega)]
          exact hstop
        rcases ha0.cases_parent with rfl | ⟨p, hp, ha0p⟩
        · exact absurd hm0 hstop
        have hpn := hn _ _ _ hk hp
        obtain ⟨path', hcall, hanc, hframe⟩ := calcL1AncestorsOfHeight_spec hn hm a0 fuel
          (Function.update path (uint64 toBlock.number) (some toBlock)) hp (by omega) (by omega)
          ha0p hm0
        refine ⟨path', ?_, ?_, ?_⟩
        · simp only [calcL1AncestorsOfHeight, hcont, if_false, hp]
          exact hcall
        · intro a ha ham
          rcases ha.cases_parent with rfl | ⟨p', hp', hap⟩
          · rw [hframe _ (by rw [toNat_uint64_natCast hlt]; omega), Function.update_self]
          · rw [hp] at hp'
            cases hp'
            exact hanc a hap ham
        · intro u hu
          rw [hframe u (by omega)]
          exact Function.update_of_ne (hne u hu) _ _

end Walk

/-! ## Decompressing what was compressed -/

section RoundTrip

variable {rc}

/-- What decompression recovers of a batch: its sequence number, time, L1
proof and transactions, the coinbase, base fee and gas limit the batches
share, and its whole header if it was re-orged or else its height. -/
structure Recovers (reorged : Bool) (batch : Batch) (ib : BatchFromRollup) : Prop where
  seqNo : ib.seqNo = batch.header.sequencerOrderNo
  time : ib.time = batch.header.time
  l1Proof : ib.l1Proof = batch.header.l1Proof
  transactions : ib.transactions = batch.transactions
  coinbase : ib.coinbase = batch.header.coinbase
  baseFee : ib.baseFee = batch.header.baseFee
  gasLimit : ib.gasLimit = batch.header.gasLimit
  header : ib.header = if reorged then some batch.header else none
  height : reorged = false → ib.height = batch.header.number

/-- The height of a batch's proof block among the rollup's blocks. -/
def proofHeight (blocks : Hash → Option L1Header) (batch : Batch) : Nat :=
  ((blocks batch.header.l1Proof).map L1Header.number).getD 0

/-- One step of the compression loop. -/
theorem compressBatches_cons {reorgMap : UInt64 → Bool} {blocks : Hash → Option L1Header}
    {batch : Batch} {batches : List Batch} {i : Nat} {prev : UInt64} {prevL1Height : Int}
    {out : List (Option BatchHeader) × List Int × List Int}
    (h : compressBatches reorgMap blocks (batch :: batches) i prev prevL1Height = .ok out) :
    ∃ block rest, blocks batch.header.l1Proof = some block ∧
      compressBatches reorgMap blocks batches (i + 1) batch.header.time block.number = .ok rest ∧
      out = ((if reorgMap (uint64 batch.header.sequencerOrderNo) then some batch.header else none)
          :: rest.1,
        (batch.header.time - prev).toInt64.toInt :: rest.2.1,
        (if i = 0 then (block.number : Int) else (int64 block.number - int64 prevL1Height).toInt)
          :: rest.2.2) := by
  unfold compressBatches at h
  cases hblock : blocks batch.header.l1Proof with
  | none => simp [hblock] at h
  | some block =>
      simp only [hblock, Result.bind_eq_ok] at h
      obtain ⟨rest, hrest, hout⟩ := h
      exact ⟨block, rest, rfl, hrest, (Result.pure_eq_ok.mp hout).symm⟩

/-- The heights loop adds each delta after the first to the previous height
and so recovers the proof heights, none of them negative. -/
theorem l1HeightsLoop_compressBatches {reorgMap : UInt64 → Bool}
    {blocks : Hash → Option L1Header} {deltas : List (List UInt8)} :
    ∀ {batches : List Batch} {i : Nat} {prev : UInt64} {p : Nat}
      {out : List (Option BatchHeader) × List Int × List Int},
      compressBatches reorgMap blocks batches i prev p = .ok out → 0 < i → p < 2 ^ 63 →
      (∀ b ∈ batches, proofHeight blocks b < 2 ^ 63) →
      (∀ j, deltas[i + j]? = (out.2.2.map gobEncode)[j]?) →
      l1HeightsLoop deltas (batches.map Batch.transactions) i (UInt64.ofNat p) =
        .ok (batches.map fun b => UInt64.ofNat (proofHeight blocks b))
  | [], _, _, _, _, _, _, _, _, _ => rfl
  | batch :: batches, i, prev, p, out, h, hi, hp, hbound, hdeltas => by
      obtain ⟨block, rest, hblock, hrest, rfl⟩ := compressBatches_cons h
      have hn : block.number < 2 ^ 63 := by
        simpa [proofHeight, hblock] using hbound batch List.mem_cons_self
      have hbytes : deltas[i]? = some (gobEncode (int64 block.number - int64 p).toInt) := by
        simpa [Nat.pos_iff_ne_zero.mp hi] using hdeltas 0
      have hvalue : int64 (int64 block.number - int64 p).toInt + (UInt64.ofNat p).toInt64 =
          int64 block.number := by
        rw [int64_toInt, toInt64_uint64_ofNat]
        exact Int64.sub_add_cancel _ _
      have hloop := l1HeightsLoop_compressBatches hrest (Nat.succ_pos i) hn
        (fun b hb => hbound b (List.mem_cons_of_mem _ hb))
        (Radix.window_tail hdeltas)
      simp only [List.map_cons, l1HeightsLoop, if_pos hi, hbytes, gobDecode_gobEncode,
        Except.mapError]
      have hheight : proofHeight blocks batch = block.number := by simp [proofHeight, hblock]
      rw [Result.bind_of_eq_ok rfl]
      simp only [hvalue, decide_eq_false (int64_natCast_nonneg hn),
        Result.bind_of_eq_ok (Result.check_false _), toUInt64_int64_natCast,
        Result.bind_of_eq_ok hloop, hheight]
      rfl

/-- The main loop of decompression, run over the batches compressed from
batch `i` on, recovers each of them. The time is carried as the previous
batch's time and the height as the next canonical height `H`. -/
theorem incompleteBatchesLoop_compressBatches {reorgMap : UInt64 → Bool}
    {blocks : Hash → Option L1Header} {header : CalldataRollupHeader} {l1Heights : List UInt64}
    {l1BlocksAtHeight : UInt64 → Option L1Header} {s : Nat} :
    ∀ {batches : List Batch} {i : Nat} {prev : UInt64} {prevL1Height : Int}
      {out : List (Option BatchHeader) × List Int × List Int} {heights : List UInt64}
      {currentHeight currentTime : Int64} {H n : Nat},
      compressBatches reorgMap blocks batches i prev prevL1Height = .ok out →
      (∀ j, header.batchTimeDeltas[i + j]? = (out.2.1.map gobEncode)[j]?) →
      (∀ j (hj : j < out.1.length), fullReorgedHeaderAt rc header (i + j) = .ok out.1[j]) →
      (∀ j, l1Heights[i + j]? = heights[j]?) →
      List.Forall₂ (fun b h => ∃ block, l1BlocksAtHeight h = some block ∧
        block.hash = b.header.l1Proof) batches heights →
      currentTime.toUInt64 = prev →
      currentHeight = int64 H - 1 →
      (batches.filter fun b => !reorgMap (uint64 b.header.sequencerOrderNo)).map
        (fun b => b.header.number) = List.range' H n →
      batches.map (fun b => b.header.sequencerOrderNo) = List.range' (s + i) batches.length →
      (∀ b ∈ batches, b.header.sequencerOrderNo < 2 ^ 63 ∧ b.header.number < 2 ^ 63 ∧
        b.header.coinbase = header.coinbase ∧ b.header.baseFee = header.baseFee ∧
        b.header.gasLimit = header.gasLimit) →
      ∃ ibs, incompleteBatchesLoop rc header l1Heights l1BlocksAtHeight (int64 s)
          (batches.map Batch.transactions) i currentHeight currentTime = .ok ibs ∧
        List.Forall₂ (fun b ib => Recovers (reorgMap (uint64 b.header.sequencerOrderNo)) b ib)
          batches ibs
  | [], _, _, _, _, _, _, _, _, _, _, _, _, _, _, _, _, _, _, _ => ⟨[], rfl, .nil⟩
  | batch :: batches, i, prev, prevL1Height, out, heights, currentHeight, currentTime, H, n,
      h, htime, hreorg, hl1Heights, hblocks, hcurrentTime, hcurrentHeight, hcanon, hseq,
      hbatch => by
      obtain ⟨block, rest, -, hrest, rfl⟩ := compressBatches_cons h
      obtain ⟨height, heights', ⟨blk, hblk, hhash⟩, hblocks', rfl⟩ :
          ∃ height heights', (∃ block, l1BlocksAtHeight height = some block ∧
            block.hash = batch.header.l1Proof) ∧ List.Forall₂ _ batches heights' ∧
            heights = height :: heights' := by
        cases hblocks with
        | cons hb hbs => exact ⟨_, _, hb, hbs, rfl⟩
      have hheight : l1Heights[i]? = some height := by simpa using hl1Heights 0
      have htimeBytes : header.batchTimeDeltas[i]? =
          some (gobEncode (batch.header.time - prev).toInt64.toInt) := by simpa using htime 0
      have hreorg0 := hreorg 0 (by simp)
      simp only [Nat.add_zero, List.getElem_cons_zero] at hreorg0
      simp only [List.map_cons, incompleteBatchesLoop, hheight, hblk, htimeBytes,
        gobDecode_gobEncode, Except.mapError, Result.bind_of_eq_ok hreorg0]
      rw [Result.bind_of_eq_ok rfl]
      simp only [int64_toInt]
      obtain ⟨hseqb, hnumb, hcoinbase, hbaseFee, hgasLimit⟩ := hbatch batch List.mem_cons_self
      simp only [List.map_cons, List.length_cons, List.range'_succ, List.cons.injEq] at hseq
      have hseqNo : (int64 s + Int64.ofNat i).toInt = batch.header.sequencerOrderNo := by
        rw [← int64_natCast, ← int64_add, hseq.1]
        exact_mod_cast int64_toInt_of_lt (by omega) (by omega)
      have htime' : (currentTime + (batch.header.time - prev).toInt64).toUInt64 =
          batch.header.time := by
        rw [Int64.toUInt64_add, hcurrentTime, UInt64.toUInt64_toInt64]
        grind
      have ih := @incompleteBatchesLoop_compressBatches reorgMap blocks header l1Heights
        l1BlocksAtHeight s batches (i + 1) batch.header.time block.number rest heights'
      have hrest_time : ∀ j, header.batchTimeDeltas[i + 1 + j]? = (rest.2.1.map gobEncode)[j]? :=
        Radix.window_tail htime
      have hrest_reorg : ∀ j (hj : j < rest.1.length),
          fullReorgedHeaderAt rc header (i + 1 + j) = .ok rest.1[j] :=
        fun j hj => by
          have hj' := hreorg (j + 1) (by simpa using hj)
          simp only [List.getElem_cons_succ] at hj'
          rwa [Nat.add_assoc, Nat.add_comm 1 j]
      have hrest_heights : ∀ j, l1Heights[i + 1 + j]? = heights'[j]? :=
        Radix.window_tail hl1Heights
      have hrest_seq : batches.map (fun b => b.header.sequencerOrderNo) =
          List.range' (s + (i + 1)) batches.length := by
        rw [hseq.2, Nat.add_assoc]
      have hrest_batch := fun b hb => hbatch b (List.mem_cons_of_mem batch hb)
      cases hr : reorgMap (uint64 batch.header.sequencerOrderNo) with
      | true =>
          simp only [hr, List.filter_cons, Bool.not_true, Bool.false_eq_true, if_false] at hcanon
          obtain ⟨ibs, hloop, hall⟩ := ih hrest hrest_time hrest_reorg hrest_heights hblocks'
            htime' hcurrentHeight hcanon hrest_seq hrest_batch
          simp only [if_true, Option.isNone_some, Bool.false_eq_true, if_false]
          refine ⟨_ :: ibs, by rw [Result.bind_of_eq_ok hloop]; rfl, .cons ?_ hall⟩
          exact ⟨hseqNo, htime', hhash, rfl, hcoinbase.symm, hbaseFee.symm, hgasLimit.symm,
            by simp [hr], by simp [hr]⟩
      | false =>
          simp only [hr, List.filter_cons, Bool.not_false, if_true, List.map_cons] at hcanon
          obtain ⟨n', rfl⟩ : ∃ n', n = n' + 1 := by
            cases n with
            | zero => simp at hcanon
            | succ n' => exact ⟨n', rfl⟩
          simp only [List.range'_succ, List.cons.injEq] at hcanon
          have hnext : currentHeight + 1 = int64 ↑(H + 1) - 1 := by
            rw [hcurrentHeight, Nat.cast_add, Nat.cast_one, int64_add, show int64 1 = 1 from rfl]
            grind
          obtain ⟨ibs, hloop, hall⟩ := ih hrest hrest_time hrest_reorg hrest_heights hblocks'
            htime' hnext hcanon.2 hrest_seq hrest_batch
          simp only [Bool.false_eq_true, if_false, Option.isNone_none, if_true]
          refine ⟨_ :: ibs, by rw [Result.bind_of_eq_ok hloop]; rfl, .cons ?_ hall⟩
          have hH : (currentHeight + 1).toInt = batch.header.number := by
            rw [hcurrentHeight, Int64.sub_add_cancel, hcanon.1]
            exact int64_toInt_of_lt (by omega) (by omega)
          exact ⟨hseqNo, htime', hhash, rfl, hcoinbase.symm, hbaseFee.symm, hgasLimit.symm,
            by simp [hr], fun _ => hH⟩

/-- The compression loop keeps a batch's header exactly when it is re-orged. -/
theorem compressBatches_reorgs {reorgMap : UInt64 → Bool} {blocks : Hash → Option L1Header} :
    ∀ {batches : List Batch} {i : Nat} {prev : UInt64} {prevL1Height : Int}
      {out : List (Option BatchHeader) × List Int × List Int},
      compressBatches reorgMap blocks batches i prev prevL1Height = .ok out →
      out.1 = batches.map fun b =>
        if reorgMap (uint64 b.header.sequencerOrderNo) then some b.header else none
  | [], _, _, _, _, h => by
      cases h
      rfl
  | _ :: _, _, _, _, _, h => by
      obtain ⟨_, rest, -, hrest, rfl⟩ := compressBatches_cons h
      rw [List.map_cons, ← compressBatches_reorgs hrest]

/-- The compression loop succeeds when the rollup has every proof block. -/
theorem compressBatches_ok {reorgMap : UInt64 → Bool} {blocks : Hash → Option L1Header} :
    ∀ {batches : List Batch}, (∀ b ∈ batches, ∃ block, blocks b.header.l1Proof = some block) →
      ∀ i prev prevL1Height, ∃ out, compressBatches reorgMap blocks batches i prev prevL1Height = .ok out
  | [], _, _, _, _ => ⟨_, rfl⟩
  | batch :: batches, hblocks, i, prev, prevL1Height => by
      obtain ⟨block, hblock⟩ := hblocks batch List.mem_cons_self
      obtain ⟨rest, hrest⟩ := @compressBatches_ok reorgMap blocks batches
        (fun b hb => hblocks b (List.mem_cons_of_mem _ hb)) (i + 1) batch.header.time block.number
      simp only [compressBatches, hblock, Result.bind_of_eq_ok hrest]
      exact ⟨_, rfl⟩

/-- The first batch without a kept header is the first canonical one. -/
theorem findFirstCanon_eq {reorgMap : UInt64 → Bool} :
    ∀ batches : List Batch, findFirstCanon (batches.zip (batches.map fun b =>
        if reorgMap (uint64 b.header.sequencerOrderNo) then some b.header else none)) =
      (batches.filter fun b => !reorgMap (uint64 b.header.sequencerOrderNo)).head?
  | [] => rfl
  | batch :: batches => by
      cases hr : reorgMap (uint64 batch.header.sequencerOrderNo) with
      | true => simp [findFirstCanon, hr, findFirstCanon_eq batches]
      | false => simp [findFirstCanon, hr]

/-- Without re-orgs the decompression reads no header. -/
theorem fullReorgedHeaderAt_nil {header : CalldataRollupHeader} (h : header.reOrgs = [])
    (idx : Nat) : fullReorgedHeaderAt rc header idx = .ok none := by
  simp [fullReorgedHeaderAt, h]
  rfl

/-- With re-orgs the decompression reads back each kept header, given that
RLP decodes what it encodes and never encodes to nothing. -/
theorem fullReorgedHeaderAt_transform {header : CalldataRollupHeader}
    {reorgs : List (Option BatchHeader)} (h : header.reOrgs = transformToByteArray rc reorgs)
    (hne : reorgs ≠ [])
    (hrlp : ∀ reorg ∈ reorgs, ∀ b, reorg = some b →
      rc.rlpDecodeHeader (rc.rlpEncodeHeader b) = .ok b ∧ rc.rlpEncodeHeader b ≠ [])
    (idx : Nat) (hidx : idx < reorgs.length) :
    fullReorgedHeaderAt rc header idx = .ok reorgs[idx] := by
  have hlen : header.reOrgs.length > 0 := by
    rw [h, transformToByteArray, List.length_map]
    exact List.length_pos_iff.mpr hne
  have hat : header.reOrgs[idx]? = some (match reorgs[idx] with
      | some reorg => rc.rlpEncodeHeader reorg
      | none => []) := by
    simp [h, transformToByteArray, hidx]
  unfold fullReorgedHeaderAt
  rw [if_pos hlen, hat]
  cases hr : reorgs[idx] with
  | none => rfl
  | some b =>
      obtain ⟨hdec, hnonempty⟩ := hrlp _ (List.getElem_mem hidx) b hr
      simp only [List.length_pos_iff.mpr hnonempty, if_true, hdec]
      rfl

/-- The lowest proof height is the height of some batch's proof. -/
theorem min?_proofHeights {blocks : Hash → Option L1Header} {batches : List Batch}
    (hne : batches ≠ []) (hbound : ∀ b ∈ batches, proofHeight blocks b < 2 ^ 64) :
    ∃ b ∈ batches, (batches.map fun b => UInt64.ofNat (proofHeight blocks b)).min? =
        some (UInt64.ofNat (proofHeight blocks b)) ∧
      ∀ b' ∈ batches, proofHeight blocks b ≤ proofHeight blocks b' := by
  cases hmin : (batches.map fun b => UInt64.ofNat (proofHeight blocks b)).min? with
  | none => simp_all [List.min?_eq_none_iff]
  | some m =>
      obtain ⟨hmem, hle⟩ := List.min?_eq_some_iff.mp hmin
      obtain ⟨b, hb, rfl⟩ := List.mem_map.mp hmem
      refine ⟨b, hb, rfl, fun b' hb' => ?_⟩
      have h := UInt64.le_iff_toNat_le.mp (hle _ (List.mem_map_of_mem hb'))
      simp only [UInt64.toNat_ofNat', Nat.reducePow] at h
      have hb64 := hbound b hb
      have hb'64 := hbound b' hb'
      omega

/-- Decompressing the L1 height deltas gives back the proof heights. -/
theorem calculateL1HeightsFromDeltas_compress {reorgMap : UInt64 → Bool}
    {blocks : Hash → Option L1Header} {batch : Batch} {batches : List Batch} {prev : UInt64}
    {out : List (Option BatchHeader) × List Int × List Int} {header : CalldataRollupHeader}
    (h : compressBatches reorgMap blocks (batch :: batches) 0 prev 0 = .ok out)
    (hdeltas : header.l1HeightDeltas = out.2.2.map gobEncode)
    (hbound : ∀ b ∈ batch :: batches, proofHeight blocks b < 2 ^ 63) :
    calculateL1HeightsFromDeltas header ((batch :: batches).map Batch.transactions) =
      .ok ((batch :: batches).map fun b => UInt64.ofNat (proofHeight blocks b)) := by
  obtain ⟨block, rest, hblock, hrest, rfl⟩ := compressBatches_cons h
  have hheight : proofHeight blocks batch = block.number := by simp [proofHeight, hblock]
  have hn : block.number < 2 ^ 63 := hheight ▸ hbound batch List.mem_cons_self
  have hloop : l1HeightsLoop header.l1HeightDeltas (batches.map Batch.transactions) 1
      (UInt64.ofNat block.number) = .ok (batches.map fun b => UInt64.ofNat (proofHeight blocks b)) :=
    l1HeightsLoop_compressBatches hrest Nat.one_pos hn
      (fun b hb => hbound b (List.mem_cons_of_mem _ hb))
      (fun j => by simp [hdeltas, Nat.add_comm 1 j])
  have hfirst : header.l1HeightDeltas[0]? = some (gobEncode block.number) := by simp [hdeltas]
  simp only [calculateL1HeightsFromDeltas, hfirst, gobDecode_gobEncode, Except.mapError]
  rw [Result.bind_of_eq_ok rfl, uint64_natCast, List.map_cons, l1HeightsLoop,
    if_neg (Nat.lt_irrefl 0), Result.bind_of_eq_ok hloop, List.map_cons, hheight]
  rfl

/-- What `createRollupHeader` writes, given the storage's answer and the
result of the compression loop. -/
theorem createRollupHeader_eq {rollup : Rollup} {first last : Batch}
    {reorgedBatches : List BatchHeader} {out : List (Option BatchHeader) × List Int × List Int}
    (hfirst : rollup.batches.head? = some first) (hlast : rollup.batches.getLast? = some last)
    (hreorged : rc.fetchNonCanonicalBatchesBetween (uint64 first.header.sequencerOrderNo)
      (uint64 last.header.sequencerOrderNo) = .ok reorgedBatches)
    (hout : compressBatches (reorgMapOf reorgedBatches) rollup.blocks rollup.batches 0
      first.header.time 0 = .ok out) :
    createRollupHeader rc rollup = .ok
      { firstBatchSequence := first.header.sequencerOrderNo
        firstCanonBatchHeight :=
          ((findFirstCanon (rollup.batches.zip out.1)).getD first).header.number
        firstCanonParentHash :=
          ((findFirstCanon (rollup.batches.zip out.1)).getD first).header.parentHash
        startTime := first.header.time
        batchTimeDeltas := out.2.1.map gobEncode
        reOrgs := if reorgedBatches.length = 0 then [] else transformToByteArray rc out.1
        l1HeightDeltas := out.2.2.map gobEncode
        coinbase := first.header.coinbase
        baseFee := first.header.baseFee
        gasLimit := first.header.gasLimit } := by
  simp only [createRollupHeader, hfirst, hlast, Result.bind_of_eq_ok hreorged,
    Result.bind_of_eq_ok hout]
  rfl

/-- Decompression of a header written from the compression loop's output:
its L1 heights, the parent walk and the main loop, put together. -/
theorem createIncompleteBatches_compress
    (hkeyed : ∀ h b, rc.fetchBlock h = some b → b.hash = h)
    (hnumbered : Chain.Numbered rc.fetchBlock L1Header.parentHash L1Header.number)
    {reorgMap : UInt64 → Bool} {blocks : Hash → Option L1Header} {first : Batch}
    {rest : List Batch} {out : List (Option BatchHeader) × List Int × List Int}
    {header : CalldataRollupHeader} {n : Nat} {compressionL1Head : Hash} {head : L1Header}
    (hout : compressBatches reorgMap blocks (first :: rest) 0 first.header.time 0 = .ok out)
    (hstart : header.startTime = first.header.time)
    (htimes : header.batchTimeDeltas = out.2.1.map gobEncode)
    (hdeltas : header.l1HeightDeltas = out.2.2.map gobEncode)
    (hreorg : ∀ j (hj : j < out.1.length), fullReorgedHeaderAt rc header j = .ok out.1[j])
    (hcanon : ((first :: rest).filter fun b => !reorgMap (uint64 b.header.sequencerOrderNo)).map
      (fun b => b.header.number) = List.range' header.firstCanonBatchHeight n)
    (hseq : (first :: rest).map (fun b => b.header.sequencerOrderNo) =
      List.range' header.firstBatchSequence (first :: rest).length)
    (hbatch : ∀ b ∈ first :: rest, b.header.sequencerOrderNo < 2 ^ 63 ∧ b.header.number < 2 ^ 63 ∧
      b.header.coinbase = header.coinbase ∧ b.header.baseFee = header.baseFee ∧
      b.header.gasLimit = header.gasLimit)
    (hhead : rc.fetchBlock compressionL1Head = some head)
    (hproof : ∀ b ∈ first :: rest, ∃ block, blocks b.header.l1Proof = some block ∧
      rc.fetchBlock b.header.l1Proof = some block ∧
      Chain.AncestorOrSelf rc.fetchBlock L1Header.parentHash block head)
    (hheadBound : head.number < 2 ^ 63) :
    ∃ ibs, createIncompleteBatches rc header ((first :: rest).map Batch.transactions)
        compressionL1Head = .ok ibs ∧
      List.Forall₂ (fun b ib => Recovers (reorgMap (uint64 b.header.sequencerOrderNo)) b ib)
        (first :: rest) ibs := by
  -- every proof block is stored below the compression block, so its height fits an `int64`
  have hblock : ∀ b ∈ first :: rest, ∃ block, proofHeight blocks b = block.number ∧
      block.hash = b.header.l1Proof ∧
      Chain.AncestorOrSelf rc.fetchBlock L1Header.parentHash block head := by
    intro b hb
    obtain ⟨block, hblock, hfetch, hanc⟩ := hproof b hb
    exact ⟨block, by simp [proofHeight, hblock], hkeyed _ _ hfetch, hanc⟩
  have hbound : ∀ b ∈ first :: rest, proofHeight blocks b < 2 ^ 63 := by
    intro b hb
    obtain ⟨block, hph, -, hanc⟩ := hblock b hb
    rw [hph]
    exact lt_of_le_of_lt (hanc.number_le hnumbered hhead) hheadBound
  have hheights := calculateL1HeightsFromDeltas_compress hout hdeltas hbound
  obtain ⟨low, hlow, hmin, hminle⟩ := min?_proofHeights (List.cons_ne_nil first rest)
    (fun b hb => lt_trans (hbound b hb) (by norm_num))
  obtain ⟨lowBlock, hlowHeight, -, hlowAnc⟩ := hblock low hlow
  have hfrom : uint64 (UInt64.ofNat (proofHeight blocks low)).toInt64.toInt =
      uint64 (proofHeight blocks low) := by
    rw [toInt64_uint64_ofNat, int64_toInt_of_lt (by omega) (by have := hbound low hlow; omega)]
  obtain ⟨path, hwalk, hpath, -⟩ := calcL1AncestorsOfHeight_spec hnumbered hfrom lowBlock
    (head.number + 1) (fun _ => none) hhead (by omega) (by omega) hlowAnc hlowHeight.symm
  have hblocks : List.Forall₂ (fun b h => ∃ block, path h = some block ∧
      block.hash = b.header.l1Proof) (first :: rest)
      ((first :: rest).map fun b => UInt64.ofNat (proofHeight blocks b)) := by
    rw [List.forall₂_map_right_iff, List.forall₂_same]
    intro b hb
    obtain ⟨block, hph, hhash, hanc⟩ := hblock b hb
    refine ⟨block, ?_, hhash⟩
    rw [hph, ← uint64_natCast]
    exact hpath block hanc (hph ▸ hminle b hb)
  unfold createIncompleteBatches
  simp only [hhead, Result.bind_of_eq_ok hheights, hmin]
  rw [Result.bind_of_eq_ok hwalk]
  exact incompleteBatchesLoop_compressBatches hout (fun j => by simp [htimes])
    (fun j hj => by simpa using hreorg j hj) (fun j => by simp) hblocks
    (by rw [hstart, UInt64.toUInt64_toInt64]) rfl hcanon (by simpa using hseq) hbatch

/-- The re-orged headers that `createRollupHeader` writes from the
compression loop's output read back, given that RLP decodes each kept
header; without re-orgs nothing is read. -/
theorem fullReorgedHeaderAt_compressBatches {reorgedBatches : List BatchHeader}
    {batches : List Batch} {out : List (Option BatchHeader) × List Int × List Int}
    {header : CalldataRollupHeader}
    (hreorgs : out.1 = batches.map fun b =>
      if reorgMapOf reorgedBatches (uint64 b.header.sequencerOrderNo) then some b.header else none)
    (hwritten : header.reOrgs =
      if reorgedBatches.length = 0 then [] else transformToByteArray rc out.1)
    (hrlp : ∀ b ∈ batches,
      reorgMapOf reorgedBatches (uint64 b.header.sequencerOrderNo) = true →
      rc.rlpDecodeHeader (rc.rlpEncodeHeader b.header) = .ok b.header ∧
        rc.rlpEncodeHeader b.header ≠ [])
    (j : Nat) (hj : j < out.1.length) : fullReorgedHeaderAt rc header j = .ok out.1[j] := by
  by_cases hnone : reorgedBatches.length = 0
  · have hkept : ∀ reorg ∈ out.1, reorg = none := by
      rw [hreorgs]
      intro reorg hmem
      obtain ⟨b, -, rfl⟩ := List.mem_map.mp hmem
      simp [reorgMapOf, List.eq_nil_of_length_eq_zero hnone]
    rw [fullReorgedHeaderAt_nil (by simp [hwritten, hnone]), hkept _ (List.getElem_mem hj)]
  · have hne : out.1 ≠ [] := by
      intro hnil
      rw [hnil] at hj
      exact absurd hj (Nat.not_lt_zero j)
    refine fullReorgedHeaderAt_transform (by simp [hwritten, hnone]) hne ?_ j hj
    intro reorg hmem b hb
    rw [hreorgs] at hmem
    obtain ⟨batch, hbatch, hreorg⟩ := List.mem_map.mp hmem
    by_cases hr : reorgMapOf reorgedBatches (uint64 batch.header.sequencerOrderNo) = true
    · simp only [hr, if_true, hb, Option.some.injEq] at hreorg
      rw [← hreorg]
      exact hrlp batch hbatch hr
    · simp [hr, hb] at hreorg

/-- Decompressing the header of a rollup gives back each of its batches: its
sequence number, time, L1 proof and transactions, and its height when it is
canonical or its whole header when it was re-orged. The rollup is the one
`CreateInternalRollup` builds: consecutive sequence numbers, canonical
batches at consecutive heights, every proof block among the rollup's blocks
and an ancestor of the compression block, shared coinbase, base fee and gas
limit; its numbers fit an `int64`. The block store is keyed by hash with
parents one lower, and RLP decodes the headers it encodes. -/
theorem createIncompleteBatches_createRollupHeader
    (hkeyed : ∀ h b, rc.fetchBlock h = some b → b.hash = h)
    (hnumbered : Chain.Numbered rc.fetchBlock L1Header.parentHash L1Header.number)
    {rollup : Rollup} {reorgedBatches : List BatchHeader} {head : L1Header}
    (hne : rollup.batches ≠ [])
    (hreorged : ∀ first last, rollup.batches.head? = some first →
      rollup.batches.getLast? = some last →
      rc.fetchNonCanonicalBatchesBetween (uint64 first.header.sequencerOrderNo)
        (uint64 last.header.sequencerOrderNo) = .ok reorgedBatches)
    (hrlp : ∀ b ∈ rollup.batches,
      reorgMapOf reorgedBatches (uint64 b.header.sequencerOrderNo) = true →
      rc.rlpDecodeHeader (rc.rlpEncodeHeader b.header) = .ok b.header ∧
        rc.rlpEncodeHeader b.header ≠ [])
    (hseq : Chain.Consecutive (rollup.batches.map fun b => b.header.sequencerOrderNo))
    (hheights : Chain.Consecutive
      ((rollup.batches.filter fun b =>
        !reorgMapOf reorgedBatches (uint64 b.header.sequencerOrderNo)).map
          fun b => b.header.number))
    (hhead : rc.fetchBlock rollup.header.compressionL1Head = some head)
    (hproofs : ∀ b ∈ rollup.batches, ∃ block, rollup.blocks b.header.l1Proof = some block ∧
      rc.fetchBlock b.header.l1Proof = some block ∧
      Chain.AncestorOrSelf rc.fetchBlock L1Header.parentHash block head)
    (hshared : ∀ b ∈ rollup.batches, ∀ b' ∈ rollup.batches,
      b.header.coinbase = b'.header.coinbase ∧ b.header.baseFee = b'.header.baseFee ∧
        b.header.gasLimit = b'.header.gasLimit)
    (hbounds : ∀ b ∈ rollup.batches,
      b.header.sequencerOrderNo < 2 ^ 63 ∧ b.header.number < 2 ^ 63)
    (hheadBound : head.number < 2 ^ 63) :
    ∃ header batches, createRollupHeader rc rollup = .ok header ∧
      createIncompleteBatches rc header (rollup.batches.map Batch.transactions)
        rollup.header.compressionL1Head = .ok batches ∧
      List.Forall₂ (fun b ib =>
        Recovers (reorgMapOf reorgedBatches (uint64 b.header.sequencerOrderNo)) b ib)
        rollup.batches batches := by
  obtain ⟨rollupHeader, batches, blocks⟩ := rollup
  obtain ⟨first, rest, rfl⟩ := List.exists_cons_of_ne_nil hne
  simp only at hreorged hrlp hseq hheights hhead hproofs hshared hbounds ⊢
  obtain ⟨out, hout⟩ := @compressBatches_ok (reorgMapOf reorgedBatches) blocks (first :: rest)
    (fun b hb => (hproofs b hb).imp fun _ h => h.1) 0 first.header.time 0
  have hreorgs := compressBatches_reorgs hout
  obtain ⟨last, hlast⟩ : ∃ last, (first :: rest).getLast? = some last := ⟨_, List.getLast?_cons⟩
  have hcreate := @createRollupHeader_eq rc ⟨rollupHeader, first :: rest, blocks⟩ first last
    reorgedBatches out rfl hlast (hreorged first last rfl hlast) hout
  -- a re-orged header is read back from its RLP, and without re-orgs nothing is read
  have hreorg : ∀ j (hj : j < out.1.length), fullReorgedHeaderAt rc
      { firstBatchSequence := first.header.sequencerOrderNo
        firstCanonBatchHeight :=
          ((findFirstCanon ((first :: rest).zip out.1)).getD first).header.number
        firstCanonParentHash :=
          ((findFirstCanon ((first :: rest).zip out.1)).getD first).header.parentHash
        startTime := first.header.time
        batchTimeDeltas := out.2.1.map gobEncode
        reOrgs := if reorgedBatches.length = 0 then [] else transformToByteArray rc out.1
        l1HeightDeltas := out.2.2.map gobEncode
        coinbase := first.header.coinbase
        baseFee := first.header.baseFee
        gasLimit := first.header.gasLimit } j = .ok out.1[j] :=
    fullReorgedHeaderAt_compressBatches hreorgs rfl hrlp
  have hcanon : ((first :: rest).filter fun b =>
      !reorgMapOf reorgedBatches (uint64 b.header.sequencerOrderNo)).map
        (fun b => b.header.number) =
      List.range' ((findFirstCanon ((first :: rest).zip out.1)).getD first).header.number
        ((first :: rest).filter fun b =>
          !reorgMapOf reorgedBatches (uint64 b.header.sequencerOrderNo)).length := by
    rw [hreorgs, findFirstCanon_eq, hheights]
    cases hfilter : (first :: rest).filter fun b =>
        !reorgMapOf reorgedBatches (uint64 b.header.sequencerOrderNo) with
    | nil => rfl
    | cons c cs => simp
  have hseq' : (first :: rest).map (fun b => b.header.sequencerOrderNo) =
      List.range' first.header.sequencerOrderNo (first :: rest).length := by
    rw [hseq]
    simp
  obtain ⟨ibs, hdecompress, hall⟩ := createIncompleteBatches_compress hkeyed hnumbered hout rfl rfl
    rfl hreorg hcanon hseq'
    (fun b hb => ⟨(hbounds b hb).1, (hbounds b hb).2, (hshared b hb first List.mem_cons_self).1,
      (hshared b hb first List.mem_cons_self).2.1, (hshared b hb first List.mem_cons_self).2.2⟩)
    hhead hproofs hheadBound
  exact ⟨_, ibs, hcreate, hdecompress, hall⟩

end RoundTrip

/-! ## A rollup with a re-orged batch, and one above `int64` -/

/-- A header with the fields compression reads and zeros elsewhere. -/
def sampleHeader (seqNo number : Nat) (time : UInt64) (l1Proof : Hash) : BatchHeader :=
  ⟨0, 0, 0, 0, number, seqNo, 0, 0, time, [], 0, 0, l1Proof, [], [], 0, 0, 0, []⟩

/-- Three L1 blocks in a row. -/
def sampleBlocks : List L1Header := [⟨10, 9, 5⟩, ⟨11, 10, 6⟩, ⟨12, 11, 7⟩]

/-- Storage that reports the batch with sequence number 5 as re-orged, and an
RLP that decodes the header of that batch. -/
def sampleCompression : RollupCompression where
  fetchNonCanonicalBatchesBetween _ _ := .ok [sampleHeader 5 4 90 12]
  fetchBlock := Chain.storeOf L1Header.hash sampleBlocks
  rlpEncodeHeader _ := [1]
  rlpDecodeHeader _ := .ok (sampleHeader 5 4 90 12)
  deriveShaTxs _ := 1
  emptyRootHash := 0

/-- Three batches compressed at block 12: a re-orged batch between two
canonical ones, with a time going backwards and L1 proofs going down. -/
def sampleRollup : Rollup :=
  ⟨⟨12, [], 0, [], 6⟩,
    [⟨sampleHeader 4 3 100 10, []⟩, ⟨sampleHeader 5 4 90 12, []⟩, ⟨sampleHeader 6 4 105 11, []⟩],
    Chain.storeOf L1Header.hash sampleBlocks⟩

theorem createIncompleteBatches_sampleRollup :
    ∃ header batches, createRollupHeader sampleCompression sampleRollup = .ok header ∧
      createIncompleteBatches sampleCompression header
        (sampleRollup.batches.map Batch.transactions) sampleRollup.header.compressionL1Head =
          .ok batches ∧
      List.Forall₂ (fun b ib =>
        Recovers (reorgMapOf [sampleHeader 5 4 90 12] (uint64 b.header.sequencerOrderNo)) b ib)
        sampleRollup.batches batches := by
  refine createIncompleteBatches_createRollupHeader (fun _ _ h => Chain.storeOf_key h)
    (Chain.storeOf_numbered (by decide)) (by simp [sampleRollup]) (fun _ _ _ _ => rfl) ?_
    (by decide) (by decide)
    (show Chain.storeOf L1Header.hash sampleBlocks 12 = some ⟨12, 11, 7⟩ from rfl) ?_
    (by decide) (by decide) (by decide)
  · intro b hb hr
    simp only [sampleRollup, List.mem_cons, List.not_mem_nil, or_false] at hb
    rcases hb with rfl | rfl | rfl
    all_goals first | exact absurd hr (by decide) | exact ⟨rfl, by decide⟩
  · intro b hb
    simp only [sampleRollup, List.mem_cons, List.not_mem_nil, or_false] at hb
    rcases hb with rfl | rfl | rfl
    · exact ⟨⟨10, 9, 5⟩, rfl, rfl, .parent rfl (.parent rfl (.refl _))⟩
    · exact ⟨⟨12, 11, 7⟩, rfl, rfl, .refl _⟩
    · exact ⟨⟨11, 10, 6⟩, rfl, rfl, .parent rfl (.refl _)⟩

/-- An L1 block at height `2 ^ 63`. -/
def highBlocks : List L1Header := [⟨20, 19, 2 ^ 63⟩]

/-- Storage without re-orgs over the high block. -/
def highCompression : RollupCompression where
  fetchNonCanonicalBatchesBetween _ _ := .ok []
  fetchBlock := Chain.storeOf L1Header.hash highBlocks
  rlpEncodeHeader _ := [1]
  rlpDecodeHeader _ := .error "rlp: expected input list"
  deriveShaTxs _ := 1
  emptyRootHash := 0

/-- Two canonical batches proved by the high block. -/
def highRollup : Rollup :=
  ⟨⟨20, [], 0, [], 2⟩, [⟨sampleHeader 1 1 100 20, []⟩, ⟨sampleHeader 2 2 101 20, []⟩],
    Chain.storeOf L1Header.hash highBlocks⟩

/-- The second L1 height is the delta zero added to `int64(2 ^ 63)`, which is
negative, and decompression stops the enclave. -/
theorem createIncompleteBatches_highRollup :
    ∃ header, createRollupHeader highCompression highRollup = .ok header ∧
      createIncompleteBatches highCompression header (highRollup.batches.map Batch.transactions)
        highRollup.header.compressionL1Head = .error (.crit "Should not have a negative height") :=
  ⟨_, rfl, rfl⟩

end GoTen.Enclave.RollupCompression
