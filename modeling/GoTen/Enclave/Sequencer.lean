import GoTen.Enclave.RollupConsumer
import GoTen.Host.BatchRepository
import GoTen.Verified.GoMap

/-!
# The sequencer's answer to an L1 re-org (`go/enclave/nodetype/sequencer.go`)

A batch points to the L1 block it was produced on. When that block leaves
the canonical L1 chain, the batch stops being canonical, and the sequencer
produces it again on the new L1 head (`duplicateBatches`, called by
`OnL1Fork`). It reads the batches of the blocks that left the chain and of
those that joined it, sorts the first by height, checks that they form a
chain, and for each height without a canonical batch produces a copy with
the same transactions and time on top of the batch before it on the new
chain: the copy made just before, or the canonical batch at the height
before.

The storage and the batch production are parameters (`SequencerEnv`) over a
state `σ` of the storage. `produceBatch` computes, commits, signs and stores
a batch; the theorems assume of it only what `ProducesOnHead` says: the
batch has the sequence number, parent, time and L1 block it was given, and
its sequence number becomes the current one.

## Main results

* `onL1Fork_spec`: a re-org that `OnL1Fork` handles without error found the
  orphaned batches in a chain, and produced one copy per height without a
  canonical batch, in height order, each on top of the batch before it on
  the new chain, with the orphan's time, on the new L1 head, and with
  consecutive sequence numbers after the current one
  (`duplicateBatches_spec` for the duplication alone).
* `duplicateBatches_eq_crit`: with storage and production that do not fail,
  the duplication stops the process exactly when the orphaned batches,
  sorted by height, do not form a chain.
-/

namespace GoTen.Enclave.Sequencer

open GoTen.Common
open GoTen.Verified
open GoTen.Verified.BigInt
open GoTen.Enclave.RollupConsumer (hashHex)
open GoTen.Host.BatchRepository (errNotFound)

/-- What `duplicateBatches` and `OnL1Fork` use of the sequencer over a
storage state `σ`: the storage reads, and `produceBatch` with
`failForEmptyBatch` false, which returns the new batch's header and the
state after it is stored. -/
structure SequencerEnv (σ : Type) where
  fetchBatchesByBlock : σ → Hash → Except Failure (List BatchHeader)
  fetchCurrentSequencerNo : σ → Except Failure Nat
  fetchBatchTransactionsBySeq : σ → UInt64 → Except Failure (List Tx)
  produceBatch : σ → Nat → Hash → Hash → List Tx → UInt64 → Except Failure (BatchHeader × σ)
  fetchReorgedRollup : σ → List Hash → Except Failure Unit

variable {σ : Type} (env : SequencerEnv σ) (rlpHash : BatchHeader → Hash)

/-- The error of a `FetchBatchesByBlock` that failed otherwise than with
`ErrNotFound`. -/
def fetchBatchesByBlockError (l1BlockHash : Hash) (err : Failure) : Failure :=
  err.wrap ("could not FetchBatchesByBlock " ++ hashHex l1BlockHash ++ ". Cause ")

/-- The first loop of `duplicateBatches`: the batches of the blocks that left
the canonical chain, in the order of the path; a block without batches is
skipped. -/
def batchesToDuplicate (s : σ) : List Hash → Except Failure (List BatchHeader)
  | [] => .ok []
  | l1BlockHash :: rest =>
    match env.fetchBatchesByBlock s l1BlockHash with
    | .ok batches => (batches ++ ·) <$> batchesToDuplicate s rest
    | .error err =>
      if err = errNotFound then batchesToDuplicate s rest
      else .error (fetchBatchesByBlockError l1BlockHash err)

/-- The second loop: the batches of the blocks that joined the canonical
chain, in `batchesToExclude[batch.Number.Uint64()]`; a later batch at a
height replaces an earlier one. -/
def batchesToExclude (s : σ) (excluded : GoMap UInt64 BatchHeader) :
    List Hash → Except Failure (GoMap UInt64 BatchHeader)
  | [] => .ok excluded
  | l1BlockHash :: rest =>
    match env.fetchBatchesByBlock s l1BlockHash with
    | .ok batches =>
      batchesToExclude s (batches.foldl (fun m batch => m.insert (uint64 batch.number) batch) excluded)
        rest
    | .error err =>
      if err = errNotFound then batchesToExclude s excluded rest
      else .error (fetchBatchesByBlockError l1BlockHash err)

/-- `sort.Slice` by height. Go sorts short slices by insertion sort, stable
for the strict order the source compares with. -/
def sortByNumber (batches : List BatchHeader) : List BatchHeader :=
  batches.insertionSort fun a b => a.number ≤ b.number

/-- The text of the sanity check's `Crit`. -/
def invalidBatches : String := "the batches that must be duplicated are invalid"

/-- The loop of `duplicateBatches` over the sorted batches, with the head
`currentHead` and the batch before (`none` at the first): the sanity check,
then either the canonical batch at the height becomes the head, or a copy
is produced on the head and becomes it. It returns the storage state and
the batches produced. -/
def duplicateLoop (l1HeadHash : Hash) (excluded : GoMap UInt64 BatchHeader) :
    σ → Hash → Option BatchHeader → List BatchHeader → Except Failure (σ × List BatchHeader)
  | s, _, _, [] => .ok (s, [])
  | s, currentHead, prev, orphan :: rest => do
    Result.check (prev.any fun p => orphan.parentHash != p.hash rlpHash) (.crit invalidBatches)
    match excluded.get? (uint64 orphan.number) with
    | some canonical =>
      duplicateLoop l1HeadHash excluded s (canonical.hash rlpHash) (some orphan) rest
    | none =>
      let sequencerNo ← (env.fetchCurrentSequencerNo s).mapError
        (Failure.wrap "could not fetch sequencer no. Cause ")
      let transactions ← (env.fetchBatchTransactionsBySeq s (uint64 orphan.sequencerOrderNo)).mapError
        (Failure.wrap "could not fetch transactions to duplicate. Cause ")
      let (batch, s) ← (env.produceBatch s (sequencerNo + 1) l1HeadHash currentHead transactions
        orphan.time).mapError (Failure.wrap "could not produce batch. Cause ")
      let (s, produced) ← duplicateLoop l1HeadHash excluded s (batch.hash rlpHash) (some orphan) rest
      pure (s, batch :: produced)

/-- `duplicateBatches`; `l1HeadHash` is `l1Head.Hash()`. -/
def duplicateBatches (s : σ) (l1HeadHash : Hash) (nonCanonicalL1Path canonicalL1Path : List Hash) :
    Except Failure (σ × List BatchHeader) := do
  let toDuplicate ← batchesToDuplicate env s nonCanonicalL1Path
  let excluded ← batchesToExclude env s GoMap.empty canonicalL1Path
  match sortByNumber toDuplicate with
  | [] => pure (s, [])
  | first :: rest => duplicateLoop env rlpHash l1HeadHash excluded s first.parentHash none (first :: rest)

/-- `OnL1Fork`. A re-orged rollup that is found is only logged. -/
def onL1Fork (s : σ) (fork : ChainFork) : Except Failure (σ × List BatchHeader) :=
  if !fork.isFork then .ok (s, [])
  else do
    let (s, produced) ← (duplicateBatches env rlpHash s fork.newCanonical.hash fork.nonCanonicalPath
      fork.canonicalPath).mapError (Failure.wrap "could not duplicate batches. Cause ")
    match env.fetchReorgedRollup s fork.nonCanonicalPath with
    | .ok () => pure (s, produced)
    | .error err =>
      if err = errNotFound then pure (s, produced)
      else .error (err.wrap "could not call FetchReorgedRollup. Cause: ")

/-! ## The sanity check as a chain of parent links -/

open GoTen.Verified.Result

/-- `child` was produced on top of `parent`. -/
def BuiltOn (parent child : BatchHeader) : Prop := child.parentHash = parent.hash rlpHash

instance : DecidableRel (BuiltOn rlpHash) := fun _ _ => inferInstanceAs (Decidable (_ = _))

theorem check_eq_ok_iff {prev : Option BatchHeader} {orphan : BatchHeader} :
    check (prev.any fun p => orphan.parentHash != p.hash rlpHash) (Failure.crit invalidBatches) = .ok () ↔
      ∀ p ∈ prev, BuiltOn rlpHash p orphan := by
  cases prev <;> simp [check_eq_ok, BuiltOn]

/-- The batch before, if any, followed by the rest of the orphans. -/
theorem isChain_toList_append_cons {prev : Option BatchHeader} {orphan : BatchHeader}
    {rest : List BatchHeader} :
    (prev.toList ++ orphan :: rest).IsChain (BuiltOn rlpHash) ↔
      (∀ p ∈ prev, BuiltOn rlpHash p orphan) ∧ (orphan :: rest).IsChain (BuiltOn rlpHash) := by
  cases prev <;> simp [List.isChain_cons_cons]

/-! ## What a duplication produces -/

/-- What `produceBatch` is assumed to do: the batch it returns has the
sequence number, L1 block, parent and time it was given, and once it is
stored its sequence number is the current one. -/
def ProducesOnHead (env : SequencerEnv σ) : Prop :=
  ∀ {s s' : σ} {seqNo : Nat} {l1Hash parent : Hash} {txs : List Tx} {time : UInt64}
    {batch : BatchHeader}, env.produceBatch s seqNo l1Hash parent txs time = .ok (batch, s') →
      batch.sequencerOrderNo = seqNo ∧ batch.l1Proof = l1Hash ∧ batch.parentHash = parent ∧
        batch.time = time ∧ env.fetchCurrentSequencerNo s' = .ok seqNo

/-- What duplicating the sorted `orphans` from the head `head` means: an
orphan whose height has a canonical batch is skipped, and that batch becomes
the head; any other gets a copy on the head, with its time and on the L1
block `l1Head`, and the copy becomes the head. -/
inductive Duplicates (excluded : GoMap UInt64 BatchHeader) (l1Head : Hash) :
    Hash → List BatchHeader → List BatchHeader → Prop
  | nil (head : Hash) : Duplicates excluded l1Head head [] []
  | canonical {head : Hash} {orphan canonical : BatchHeader} {rest produced : List BatchHeader}
      (hcanonical : excluded.get? (uint64 orphan.number) = some canonical)
      (hrest : Duplicates excluded l1Head (canonical.hash rlpHash) rest produced) :
      Duplicates excluded l1Head head (orphan :: rest) produced
  | copy {head : Hash} {orphan copy : BatchHeader} {rest produced : List BatchHeader}
      (hnone : excluded.get? (uint64 orphan.number) = none)
      (hparent : copy.parentHash = head) (htime : copy.time = orphan.time)
      (hl1Proof : copy.l1Proof = l1Head)
      (hrest : Duplicates excluded l1Head (copy.hash rlpHash) rest produced) :
      Duplicates excluded l1Head head (orphan :: rest) (copy :: produced)

/-- The duplication of sorted orphans, from the parent of the first. -/
def Duplicated (excluded : GoMap UInt64 BatchHeader) (l1Head : Hash) :
    List BatchHeader → List BatchHeader → Prop
  | [], produced => produced = []
  | first :: rest, produced => Duplicates rlpHash excluded l1Head first.parentHash (first :: rest) produced

variable {env rlpHash}

/-- A successful run of the loop: the batch before and the orphans form a
chain, the copies are the duplication of the orphans from `head`, and they
have the sequence numbers after the current one `n`. The induction is on
the orphans; the current sequence number moves with each copy stored. -/
theorem duplicateLoop_ok (hprod : ProducesOnHead env) {l1HeadHash : Hash}
    {excluded : GoMap UInt64 BatchHeader} {orphans : List BatchHeader} :
    ∀ {s s' : σ} {head : Hash} {prev : Option BatchHeader} {n : Nat} {produced : List BatchHeader},
      env.fetchCurrentSequencerNo s = .ok n →
      duplicateLoop env rlpHash l1HeadHash excluded s head prev orphans = .ok (s', produced) →
      (prev.toList ++ orphans).IsChain (BuiltOn rlpHash) ∧
        Duplicates rlpHash excluded l1HeadHash head orphans produced ∧
        produced.map BatchHeader.sequencerOrderNo = List.range' (n + 1) produced.length := by
  induction orphans with
  | nil =>
    intro s s' head prev n produced _ h
    obtain ⟨-, rfl⟩ := Prod.mk.inj (Except.ok.inj h.symm)
    refine ⟨?_, .nil head, rfl⟩
    cases prev <;> simp
  | cons orphan rest ih =>
    intro s s' head prev n produced hcurrent h
    rw [duplicateLoop] at h
    obtain ⟨u, hcheck, h⟩ := bind_eq_ok.mp h
    have hprev := (check_eq_ok_iff rlpHash).mp hcheck
    rw [isChain_toList_append_cons]
    cases hget : excluded.get? (uint64 orphan.number) with
    | some canonical =>
      rw [hget] at h
      obtain ⟨hchain, hdup, hseq⟩ := ih hcurrent h
      exact ⟨⟨hprev, hchain⟩, .canonical hget hdup, hseq⟩
    | none =>
      rw [hget] at h
      obtain ⟨sequencerNo, hsequencerNo, h⟩ := bind_eq_ok.mp h
      obtain ⟨transactions, -, h⟩ := bind_eq_ok.mp h
      obtain ⟨⟨batch, s₁⟩, hproduce, h⟩ := bind_eq_ok.mp h
      obtain ⟨⟨s₂, produced'⟩, hrest, h⟩ := bind_eq_ok.mp h
      obtain ⟨-, rfl⟩ := Prod.mk.inj (pure_eq_ok.mp h).symm
      have hn : sequencerNo = n := by
        rw [mapError_eq_ok, hcurrent] at hsequencerNo
        exact (Except.ok.inj hsequencerNo).symm
      subst hn
      obtain ⟨hno, hl1Proof, hparent, htime, hcurrent₁⟩ := hprod (mapError_eq_ok.mp hproduce)
      obtain ⟨hchain, hdup, hseq⟩ := ih hcurrent₁ hrest
      refine ⟨⟨hprev, hchain⟩, .copy hget hparent htime hl1Proof hdup, ?_⟩
      simp [hno, hseq, List.range'_succ]

/-- A successful `duplicateBatches`: the orphaned batches it read, sorted by
height, form a chain, and the batches produced are their duplication on
`l1HeadHash`, with the sequence numbers after the current one. -/
theorem duplicateBatches_spec (hprod : ProducesOnHead env) {s s' : σ} {l1HeadHash : Hash}
    {nonCanonicalL1Path canonicalL1Path : List Hash} {produced : List BatchHeader} {n : Nat}
    (hcurrent : env.fetchCurrentSequencerNo s = .ok n)
    (h : duplicateBatches env rlpHash s l1HeadHash nonCanonicalL1Path canonicalL1Path = .ok (s', produced)) :
    ∃ orphans excluded, batchesToDuplicate env s nonCanonicalL1Path = .ok orphans ∧
      batchesToExclude env s GoMap.empty canonicalL1Path = .ok excluded ∧
      (sortByNumber orphans).IsChain (BuiltOn rlpHash) ∧
      Duplicated rlpHash excluded l1HeadHash (sortByNumber orphans) produced ∧
      produced.map BatchHeader.sequencerOrderNo = List.range' (n + 1) produced.length := by
  rw [duplicateBatches] at h
  obtain ⟨orphans, hdup, h⟩ := bind_eq_ok.mp h
  obtain ⟨excluded, hexcl, h⟩ := bind_eq_ok.mp h
  refine ⟨orphans, excluded, hdup, hexcl, ?_⟩
  cases hsort : sortByNumber orphans with
  | nil =>
    rw [hsort] at h
    obtain ⟨-, rfl⟩ := Prod.mk.inj (pure_eq_ok.mp h).symm
    exact ⟨List.isChain_nil, rfl, rfl⟩
  | cons first rest =>
    rw [hsort] at h
    exact duplicateLoop_ok hprod hcurrent h

/-! ### A re-org of three batches -/

/-- A hash of a header by its height and sequence number. -/
def numberHash (b : BatchHeader) : Hash := BitVec.ofNat 256 (1000 * b.number + b.sequencerOrderNo)

/-- A header with its parent, L1 block, height, sequence number and time. -/
def headerOf (parent l1Proof : Hash) (number seqNo : Nat) (time : UInt64) : BatchHeader :=
  ⟨parent, 0, 0, 0, number, seqNo, 0, 0, time, [], 0, 0, l1Proof, [], [], 0, 0, 0, []⟩

/-- A sequencer whose state is the current sequence number. Blocks 1 and 2
left the chain with the batches at heights 1 to 3, block 3 joined it with a
canonical batch at height 2, and block 5 holds a batch with a wrong parent. -/
def forkEnv : SequencerEnv Nat where
  fetchBatchesByBlock _ l1BlockHash :=
    if l1BlockHash = 1 then .ok [headerOf 2002 1 3 3 30, headerOf 0 1 1 1 10]
    else if l1BlockHash = 2 then .ok [headerOf 1001 2 2 2 20]
    else if l1BlockHash = 3 then .ok [headerOf 0 3 2 7 20]
    else if l1BlockHash = 5 then .ok [headerOf 9 5 2 4 20]
    else .error errNotFound
  fetchCurrentSequencerNo s := .ok s
  fetchBatchTransactionsBySeq _ _ := .ok []
  produceBatch _ seqNo l1Hash parent _ time := .ok (headerOf parent l1Hash 0 seqNo time, seqNo)
  fetchReorgedRollup _ _ := .error errNotFound

/-- The fork from block 8 to the head 42, through block 3, leaving blocks 1, 2 and 4. -/
def reorgFork : ChainFork := ⟨⟨42, 3, 10⟩, ⟨2, 1, 10⟩, ⟨8, 7, 8⟩, [3], [1, 2, 4]⟩

theorem forkEnv_producesOnHead : ProducesOnHead forkEnv := by
  intro s s' seqNo l1Hash parent txs time batch h
  obtain ⟨rfl, rfl⟩ := Prod.mk.inj (Except.ok.inj h)
  exact ⟨rfl, rfl, rfl, rfl, rfl⟩

/-- `OnL1Fork` on a fork that succeeds: the batches it produced are the
duplication, on the new canonical L1 head, of the batches of the blocks that
left the chain, and these formed a chain. -/
theorem onL1Fork_spec (hprod : ProducesOnHead env) {s s' : σ} {fork : ChainFork}
    {produced : List BatchHeader} {n : Nat} (hfork : fork.isFork = true)
    (hcurrent : env.fetchCurrentSequencerNo s = .ok n)
    (h : onL1Fork env rlpHash s fork = .ok (s', produced)) :
    ∃ orphans excluded, batchesToDuplicate env s fork.nonCanonicalPath = .ok orphans ∧
      batchesToExclude env s GoMap.empty fork.canonicalPath = .ok excluded ∧
      (sortByNumber orphans).IsChain (BuiltOn rlpHash) ∧
      Duplicated rlpHash excluded fork.newCanonical.hash (sortByNumber orphans) produced ∧
      produced.map BatchHeader.sequencerOrderNo = List.range' (n + 1) produced.length := by
  rw [onL1Fork, hfork] at h
  obtain ⟨⟨s₁, produced₁⟩, hduplicate, h⟩ := bind_eq_ok.mp h
  -- the re-orged rollup is only looked up: every successful answer keeps the batches
  have hsame : produced = produced₁ := by
    cases hrollup : env.fetchReorgedRollup s₁ fork.nonCanonicalPath with
    | ok u =>
      cases u
      simp only [hrollup] at h
      exact (Prod.mk.inj (pure_eq_ok.mp h).symm).2
    | error err =>
      simp only [hrollup] at h
      split at h
      · exact (Prod.mk.inj (pure_eq_ok.mp h).symm).2
      · cases h
  subst hsame
  exact duplicateBatches_spec hprod hcurrent (mapError_eq_ok.mp hduplicate)

theorem onL1Fork_spec_reorg :
    ∃ orphans excluded, batchesToDuplicate forkEnv 5 reorgFork.nonCanonicalPath = .ok orphans ∧
      batchesToExclude forkEnv 5 GoMap.empty reorgFork.canonicalPath = .ok excluded ∧
      (sortByNumber orphans).IsChain (BuiltOn numberHash) ∧
      Duplicated numberHash excluded reorgFork.newCanonical.hash (sortByNumber orphans)
        [headerOf 0 42 0 6 10, headerOf 2007 42 0 7 30] ∧
      [headerOf 0 42 0 6 10, headerOf 2007 42 0 7 30].map BatchHeader.sequencerOrderNo =
        List.range' (5 + 1) [headerOf 0 42 0 6 10, headerOf 2007 42 0 7 30].length :=
  onL1Fork_spec forkEnv_producesOnHead rfl rfl rfl

/-! ## When the duplication stops the process -/

/-- Storage that answers every read of the loop, and a batch production
that never fails. -/
structure NeverFails (env : SequencerEnv σ) : Prop where
  fetchCurrentSequencerNo (s : σ) : ∃ n, env.fetchCurrentSequencerNo s = .ok n
  fetchBatchTransactionsBySeq (s : σ) (seqNo : UInt64) :
    ∃ txs, env.fetchBatchTransactionsBySeq s seqNo = .ok txs
  produceBatch (s : σ) (seqNo : Nat) (l1Hash parent : Hash) (txs : List Tx) (time : UInt64) :
    ∃ r, env.produceBatch s seqNo l1Hash parent txs time = .ok r

theorem forkEnv_neverFails : NeverFails forkEnv :=
  ⟨fun s => ⟨s, rfl⟩, fun _ _ => ⟨[], rfl⟩, fun _ _ _ _ _ _ => ⟨_, rfl⟩⟩

variable (rlpHash) in
theorem check_of_not_builtOn {prev : Option BatchHeader} {orphan : BatchHeader}
    (h : ¬ ∀ p ∈ prev, BuiltOn rlpHash p orphan) :
    check (prev.any fun p => orphan.parentHash != p.hash rlpHash) (Failure.crit invalidBatches) =
      .error (.crit invalidBatches) := by
  cases prev <;> simp_all [check, BuiltOn]

/-- A step of the loop at a height with a canonical batch: the rest of the
loop runs from that batch. -/
theorem duplicateLoop_canonical {l1HeadHash head : Hash} {excluded : GoMap UInt64 BatchHeader}
    {s : σ} {prev : Option BatchHeader} {orphan canonical : BatchHeader} (rest : List BatchHeader)
    (hprev : ∀ p ∈ prev, BuiltOn rlpHash p orphan)
    (hget : excluded.get? (uint64 orphan.number) = some canonical) :
    duplicateLoop env rlpHash l1HeadHash excluded s head prev (orphan :: rest) =
      duplicateLoop env rlpHash l1HeadHash excluded s (canonical.hash rlpHash) (some orphan) rest := by
  rw [duplicateLoop, bind_of_eq_ok ((check_eq_ok_iff rlpHash).mpr hprev), hget]

/-- A copy step of the loop with reads and production that do not fail: the
rest of the loop runs from the copy, and the copy is put in front. -/
theorem duplicateLoop_copy (hfails : NeverFails env) {l1HeadHash head : Hash}
    {excluded : GoMap UInt64 BatchHeader} {s : σ} {prev : Option BatchHeader}
    {orphan : BatchHeader} (rest : List BatchHeader)
    (hprev : ∀ p ∈ prev, BuiltOn rlpHash p orphan)
    (hget : excluded.get? (uint64 orphan.number) = none) :
    ∃ (batch : BatchHeader) (s₁ : σ),
      duplicateLoop env rlpHash l1HeadHash excluded s head prev (orphan :: rest) =
        (do
          let (s, produced) ← duplicateLoop env rlpHash l1HeadHash excluded s₁ (batch.hash rlpHash)
            (some orphan) rest
          pure (s, batch :: produced)) := by
  obtain ⟨n, hn⟩ := hfails.fetchCurrentSequencerNo s
  obtain ⟨txs, htxs⟩ := hfails.fetchBatchTransactionsBySeq s (uint64 orphan.sequencerOrderNo)
  obtain ⟨⟨batch, s₁⟩, hbatch⟩ := hfails.produceBatch s (n + 1) l1HeadHash head txs orphan.time
  refine ⟨batch, s₁, ?_⟩
  rw [duplicateLoop, bind_of_eq_ok ((check_eq_ok_iff rlpHash).mpr hprev), hget]
  simp only [Except.mapError, hn, htxs, hbatch, ok_bind]

/-- With storage and production that do not fail, a loop over a chain
succeeds. -/
theorem duplicateLoop_exists_ok (hfails : NeverFails env) {l1HeadHash : Hash}
    {excluded : GoMap UInt64 BatchHeader} {orphans : List BatchHeader} :
    ∀ {s : σ} {head : Hash} {prev : Option BatchHeader},
      (prev.toList ++ orphans).IsChain (BuiltOn rlpHash) →
      ∃ r, duplicateLoop env rlpHash l1HeadHash excluded s head prev orphans = .ok r := by
  induction orphans with
  | nil => exact fun _ => ⟨_, rfl⟩
  | cons orphan rest ih =>
    intro s head prev hchain
    obtain ⟨hprev, hrest⟩ := (isChain_toList_append_cons rlpHash).mp hchain
    cases hget : excluded.get? (uint64 orphan.number) with
    | some canonical =>
      rw [duplicateLoop_canonical rest hprev hget]
      exact ih hrest
    | none =>
      obtain ⟨batch, s₁, hcopy⟩ := duplicateLoop_copy hfails rest hprev hget
      obtain ⟨⟨s₂, produced⟩, hr⟩ := @ih s₁ (batch.hash rlpHash) (some orphan) hrest
      rw [hcopy, hr]
      exact ⟨_, rfl⟩

/-- With storage and production that do not fail, a loop over orphans that
are not a chain stops at the first broken link with the sanity check's
`Crit`. -/
theorem duplicateLoop_eq_crit (hfails : NeverFails env) {l1HeadHash : Hash}
    {excluded : GoMap UInt64 BatchHeader} {orphans : List BatchHeader} :
    ∀ {s : σ} {head : Hash} {prev : Option BatchHeader},
      ¬ (prev.toList ++ orphans).IsChain (BuiltOn rlpHash) →
      duplicateLoop env rlpHash l1HeadHash excluded s head prev orphans =
        .error (.crit invalidBatches) := by
  induction orphans with
  | nil =>
    intro s head prev hbroken
    exact absurd (by cases prev <;> simp) hbroken
  | cons orphan rest ih =>
    intro s head prev hbroken
    rw [isChain_toList_append_cons, not_and] at hbroken
    by_cases hprev : ∀ p ∈ prev, BuiltOn rlpHash p orphan
    · have hrest : ¬ ((some orphan).toList ++ rest).IsChain (BuiltOn rlpHash) := hbroken hprev
      cases hget : excluded.get? (uint64 orphan.number) with
      | some canonical =>
        rw [duplicateLoop_canonical rest hprev hget]
        exact ih hrest
      | none =>
        obtain ⟨batch, s₁, hcopy⟩ := duplicateLoop_copy hfails rest hprev hget
        rw [hcopy, ih hrest]
        rfl
    · rw [duplicateLoop, check_of_not_builtOn rlpHash hprev]
      rfl

/-- With the paths read and storage and production that do not fail,
`duplicateBatches` stops the process exactly when the orphaned batches,
sorted by height, do not form a chain. -/
theorem duplicateBatches_eq_crit (hfails : NeverFails env) {s : σ} {l1HeadHash : Hash}
    {nonCanonicalL1Path canonicalL1Path : List Hash} {orphans : List BatchHeader}
    {excluded : GoMap UInt64 BatchHeader}
    (hdup : batchesToDuplicate env s nonCanonicalL1Path = .ok orphans)
    (hexcl : batchesToExclude env s GoMap.empty canonicalL1Path = .ok excluded) :
    duplicateBatches env rlpHash s l1HeadHash nonCanonicalL1Path canonicalL1Path =
        .error (.crit invalidBatches) ↔
      ¬ (sortByNumber orphans).IsChain (BuiltOn rlpHash) := by
  rw [duplicateBatches, bind_of_eq_ok hdup, bind_of_eq_ok hexcl]
  cases hsort : sortByNumber orphans with
  | nil => simp [pure, Except.pure]
  | cons first rest =>
    constructor
    · intro hcrit hchain
      obtain ⟨r, hr⟩ := @duplicateLoop_exists_ok σ env rlpHash hfails l1HeadHash excluded
        (first :: rest) s first.parentHash none hchain
      simp only [hr] at hcrit
      cases hcrit
    · intro hbroken
      exact duplicateLoop_eq_crit hfails hbroken

theorem duplicateBatches_eq_crit_brokenLink :
    duplicateBatches forkEnv numberHash 5 42 [1, 5] [3] = .error (.crit invalidBatches) ↔
      ¬ (sortByNumber [headerOf 2002 1 3 3 30, headerOf 0 1 1 1 10, headerOf 9 5 2 4 20]).IsChain
        (BuiltOn numberHash) :=
  duplicateBatches_eq_crit forkEnv_neverFails rfl rfl

end GoTen.Enclave.Sequencer
