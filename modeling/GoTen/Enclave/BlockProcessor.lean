import GoTen.Enclave.Storage
import GoTen.Verified.Chain
import GoTen.Verified.Result

/-!
# L1 block ingestion and the canonical flags (`components/block_processor.go`)

`l1BlockProcessor.Process` keeps the hash of the current L1 head in memory.
A block whose parent is the head is stored with no fork; any other block is
either an old canonical block, which is refused, or the tip of a fork, whose
latest common ancestor with the head `gethutil.LCA` finds by walking parent
pointers down both chains. `StoreBlock` then inserts the block if it is new
and moves the canonical flags of blocks and batches along the two paths.

The bookkeeping is meant to keep, in every reachable state, the canonical
blocks equal to the stored ancestors of the head, each batch canonical
exactly when its L1 proof is (`CanonicalBookkeeping`). A block that is
already stored but not canonical, and whose parent is the head, takes the
first branch: no fork is computed, `StoreBlock` inserts nothing, and the
block becomes the head while its row stays non-canonical. An L1 re-org away
from a chain and back to it delivers exactly such a block.

## Main results

* `lca_deepestCommon`: on a store where every stored parent is one lower,
  `LCA` of two stored blocks whose deepest common ancestor is above the
  genesis height returns that ancestor, the hashes from the new block down
  to it, and those from the old block down to it left out; the result is a
  fork exactly when the old block is not an ancestor of the new.
* `lca_genesisHeight`: at the genesis height the walk stops early and
  returns the new block as the common ancestor, or leaves the ancestor off
  the canonical path.
* `process_stored_child_of_head`: for every state, re-ingesting a stored
  non-canonical child of the head makes it the head and leaves it
  non-canonical, so `CanonicalBookkeeping` fails afterwards
  (`not_headChain_of_process_stored_child`).
* `reachable_not_canonicalBookkeeping`: from the empty database, six block
  deliveries (a chain of three, a fork, the old chain again) reach a state
  whose head block is not canonical.
-/

namespace GoTen.Enclave.BlockProcessor

open GoTen.Common
open GoTen.Verified
open GoTen.Verified.Chain
open GoTen.Enclave.Storage

/-! ## The walk to the latest common ancestor -/

/-- `resolver.FetchBlock(ctx, b.ParentHash)` inside the walk. -/
def parentOf (db : Db) (b : L1Header) : Except Failure L1Header :=
  (fetchBlock db b.parentHash).mapError fun _ => .error "could not retrieve parent block"

/-- `gethutil.internalLCA`: walk the higher of the two blocks down, or both
when they are level, until they meet. The walk is given `fuel` steps. -/
def internalLCA (db : Db) :
    Nat → L1Header → L1Header → List Hash → List Hash →
      Except Failure (L1Header × List Hash × List Hash)
  | 0, _, _, _, _ => .error (.error "walk to the common ancestor did not terminate")
  | fuel + 1, newCanonical, oldCanonical, canonicalPath, nonCanonicalPath =>
      if newCanonical.number = L1GenesisHeight ∨ oldCanonical.number = L1GenesisHeight then
        .ok (newCanonical, canonicalPath, nonCanonicalPath)
      else if newCanonical.hash = oldCanonical.hash then
        -- the common ancestor goes on the canonical path
        .ok (newCanonical, canonicalPath ++ [newCanonical.hash], nonCanonicalPath)
      else if newCanonical.number > oldCanonical.number then do
        let p ← parentOf db newCanonical
        internalLCA db fuel p oldCanonical (canonicalPath ++ [newCanonical.hash]) nonCanonicalPath
      else if oldCanonical.number > newCanonical.number then do
        let p ← parentOf db oldCanonical
        internalLCA db fuel newCanonical p canonicalPath (nonCanonicalPath ++ [oldCanonical.hash])
      else do
        let parentBlockA ← parentOf db newCanonical
        let parentBlockB ← parentOf db oldCanonical
        internalLCA db fuel parentBlockA parentBlockB (canonicalPath ++ [newCanonical.hash])
          (nonCanonicalPath ++ [oldCanonical.hash])

/-- `gethutil.LCA`. On a store where every parent is one lower, each step
lowers the sum of the two heights, so that many steps suffice. -/
def lca (db : Db) (newCanonical oldCanonical : L1Header) : Except Failure ChainFork := do
  let (b, cp, ncp) ← internalLCA db (newCanonical.number + oldCanonical.number + 1)
    newCanonical oldCanonical [] []
  pure ⟨newCanonical, oldCanonical, b, cp, ncp⟩

/-! ## The walk, case by case -/

section Walk

variable {db : Db} {fuel : Nat} {a b p : L1Header} {cp ncp : List Hash}

/-- Every stored header is stored under its own hash. -/
theorem storedHeader_keyed (db : Db) : Keyed (storedHeader db) L1Header.hash := by
  intro k b hb
  simp only [storedHeader, findBlock, Option.map_eq_some_iff] at hb
  obtain ⟨r, hr, rfl⟩ := hb
  simpa using List.find?_some hr

/-- The stored headers are numbered when every stored parent row is one
lower than its child row. -/
theorem numbered_of_rows
    (h : ∀ r ∈ db.blocks, ∀ r' ∈ db.blocks,
      r'.header.hash = r.header.parentHash → r'.header.number + 1 = r.header.number) :
    Numbered (storedHeader db) L1Header.parentHash L1Header.number := by
  intro k b p hb hp
  simp only [storedHeader, findBlock, Option.map_eq_some_iff] at hb hp
  obtain ⟨r, hr, rfl⟩ := hb
  obtain ⟨r', hr', rfl⟩ := hp
  exact h r (List.mem_of_find?_eq_some hr) r' (List.mem_of_find?_eq_some hr')
    (by simpa using List.find?_some hr')

theorem parentOf_eq (h : storedHeader db b.parentHash = some p) : parentOf db b = .ok p := by
  simp only [storedHeader, Option.map_eq_some_iff] at h
  obtain ⟨r, hr, rfl⟩ := h
  simp [parentOf, fetchBlock, hr, Except.mapError]

theorem internalLCA_meet (hga : a.number ≠ L1GenesisHeight) (hgb : b.number ≠ L1GenesisHeight)
    (hh : a.hash = b.hash) :
    internalLCA db (fuel + 1) a b cp ncp = .ok (a, cp ++ [a.hash], ncp) := by
  rw [internalLCA, if_neg (not_or.mpr ⟨hga, hgb⟩), if_pos hh]

theorem internalLCA_step_new (hga : a.number ≠ L1GenesisHeight)
    (hgb : b.number ≠ L1GenesisHeight) (hh : a.hash ≠ b.hash) (hgt : b.number < a.number)
    (hp : parentOf db a = .ok p) :
    internalLCA db (fuel + 1) a b cp ncp = internalLCA db fuel p b (cp ++ [a.hash]) ncp := by
  rw [internalLCA, if_neg (not_or.mpr ⟨hga, hgb⟩), if_neg hh, if_pos hgt,
    Result.bind_of_eq_ok hp]

theorem internalLCA_step_old (hga : a.number ≠ L1GenesisHeight)
    (hgb : b.number ≠ L1GenesisHeight) (hh : a.hash ≠ b.hash) (hlt : a.number < b.number)
    (hp : parentOf db b = .ok p) :
    internalLCA db (fuel + 1) a b cp ncp = internalLCA db fuel a p cp (ncp ++ [b.hash]) := by
  rw [internalLCA, if_neg (not_or.mpr ⟨hga, hgb⟩), if_neg hh, if_neg (by omega), if_pos hlt,
    Result.bind_of_eq_ok hp]

theorem internalLCA_step_both {q : L1Header} (hga : a.number ≠ L1GenesisHeight)
    (hgb : b.number ≠ L1GenesisHeight) (hh : a.hash ≠ b.hash) (heq : a.number = b.number)
    (hp : parentOf db a = .ok p) (hq : parentOf db b = .ok q) :
    internalLCA db (fuel + 1) a b cp ncp =
      internalLCA db fuel p q (cp ++ [a.hash]) (ncp ++ [b.hash]) := by
  rw [internalLCA, if_neg (not_or.mpr ⟨hga, hgb⟩), if_neg hh, if_neg (by omega),
    if_neg (by omega), Result.bind_of_eq_ok hp, Result.bind_of_eq_ok hq]

end Walk

section Deepest

variable {db : Db} (hn : Numbered (storedHeader db) L1Header.parentHash L1Header.number)
include hn

/-- A stored parent of a walker, with the facts the next step needs. -/
theorem stored_parent {a p : L1Header} (ha : storedHeader db a.hash = some a)
    (hp : storedHeader db a.parentHash = some p) :
    storedHeader db p.hash = some p ∧ p.number + 1 = a.number := by
  constructor
  · rw [storedHeader_keyed db _ _ hp]
    exact hp
  · exact hn _ _ _ ha hp

/-- From two stored blocks whose deepest common ancestor `c` is above the
genesis height, and with more steps than their heights add up to, the walk
returns `c`, the blocks from `a` down to `c` on the canonical path after
`cp`, and the blocks from `b` down to `c`, `c` left out, on the other. -/
theorem internalLCA_deepest {c : L1Header} (hc : c.number ≠ L1GenesisHeight) :
    ∀ fuel a b cp ncp, storedHeader db a.hash = some a → storedHeader db b.hash = some b →
      DeepestCommon (storedHeader db) L1Header.parentHash c a b → a.number + b.number < fuel →
      ∃ La Lb, Between (storedHeader db) L1Header.parentHash c a La ∧
        Between (storedHeader db) L1Header.parentHash c b Lb ∧
        internalLCA db fuel a b cp ncp =
          .ok (c, cp ++ La.map L1Header.hash ++ [c.hash], ncp ++ Lb.map L1Header.hash) := by
  intro fuel
  induction fuel with
  | zero =>
      intro a b cp ncp _ _ _ hfuel
      exact absurd hfuel (Nat.not_lt_zero _)
  | succ fuel ih =>
      intro a b cp ncp ha hb hd hfuel
      -- both walkers stay at or above `c`, so above the genesis height
      have hca := hd.1.number_le hn ha
      have hcb := hd.2.1.number_le hn hb
      have hga : a.number ≠ L1GenesisHeight := by
        unfold L1GenesisHeight at hc ⊢
        omega
      have hgb : b.number ≠ L1GenesisHeight := by
        unfold L1GenesisHeight at hc ⊢
        omega
      by_cases hh : a.hash = b.hash
      · -- the walkers meet, and where they meet is `c`
        have hab : a = b := Option.some.inj (ha.symm.trans (hh ▸ hb))
        subst hab
        have hca' : c = a := hd.eq_self hn ha
        subst hca'
        refine ⟨[], [], .refl _, .refl _, ?_⟩
        rw [internalLCA_meet hga hgb hh]
        simp
      · have hne : a ≠ b := fun h => hh (congrArg L1Header.hash h)
        by_cases hgt : b.number < a.number
        · -- the new side is higher: step it
          obtain ⟨p, hp, hdp⟩ := hd.step_left (hd.ne_left hn hb hgt.le hne)
          obtain ⟨hps, hpn⟩ := stored_parent hn ha hp
          obtain ⟨La, Lb, hLa, hLb, hrec⟩ :=
            ih p b (cp ++ [a.hash]) ncp hps hb hdp (by omega)
          refine ⟨a :: La, Lb, .parent hp hLa, hLb, ?_⟩
          rw [internalLCA_step_new hga hgb hh hgt (parentOf_eq hp), hrec]
          simp
        · by_cases hlt : a.number < b.number
          · -- the old side is higher: step it
            obtain ⟨q, hq, hdq⟩ := hd.step_right (hd.symm.ne_left hn ha hlt.le (Ne.symm hne))
            obtain ⟨hqs, hqn⟩ := stored_parent hn hb hq
            obtain ⟨La, Lb, hLa, hLb, hrec⟩ :=
              ih a q cp (ncp ++ [b.hash]) ha hqs hdq (by omega)
            refine ⟨La, b :: Lb, hLa, .parent hq hLb, ?_⟩
            rw [internalLCA_step_old hga hgb hh hlt (parentOf_eq hq), hrec]
            simp
          · -- level and different: step both
            have heq : a.number = b.number := by omega
            obtain ⟨p, hp, hdp⟩ := hd.step_left (hd.ne_left hn hb (by omega) hne)
            obtain ⟨q, hq, hdq⟩ := hdp.step_right (hd.symm.ne_left hn ha (by omega) (Ne.symm hne))
            obtain ⟨hps, hpn⟩ := stored_parent hn ha hp
            obtain ⟨hqs, hqn⟩ := stored_parent hn hb hq
            obtain ⟨La, Lb, hLa, hLb, hrec⟩ :=
              ih p q (cp ++ [a.hash]) (ncp ++ [b.hash]) hps hqs hdq (by omega)
            refine ⟨a :: La, b :: Lb, .parent hp hLa, .parent hq hLb, ?_⟩
            rw [internalLCA_step_both hga hgb hh heq (parentOf_eq hp) (parentOf_eq hq), hrec]
            simp

/-- `LCA` of two stored blocks whose deepest common ancestor `c` is above
the genesis height: `c`, the hashes from `A` down to `c`, and those from `B`
down to `c` with `c` left out. -/
theorem lca_deepest {A B c : L1Header} (hA : storedHeader db A.hash = some A)
    (hB : storedHeader db B.hash = some B)
    (hd : DeepestCommon (storedHeader db) L1Header.parentHash c A B)
    (hc : c.number ≠ L1GenesisHeight) :
    ∃ La Lb, Between (storedHeader db) L1Header.parentHash c A La ∧
      Between (storedHeader db) L1Header.parentHash c B Lb ∧
      lca db A B = .ok ⟨A, B, c, La.map L1Header.hash ++ [c.hash], Lb.map L1Header.hash⟩ := by
  obtain ⟨La, Lb, hLa, hLb, hwalk⟩ :=
    internalLCA_deepest hn hc (A.number + B.number + 1) A B [] [] hA hB hd (by omega)
  refine ⟨La, Lb, hLa, hLb, ?_⟩
  rw [lca, hwalk]
  simp

/-- The walk from `B` down to the deepest common ancestor is empty exactly
when `B` is an ancestor of `A`. -/
theorem between_eq_nil_iff {A B c : L1Header} {Lb : List L1Header}
    (hB : storedHeader db B.hash = some B)
    (hd : DeepestCommon (storedHeader db) L1Header.parentHash c A B)
    (hLb : Between (storedHeader db) L1Header.parentHash c B Lb) :
    Lb = [] ↔ AncestorOrSelf (storedHeader db) L1Header.parentHash B A := by
  have hlen := hLb.length_add hn hB
  constructor
  · intro hnil
    rw [hnil, List.length_nil, Nat.zero_add] at hlen
    rw [← hd.2.1.eq_of_number_eq hn hB hlen]
    exact hd.1
  · intro hBA
    have hcB : c = B := hd.2.1.antisymm hn hB (hd.2.2 B hBA (.refl B))
    rw [hcB] at hlen
    exact List.eq_nil_of_length_eq_zero (by omega)

/-- `LCA` of two stored blocks whose deepest common ancestor `c` is above
the genesis height succeeds, with `c`, the hashes from `A` down to `c`, those
from `B` down to `c` left out, and a fork exactly when the old block `B` is
not an ancestor of the new block `A`. -/
theorem lca_deepestCommon {A B c : L1Header} (hA : storedHeader db A.hash = some A)
    (hB : storedHeader db B.hash = some B)
    (hd : DeepestCommon (storedHeader db) L1Header.parentHash c A B)
    (hc : c.number ≠ L1GenesisHeight) :
    ∃ cf, lca db A B = .ok cf ∧
      (∃ La Lb, Between (storedHeader db) L1Header.parentHash c A La ∧
        Between (storedHeader db) L1Header.parentHash c B Lb ∧
        cf = ⟨A, B, c, La.map L1Header.hash ++ [c.hash], Lb.map L1Header.hash⟩) ∧
      (cf.isFork = true ↔ ¬ AncestorOrSelf (storedHeader db) L1Header.parentHash B A) := by
  obtain ⟨La, Lb, hLa, hLb, hlca⟩ := lca_deepest hn hA hB hd hc
  refine ⟨_, hlca, ⟨La, Lb, hLa, hLb, rfl⟩, ?_⟩
  -- the fork flag reads the path from `B`, empty exactly when `B` is an ancestor
  rw [← between_eq_nil_iff hn hB hd hLb]
  simp [ChainFork.isFork]

end Deepest

/-! ## Ingesting a block -/

/-- `components.BlockIngestionType`. -/
structure BlockIngestionType where
  preGenesis : Bool
  chainFork : Option ChainFork
  oldCanonicalBlock : Bool
  deriving DecidableEq, Repr

/-- `l1BlockProcessor.ingestBlock`. `GetHead` fails with `ErrNotFound` when
no head is set or the head block is not stored; both count as pre-genesis. -/
def ingestBlock (db : Db) (currentL1Head : Option Hash) (block : L1Header) :
    Except Failure BlockIngestionType :=
  match currentL1Head.bind (storedHeader db) with
  | none => .ok ⟨true, none, false⟩
  | some prevL1Head =>
      -- a basic sanity check, comparing the received block to the head block
      if block.parentHash ≠ prevL1Head.hash then
        if isCanonicalBlock db block.hash then .ok ⟨false, none, true⟩
        else
          match lca db block prevL1Head with
          | .ok chainFork => .ok ⟨false, some chainFork, false⟩
          | .error _ => .error (.error "block ancestor not found")
      else .ok ⟨false, none, false⟩

/-- `l1BlockProcessor.tryAndInsertBlock`. -/
def tryAndInsertBlock (db : Db) (currentL1Head : Option Hash) (block : L1Header) :
    Except Failure (Db × BlockIngestionType) := do
  let ingestionType ← ingestBlock db currentL1Head block
  Result.check ingestionType.oldCanonicalBlock (.error "block already processed")
  pure (storeBlock db block ingestionType.chainFork, ingestionType)

/-- The enclave's storage and the processor's in-memory head. -/
structure L1State where
  db : Db
  currentL1Head : Option Hash
  deriving DecidableEq, Repr

/-- `l1BlockProcessor.Process`. The cross-chain messages of the block go to
tables of their own, which the canonical flags do not read. -/
def process (st : L1State) (block : L1Header) : Except Failure (L1State × BlockIngestionType) := do
  let (db, ingestion) ← tryAndInsertBlock st.db st.currentL1Head block
  pure (⟨db, some block.hash⟩, ingestion)

/-! ## The bookkeeping invariant -/

/-- Every stored block is canonical exactly when it is the head or one of
its stored ancestors. -/
def HeadChain (st : L1State) : Prop :=
  ∃ head, st.currentL1Head = some head.hash ∧ storedHeader st.db head.hash = some head ∧
    ∀ r ∈ st.db.blocks,
      r.isCanonical = true ↔ AncestorOrSelf (storedHeader st.db) L1Header.parentHash r.header head

/-- Every batch is canonical exactly when its L1 proof block is stored and
canonical. -/
def BatchesFollowProofs (st : L1State) : Prop :=
  ∀ r ∈ st.db.batches, r.isCanonical = isCanonicalBlock st.db r.l1ProofHash

/-- At most one canonical batch at each height. -/
def OneCanonicalBatchPerHeight (st : L1State) : Prop :=
  ∀ r ∈ st.db.batches, ∀ r' ∈ st.db.batches,
    r.isCanonical = true → r'.isCanonical = true → r.height = r'.height → r = r'

/-- The canonical-chain bookkeeping the storage is meant to keep. -/
def CanonicalBookkeeping (st : L1State) : Prop :=
  HeadChain st ∧ BatchesFollowProofs st ∧ OneCanonicalBatchPerHeight st

section Reachable

variable (rlpHash : BatchHeader → Hash)

/-- The states reached from the empty database by any interleaving of L1
block deliveries and batch stores; a refused delivery changes nothing. -/
inductive Reachable : L1State → Prop
  | init : Reachable ⟨Db.empty, none⟩
  | block {st st' : L1State} {ingestion : BlockIngestionType} (b : L1Header) :
      Reachable st → process st b = .ok (st', ingestion) → Reachable st'
  | batch {st : L1State} {db' : Db} (b : Batch) :
      Reachable st → storeBatch rlpHash st.db b = .ok db' → Reachable ⟨db', st.currentL1Head⟩

end Reachable

/-! ## A child of the head -/

section ChildOfHead

variable {st : L1State} {block prev : L1Header}

theorem ingestBlock_child_of_head (hhead : st.currentL1Head = some prev.hash)
    (hprev : storedHeader st.db prev.hash = some prev) (hparent : block.parentHash = prev.hash) :
    ingestBlock st.db st.currentL1Head block = .ok ⟨false, none, false⟩ := by
  unfold ingestBlock
  rw [hhead, Option.bind_some, hprev]
  dsimp only
  rw [if_neg (by simp [hparent])]

theorem process_child_of_head (hhead : st.currentL1Head = some prev.hash)
    (hprev : storedHeader st.db prev.hash = some prev) (hparent : block.parentHash = prev.hash) :
    process st block = .ok (⟨storeBlock st.db block none, some block.hash⟩, ⟨false, none, false⟩) := by
  simp only [process, tryAndInsertBlock, ingestBlock_child_of_head hhead hprev hparent, bind,
    Except.bind, Result.check_false, pure, Except.pure]

/-- Re-ingesting a stored, non-canonical child of the head makes it the head
and leaves it non-canonical. -/
theorem process_stored_child_of_head {row : BlockRow} (hhead : st.currentL1Head = some prev.hash)
    (hprev : storedHeader st.db prev.hash = some prev) (hparent : block.parentHash = prev.hash)
    (hstored : findBlock st.db block.hash = some row) (hrow : row.isCanonical = false) :
    ∃ st', process st block = .ok (st', ⟨false, none, false⟩) ∧
      st'.currentL1Head = some block.hash ∧ findBlock st'.db block.hash = some row ∧
      isCanonicalBlock st'.db block.hash = false := by
  have hfind : findBlock (storeBlock st.db block none) block.hash = some row := by
    rw [findBlock, storeBlock_blocks_of_stored hstored]
    exact hstored
  refine ⟨_, process_child_of_head hhead hprev hparent, rfl, hfind, ?_⟩
  rw [isCanonicalBlock, hfind]
  exact hrow

/-- After such a re-ingestion the head block is not canonical, so the
canonical blocks are not the ancestors of the head. -/
theorem not_headChain_of_process_stored_child {row : BlockRow} {st' : L1State}
    {ingestion : BlockIngestionType} (hhead : st.currentL1Head = some prev.hash)
    (hprev : storedHeader st.db prev.hash = some prev) (hparent : block.parentHash = prev.hash)
    (hstored : findBlock st.db block.hash = some row) (hrow : row.isCanonical = false)
    (h : process st block = .ok (st', ingestion)) : ¬ HeadChain st' := by
  obtain ⟨st'', hproc, hhead', hfind, -⟩ := process_stored_child_of_head hhead hprev hparent hstored hrow
  rw [hproc] at h
  cases h
  rintro ⟨head, hheadEq, hheadStored, hcanon⟩
  rw [hhead'] at hheadEq
  -- the row found under the head's hash is the head, which is its own ancestor
  have hhash : head.hash = block.hash := (Option.some.inj hheadEq).symm
  have hrowHeader : row.header = head := by
    rw [storedHeader, hhash, hfind] at hheadStored
    exact Option.some.inj hheadStored
  have hmem : row ∈ st'.db.blocks := List.mem_of_find?_eq_some hfind
  have hself := (hcanon row hmem).mpr (by rw [hrowHeader]; exact AncestorOrSelf.refl head)
  rw [hrow] at hself
  cases hself

end ChildOfHead

/-! ## A re-org away and back -/

/-- The first block the enclave sees, at height 10. -/
def genesisBlock : L1Header := ⟨1, 0, 10⟩

/-- Its child, then a grandchild. -/
def blockH : L1Header := ⟨2, 1, 11⟩
def blockX : L1Header := ⟨3, 2, 12⟩

/-- A sibling of `blockH`: the L1 chain re-orgs to it, then back. -/
def blockH2 : L1Header := ⟨4, 1, 11⟩

/-- The four blocks once the chain has moved to `blockH2`. -/
def forkDb : Db :=
  ⟨[⟨genesisBlock, true⟩, ⟨blockH, false⟩, ⟨blockX, false⟩, ⟨blockH2, true⟩], [], []⟩

theorem forkDb_numbered : Numbered (storedHeader forkDb) L1Header.parentHash L1Header.number :=
  numbered_of_rows (by decide)

/-- `blockH2` and `blockX` share `genesisBlock` and nothing deeper. -/
theorem deepestCommon_fork :
    DeepestCommon (storedHeader forkDb) L1Header.parentHash genesisBlock blockH2 blockX := by
  refine ⟨.parent rfl (.refl _), .parent rfl (.parent rfl (.refl _)), ?_⟩
  intro d hd hdX
  rcases hd.cases_parent with rfl | ⟨p, hp, hdp⟩
  · -- `blockH2` would sit on the chain of `blockX`, level with `blockH`
    rcases hdX.cases_parent with hX | ⟨q, hq, hdq⟩
    · exact absurd hX (by decide)
    · have hqH : q = blockH := (Option.some.inj hq).symm
      subst hqH
      have heq := hdq.eq_of_number_eq forkDb_numbered (k := blockH.hash) rfl rfl
      exact absurd heq (by decide)
  · have hpG : p = genesisBlock := (Option.some.inj hp).symm
    subst hpG
    exact hdp

/-- Back from `blockX` to `blockH2`: the fork from the block above the
genesis height. -/
theorem lca_deepestCommon_fork :
    ∃ cf, lca forkDb blockH2 blockX = .ok cf ∧
      (∃ La Lb, Between (storedHeader forkDb) L1Header.parentHash genesisBlock blockH2 La ∧
        Between (storedHeader forkDb) L1Header.parentHash genesisBlock blockX Lb ∧
        cf = ⟨blockH2, blockX, genesisBlock, La.map L1Header.hash ++ [genesisBlock.hash],
          Lb.map L1Header.hash⟩) ∧
      (cf.isFork = true ↔
        ¬ AncestorOrSelf (storedHeader forkDb) L1Header.parentHash blockX blockH2) :=
  lca_deepestCommon forkDb_numbered rfl rfl deepestCommon_fork (by decide)

example : lca forkDb blockH2 blockX = .ok ⟨blockH2, blockX, genesisBlock, [4, 1], [3, 2]⟩ := by
  decide

/-- Process the blocks in turn, stopping at the first refusal. -/
def processAll (st : L1State) : List L1Header → Except Failure L1State
  | [] => .ok st
  | b :: bs => do
      let (st', _) ← process st b
      processAll st' bs

theorem processAll_append_single (st : L1State) (bs : List L1Header) (b : L1Header) :
    processAll st (bs ++ [b]) = (do
      let st' ← processAll st bs
      let (st'', _) ← process st' b
      pure st'') := by
  induction bs generalizing st with
  | nil =>
      simp only [List.nil_append, processAll, bind, Except.bind, pure, Except.pure]
  | cons b' bs ih =>
      simp only [List.cons_append, processAll]
      cases process st b' with
      | error e => rfl
      | ok r => exact ih r.1

theorem reachable_processAll (rlpHash : BatchHeader → Hash) {st st' : L1State}
    (hst : Reachable rlpHash st) :
    ∀ {blocks : List L1Header}, processAll st blocks = .ok st' → Reachable rlpHash st' := by
  intro blocks
  induction blocks generalizing st with
  | nil =>
      intro h
      cases h
      exact hst
  | cons b bs ih =>
      intro h
      obtain ⟨⟨st₁, ingestion⟩, hproc, hrest⟩ := Result.bind_eq_ok.mp h
      exact ih (Reachable.block b hst hproc) hrest

/-- The re-org away and back, as the enclave sees it: the chain to `blockX`,
the fork to `blockH2`, then the old chain again. -/
def reorgBack : List L1Header := [genesisBlock, blockH, blockX, blockH2, blockH, blockX]

/-- After the first five deliveries the head is `blockH`, canonical again,
and `blockX` is stored non-canonical. -/
theorem processAll_reorgBack_five :
    ∃ st, processAll ⟨Db.empty, none⟩ (reorgBack.take 5) = .ok st ∧
      st.currentL1Head = some blockH.hash ∧ storedHeader st.db blockH.hash = some blockH ∧
      findBlock st.db blockX.hash = some ⟨blockX, false⟩ :=
  ⟨_, rfl, rfl, rfl, rfl⟩

theorem reachable_not_canonicalBookkeeping (rlpHash : BatchHeader → Hash) :
    ∃ st, Reachable rlpHash st ∧ processAll ⟨Db.empty, none⟩ reorgBack = .ok st ∧
      st.currentL1Head = some blockX.hash ∧ isCanonicalBlock st.db blockX.hash = false ∧
      ¬ CanonicalBookkeeping st := by
  obtain ⟨st₅, h₅, hhead, hprev, hstored⟩ := processAll_reorgBack_five
  obtain ⟨st₆, hproc, hhead₆, -, hcanon⟩ :=
    process_stored_child_of_head hhead hprev rfl hstored rfl
  have hall : processAll ⟨Db.empty, none⟩ reorgBack = .ok st₆ := by
    rw [show reorgBack = reorgBack.take 5 ++ [blockX] from rfl, processAll_append_single, h₅]
    simp only [bind, Except.bind, hproc, pure, Except.pure]
  refine ⟨st₆, reachable_processAll rlpHash Reachable.init hall, hall, hhead₆, hcanon, ?_⟩
  exact fun hbook => not_headChain_of_process_stored_child hhead hprev rfl hstored rfl hproc hbook.1

/-! ## The genesis height

`internalLCA` stops as soon as either walker is at `L1GenesisHeight`, and
returns the new walker as the common ancestor without adding it to the
canonical path. -/

/-- A block at the genesis height, its child and grandchild, and a second
child. -/
def genesisRoot : L1Header := ⟨1, 0, 0⟩
def rootChild : L1Header := ⟨2, 1, 1⟩
def rootGrandchild : L1Header := ⟨3, 2, 2⟩
def rootChild2 : L1Header := ⟨4, 1, 1⟩

/-- The four blocks stored, the second child off the canonical chain. -/
def genesisDb : Db :=
  ⟨[⟨genesisRoot, true⟩, ⟨rootChild, true⟩, ⟨rootGrandchild, true⟩, ⟨rootChild2, false⟩], [], []⟩

theorem genesisDb_numbered : Numbered (storedHeader genesisDb) L1Header.parentHash L1Header.number :=
  numbered_of_rows (by decide)

/-- The two children share only the block at the genesis height. -/
theorem deepestCommon_rootChildren :
    DeepestCommon (storedHeader genesisDb) L1Header.parentHash genesisRoot rootChild rootChild2 := by
  have hroot : storedHeader genesisDb rootChild.parentHash = some genesisRoot := rfl
  refine ⟨.parent hroot (.refl _), .parent (by rfl) (.refl _), ?_⟩
  intro d hd hd2
  rcases hd.cases_parent with rfl | ⟨p, hp, hdp⟩
  · -- the first child is not an ancestor of the second: they are level
    have heq := hd2.eq_of_number_eq genesisDb_numbered (k := rootChild2.hash) rfl rfl
    exact absurd heq (by decide)
  · rw [hroot] at hp
    cases hp
    exact hdp

theorem lca_genesisHeight :
    Numbered (storedHeader genesisDb) L1Header.parentHash L1Header.number ∧
      DeepestCommon (storedHeader genesisDb) L1Header.parentHash
        genesisRoot rootGrandchild genesisRoot ∧
      lca genesisDb rootGrandchild genesisRoot =
        .ok ⟨rootGrandchild, genesisRoot, rootGrandchild, [], []⟩ ∧
      DeepestCommon (storedHeader genesisDb) L1Header.parentHash
        genesisRoot rootChild rootChild2 ∧
      lca genesisDb rootChild rootChild2 =
        .ok ⟨rootChild, rootChild2, genesisRoot, [rootChild.hash], [rootChild2.hash]⟩ := by
  refine ⟨genesisDb_numbered, ⟨?_, .refl _, fun d _ hd => hd⟩, rfl,
    deepestCommon_rootChildren, rfl⟩
  exact .parent (p := rootChild) rfl (.parent rfl (.refl _))

end GoTen.Enclave.BlockProcessor
