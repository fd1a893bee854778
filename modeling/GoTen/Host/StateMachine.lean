import GoTen.Common.Types
import GoTen.Verified.Result

/-!
# The host's cross-chain bundle state machine (`go/host/l1/statemachine.go`)

The host publishes, for every rollup the management contract holds, the
bundle of cross-chain messages of the batches that rollup covers. The
state machine keeps the last rollup it knows of (`latestRollup`), the
rollups before it (`rollupHistory`, a Go map keyed by rollup number) and
the cursor of publication (`currentRollup`). `Synchronize` asks the
contract whether a rollup follows the latest one and appends it;
`PublishNextBundle` publishes the bundle of the rollup after the cursor
and moves the cursor; when the contract's fork id of the latest rollup is
no longer the one the machine saw, `revertToLatestKnownCommonAncestorRollup`
walks the history back until the fork ids agree again.

The contract is read through `GetUniqueForkID`, which gives a rollup's
unique fork id and its metadata; the L1 can re-org between any two steps,
so every step reads its own contract. A contract that answers every read
from a `ForkMap`, a map from rollup number to fork id with rollup 0 at the
zero fork id, is the contract of a chain of rollups; the state machine's
invariants hold against any such map, changing from step to step.

The revert loop of the source has no bound; here it runs on fuel, and
`revertLoop_isSome` shows that the latest rollup's number is enough.

## Main results

* `step_consistent`: every step keeps the cursor at or below the latest
  rollup and the history numbered by its keys.
* `revertLoop_consistent`: a revert that returns has found a rollup whose
  fork id is the contract's, with the cursor rolled back below it.
* `revertLoop_isSome`: from a consistent state the revert returns within
  as many rounds as the latest rollup's number.
-/

namespace GoTen.Host.StateMachine

open GoTen.Common
open GoTen.Verified

/-- `ForkUniqueID`, a `common.Hash`. -/
abbrev ForkUniqueID := Hash

/-- `RollupNumber`, a `uint64`. -/
abbrev RollupNumber := UInt64

/-- `RollupInfo`: a rollup's fork id and number. -/
structure RollupInfo where
  forkUID : ForkUniqueID
  number : RollupNumber
  deriving DecidableEq, Repr

/-- `crossChainStateMachine`, its state. The history is the Go map
`map[RollupNumber]RollupInfo`: a key that was never written reads as the
zero `RollupInfo`. -/
structure CrossChainStateMachine where
  latestRollup : RollupInfo
  rollupHistory : RollupNumber → RollupInfo
  currentRollup : RollupNumber

/-- `NewCrossChainStateMachine`: rollup 0 with the zero fork id, an empty
history and the cursor at 0. -/
def newCrossChainStateMachine : CrossChainStateMachine :=
  ⟨⟨0, 0⟩, fun _ => ⟨0, 0⟩, 0⟩

/-- The errors the state machine tells apart with `errors.Is`:
`errutil.ErrNotFound` ("not found"), `errutil.ErrNoNextRollup` ("no next
rollup"), `errutil.ErrRollupForkMismatch` ("rollup fork mismatch"), and any
other error. -/
inductive HostError where
  | notFound
  | noNextRollup
  | rollupForkMismatch
  | other (msg : String)
  deriving DecidableEq, Repr

/-- What the host calls on the management contract of one L1 state:
`GetUniqueForkID` gives a rollup's fork id and the `LastSequenceNumber` of
its metadata, as the host reads it with `Uint64()`. -/
structure ManagementContract where
  getUniqueForkID : RollupNumber → Except String (ForkUniqueID × UInt64)
  isBundleAvailable : List Hash → Except String Bool

/-- An error of the enclave's `ExportCrossChainData`: the one the state
machine recognises as `errutil.ErrCrossChainBundleNoBatches`, or another. -/
inductive ExportError where
  | noBatches
  | other (msg : String)
  deriving DecidableEq, Repr

/-- `common.ExtCrossChainBundle`; the state machine itself reads only the
root hashes, the rest goes to the publisher whole. -/
structure ExtCrossChainBundle where
  crossChainRootHashes : List Hash
  deriving DecidableEq, Repr

/-- The L1 and enclave calls of one step: the management contract, whether
the contract library is a mock, the enclave's `ExportCrossChainData` and
the publisher's `PublishCrossChainBundle`. -/
structure L1Env where
  isMock : Bool
  contract : ManagementContract
  exportCrossChainData : UInt64 → UInt64 → Except ExportError ExtCrossChainBundle
  publishCrossChainBundle : ExtCrossChainBundle → RollupNumber → ForkUniqueID → Except String Unit

/-- `Publisher.GetBundleRangeFromManagementContract`: the fork id of the
rollup after `lastRollupNumber` and the range of batch sequence numbers it
covers, once the contract confirms that `lastRollupNumber` still has the
fork id `lastRollupUID`. The next rollup's number is the `uint64` sum. -/
def getBundleRangeFromManagementContract (env : L1Env) (lastRollupNumber : RollupNumber)
    (lastRollupUID : ForkUniqueID) : Except HostError (ForkUniqueID × UInt64 × UInt64) := do
  if env.isMock then
    throw (.other "bundle publishing unavailable for mocked environments")
  let (rollupUid, rollup) ← (env.contract.getUniqueForkID lastRollupNumber).mapError .other
  if rollupUid ≠ lastRollupUID then
    throw .rollupForkMismatch
  let fromSeqNo : UInt64 := if lastRollupNumber = 0 then 0 else rollup + 1
  let (nextRollupUID, nextRollup) ←
    (env.contract.getUniqueForkID (lastRollupNumber + 1)).mapError .other
  if nextRollupUID = 0 then
    throw .noNextRollup
  return (nextRollupUID, fromSeqNo, nextRollup)

/-- `GetRollupData`: the latest rollup, a rollup of the history, or
`ErrNotFound` past the latest one. -/
def CrossChainStateMachine.getRollupData (c : CrossChainStateMachine) (number : RollupNumber) :
    Except HostError RollupInfo :=
  if number = c.latestRollup.number then .ok c.latestRollup
  else if number > c.latestRollup.number then .error .notFound
  else .ok (c.rollupHistory number)

/-- The body of `PublishNextBundle` after its guard: `ok` on each of the
three paths that end with `c.currentRollup++` (the enclave has no batches
for the range, the bundle is already on the L1, it is published now), the
error otherwise. -/
def publishBundleOutcome (env : L1Env) (c : CrossChainStateMachine) : Except HostError Unit := do
  let (nextForkUID, begin, last) ← getBundleRangeFromManagementContract env c.currentRollup
    (c.rollupHistory c.currentRollup).forkUID
  let data ← c.getRollupData (c.currentRollup + 1)
  if data.forkUID ≠ nextForkUID then
    throw .rollupForkMismatch
  match env.exportCrossChainData begin last with
  | .error .noBatches => return ()
  | .error (.other e) => throw (.other e)
  | .ok bundle =>
    let alreadyPublished ←
      (env.contract.isBundleAvailable bundle.crossChainRootHashes).mapError .other
    if alreadyPublished then
      return ()
    (env.publishCrossChainBundle bundle data.number data.forkUID).mapError .other

/-- `PublishNextBundle`: nothing to do once the cursor has reached the
latest rollup; otherwise the cursor moves on exactly when the bundle of the
next rollup is settled. -/
def publishNextBundle (env : L1Env) (c : CrossChainStateMachine) :
    CrossChainStateMachine × Except HostError Unit :=
  if c.currentRollup ≥ c.latestRollup.number then (c, .ok ())
  else
    match publishBundleOutcome env c with
    | .ok () => ({ c with currentRollup := c.currentRollup + 1 }, .ok ())
    | .error e => (c, .error e)

/-- The last statement of `revertToLatestKnownCommonAncestorRollup`: a
cursor past the latest rollup is rolled back to it. -/
def rollbackCurrentRollup (c : CrossChainStateMachine) : CrossChainStateMachine :=
  if c.currentRollup > c.latestRollup.number then
    { c with currentRollup := c.latestRollup.number }
  else c

/-- The loop of `revertToLatestKnownCommonAncestorRollup` and what follows
it: while the contract's fork id `forkHash` differs from the latest
rollup's, step back to the history's entry at the `uint64` predecessor of
its number and read that rollup's fork id. A failed read returns at once,
without the rollback of the cursor. `none` is the loop out of fuel. -/
def revertLoop (contract : ManagementContract) (fuel : Nat) (c : CrossChainStateMachine)
    (forkHash : ForkUniqueID) : Option (CrossChainStateMachine × Except HostError Unit) :=
  if forkHash = c.latestRollup.forkUID then some (rollbackCurrentRollup c, .ok ())
  else
    match fuel with
    | 0 => none
    | fuel + 1 =>
      let c := { c with latestRollup := c.rollupHistory (c.latestRollup.number - 1) }
      match contract.getUniqueForkID c.latestRollup.number with
      | .error e => some (c, .error (.other e))
      | .ok (forkHash, _) => revertLoop contract fuel c forkHash

/-- `revertToLatestKnownCommonAncestorRollup`: read the latest rollup's fork
id, then run the loop. -/
def revertToLatestKnownCommonAncestorRollup (contract : ManagementContract) (fuel : Nat)
    (c : CrossChainStateMachine) : Option (CrossChainStateMachine × Except HostError Unit) :=
  match contract.getUniqueForkID c.latestRollup.number with
  | .error e => some (c, .error (.other e))
  | .ok (forkHash, _) => revertLoop contract fuel c forkHash

/-- `Synchronize`: append the rollup that follows the latest one, or
revert when the latest one is no longer on the contract's fork. -/
def synchronize (env : L1Env) (fuel : Nat) (c : CrossChainStateMachine) :
    Option (CrossChainStateMachine × Except HostError Unit) :=
  match getBundleRangeFromManagementContract env c.latestRollup.number c.latestRollup.forkUID with
  | .error .noNextRollup => some (c, .ok ())
  | .error .rollupForkMismatch => revertToLatestKnownCommonAncestorRollup env.contract fuel c
  | .error e => some (c, .error e)
  | .ok (forkUID, _, _) =>
    some ({ c with
      rollupHistory := Function.update c.rollupHistory c.latestRollup.number c.latestRollup
      latestRollup := ⟨forkUID, c.latestRollup.number + 1⟩ }, .ok ())

/-! ## The contract as a fork map -/

/-- A contract state that answers every read: a map from rollup number to
fork id and last sequence number, with rollup 0 at the zero fork id. -/
structure ForkMap where
  forkId : RollupNumber → ForkUniqueID
  lastSequenceNumber : RollupNumber → UInt64
  genesis : forkId 0 = 0

/-- `GetUniqueForkID` of the contract whose state is the map. -/
def ForkMap.read (m : ForkMap) (n : RollupNumber) : Except String (ForkUniqueID × UInt64) :=
  .ok (m.forkId n, m.lastSequenceNumber n)

section ForkMap

variable {env : L1Env} {m : ForkMap}

/-- Against a fork map, the bundle range call fails on a mock, reports a
mismatch when the map has another fork id for the last rollup, reports that
no rollup follows when the next number has the zero fork id, and returns the
next rollup's fork id and range otherwise. -/
theorem getBundleRangeFromManagementContract_of_read
    (hread : env.contract.getUniqueForkID = m.read) (n : RollupNumber) (uid : ForkUniqueID) :
    getBundleRangeFromManagementContract env n uid =
      if env.isMock then .error (.other "bundle publishing unavailable for mocked environments")
      else if m.forkId n ≠ uid then .error .rollupForkMismatch
      else if m.forkId (n + 1) = 0 then .error .noNextRollup
      else .ok (m.forkId (n + 1), if n = 0 then 0 else m.lastSequenceNumber n + 1,
        m.lastSequenceNumber (n + 1)) := by
  simp only [getBundleRangeFromManagementContract, hread, ForkMap.read, Except.mapError,
    Result.ok_bind]
  split_ifs <;> simp_all [Result.pure_eq_ok]

/-- A rollup the contract confirms to follow `n` has a nonzero fork id, so
its number `n + 1` does not wrap to rollup 0. -/
theorem getBundleRangeFromManagementContract_eq_ok
    (hread : env.contract.getUniqueForkID = m.read) {n : RollupNumber} {uid next : ForkUniqueID}
    {range : UInt64 × UInt64}
    (h : getBundleRangeFromManagementContract env n uid = .ok (next, range)) :
    next = m.forkId (n + 1) ∧ n + 1 ≠ 0 := by
  rw [getBundleRangeFromManagementContract_of_read hread] at h
  split_ifs at h with hmock hmis hnone <;> cases h <;>
    exact ⟨rfl, fun hwrap => hnone (by rw [hwrap, m.genesis])⟩

end ForkMap

/-! ## The invariant -/

/-- What the revert loop keeps of the state: below the latest rollup the
history is keyed by rollup number, and rollup 0, whether it is the latest
rollup or the history's first entry, has the zero fork id. -/
structure HistoryConsistent (c : CrossChainStateMachine) : Prop where
  history_number : ∀ i < c.latestRollup.number, (c.rollupHistory i).number = i
  genesis_latest : c.latestRollup.number = 0 → c.latestRollup.forkUID = 0
  genesis_history : 0 < c.latestRollup.number → (c.rollupHistory 0).forkUID = 0

/-- The state machine's invariant: a consistent history, and the cursor of
publication at or below the latest rollup. -/
structure Consistent (c : CrossChainStateMachine) : Prop extends HistoryConsistent c where
  current_le : c.currentRollup ≤ c.latestRollup.number

theorem newCrossChainStateMachine_consistent : Consistent newCrossChainStateMachine where
  history_number _ hi := absurd hi UInt64.not_lt_zero
  genesis_latest _ := rfl
  genesis_history h := absurd h UInt64.not_lt_zero
  current_le := UInt64.le_refl _

@[simp] theorem rollbackCurrentRollup_latestRollup (c : CrossChainStateMachine) :
    (rollbackCurrentRollup c).latestRollup = c.latestRollup := by
  unfold rollbackCurrentRollup
  split <;> rfl

@[simp] theorem rollbackCurrentRollup_rollupHistory (c : CrossChainStateMachine) :
    (rollbackCurrentRollup c).rollupHistory = c.rollupHistory := by
  unfold rollbackCurrentRollup
  split <;> rfl

/-- The history's consistency reads only the latest rollup and the history. -/
theorem HistoryConsistent.of_eq {c c' : CrossChainStateMachine} (hc : HistoryConsistent c)
    (hlatest : c'.latestRollup = c.latestRollup) (hhistory : c'.rollupHistory = c.rollupHistory) :
    HistoryConsistent c' := by
  constructor
  · rw [hlatest, hhistory]
    exact hc.history_number
  · rw [hlatest]
    exact hc.genesis_latest
  · rw [hlatest, hhistory]
    exact hc.genesis_history

/-- The rollback at the end of a revert restores the cursor's bound. -/
theorem HistoryConsistent.rollback {c : CrossChainStateMachine} (hc : HistoryConsistent c) :
    Consistent (rollbackCurrentRollup c) where
  toHistoryConsistent :=
    hc.of_eq (rollbackCurrentRollup_latestRollup c) (rollbackCurrentRollup_rollupHistory c)
  current_le := by
    unfold rollbackCurrentRollup
    split
    · exact UInt64.le_refl _
    · exact UInt64.not_lt.mp ‹_›

section Revert

variable {contract : ManagementContract} {m : ForkMap} {c : CrossChainStateMachine}

/-- The history's entry before a latest rollup other than rollup 0 carries
the number before it. -/
theorem HistoryConsistent.number_pred (hc : HistoryConsistent c) (hn : c.latestRollup.number ≠ 0) :
    (c.rollupHistory (c.latestRollup.number - 1)).number = c.latestRollup.number - 1 :=
  hc.history_number _ (by grind)

/-- One round of the revert loop keeps the history consistent: the rollup it
steps back to lies below the one it leaves. -/
theorem HistoryConsistent.stepBack (hc : HistoryConsistent c) (hn : c.latestRollup.number ≠ 0) :
    HistoryConsistent { c with latestRollup := c.rollupHistory (c.latestRollup.number - 1) } := by
  have hpos : 0 < c.latestRollup.number := by grind
  have hpred := hc.number_pred hn
  constructor
  · intro i hi
    exact hc.history_number i (by grind)
  · intro h0
    change (c.rollupHistory (c.latestRollup.number - 1)).number = 0 at h0
    show (c.rollupHistory (c.latestRollup.number - 1)).forkUID = 0
    rw [hpred] at h0
    rw [h0]
    exact hc.genesis_history hpos
  · intro _
    exact hc.genesis_history hpos

/-- The loop never steps back from rollup 0: the contract gives it the zero
fork id, which is the one the machine holds for it. -/
theorem HistoryConsistent.number_ne_zero (hc : HistoryConsistent c) {forkHash : ForkUniqueID}
    (hfork : forkHash = m.forkId c.latestRollup.number) (hne : forkHash ≠ c.latestRollup.forkUID) :
    c.latestRollup.number ≠ 0 := by
  intro h0
  apply hne
  rw [hfork, h0, m.genesis, hc.genesis_latest h0]

theorem revertLoop_of_eq {fuel : Nat} {forkHash : ForkUniqueID}
    (h : forkHash = c.latestRollup.forkUID) :
    revertLoop contract fuel c forkHash = some (rollbackCurrentRollup c, .ok ()) := by
  rw [revertLoop.eq_def]
  rw [if_pos h]

theorem revertLoop_zero_of_ne {forkHash : ForkUniqueID} (h : forkHash ≠ c.latestRollup.forkUID) :
    revertLoop contract 0 c forkHash = none := by
  rw [revertLoop.eq_def]
  rw [if_neg h]

/-- Against a fork map, a round of the loop reads the fork id of the rollup
it steps back to and goes on. -/
theorem revertLoop_succ_of_ne (hread : contract.getUniqueForkID = m.read) {fuel : Nat}
    {forkHash : ForkUniqueID} (h : forkHash ≠ c.latestRollup.forkUID) :
    revertLoop contract (fuel + 1) c forkHash =
      revertLoop contract fuel { c with latestRollup := c.rollupHistory (c.latestRollup.number - 1) }
        (m.forkId (c.rollupHistory (c.latestRollup.number - 1)).number) := by
  rw [revertLoop.eq_def]
  rw [if_neg h]
  simp only [hread, ForkMap.read]

/-- Where the loop stops, the latest rollup has the contract's fork id and
the rollback leaves a consistent state. -/
theorem HistoryConsistent.revertLoop_exit (hc : HistoryConsistent c) {forkHash : ForkUniqueID}
    (hfork : forkHash = m.forkId c.latestRollup.number) (hmatch : forkHash = c.latestRollup.forkUID) :
    Consistent (rollbackCurrentRollup c) ∧
      (rollbackCurrentRollup c).latestRollup.forkUID =
        m.forkId (rollbackCurrentRollup c).latestRollup.number := by
  refine ⟨hc.rollback, ?_⟩
  rw [rollbackCurrentRollup_latestRollup, ← hmatch, hfork]

/-- A revert loop that returns, with any fuel, has succeeded: the latest
rollup it stops at has the contract's fork id and the state is consistent. -/
theorem revertLoop_consistent (hread : contract.getUniqueForkID = m.read) {fuel : Nat}
    {forkHash : ForkUniqueID} {c' : CrossChainStateMachine} {r : Except HostError Unit}
    (hc : HistoryConsistent c) (hfork : forkHash = m.forkId c.latestRollup.number)
    (h : revertLoop contract fuel c forkHash = some (c', r)) :
    r = .ok () ∧ Consistent c' ∧ c'.latestRollup.forkUID = m.forkId c'.latestRollup.number := by
  -- induction on the fuel; the history consistency is the loop's invariant
  induction fuel generalizing c forkHash with
  | zero =>
    by_cases hmatch : forkHash = c.latestRollup.forkUID
    · rw [revertLoop_of_eq hmatch] at h
      cases h
      exact ⟨rfl, hc.revertLoop_exit hfork hmatch⟩
    · rw [revertLoop_zero_of_ne hmatch] at h
      cases h
  | succ fuel ih =>
    by_cases hmatch : forkHash = c.latestRollup.forkUID
    · rw [revertLoop_of_eq hmatch] at h
      cases h
      exact ⟨rfl, hc.revertLoop_exit hfork hmatch⟩
    · rw [revertLoop_succ_of_ne hread hmatch] at h
      exact ih (hc.stepBack (hc.number_ne_zero hfork hmatch)) rfl h

/-- The revert loop returns within as many rounds as the latest rollup's
number: each round steps down by one, and rollup 0 always matches. -/
theorem revertLoop_isSome (hread : contract.getUniqueForkID = m.read) {fuel : Nat}
    {forkHash : ForkUniqueID} (hc : HistoryConsistent c)
    (hfork : forkHash = m.forkId c.latestRollup.number) (hfuel : c.latestRollup.number.toNat ≤ fuel) :
    (revertLoop contract fuel c forkHash).isSome := by
  induction fuel generalizing c forkHash with
  | zero =>
    have hmatch : forkHash = c.latestRollup.forkUID := by
      by_contra hne
      have hn := hc.number_ne_zero hfork hne
      exact hn (UInt64.toNat_inj.mp (by simpa using hfuel))
    rw [revertLoop_of_eq hmatch]
    rfl
  | succ fuel ih =>
    by_cases hmatch : forkHash = c.latestRollup.forkUID
    · rw [revertLoop_of_eq hmatch]
      rfl
    · have hn := hc.number_ne_zero hfork hmatch
      have hpred := hc.number_pred hn
      rw [revertLoop_succ_of_ne hread hmatch]
      refine ih (hc.stepBack hn) rfl ?_
      have h1 : 1 ≤ c.latestRollup.number := by grind
      show (c.rollupHistory (c.latestRollup.number - 1)).number.toNat ≤ fuel
      rw [hpred, UInt64.toNat_sub_of_le _ _ h1]
      simp only [UInt64.toNat_one]
      omega

/-- Against a fork map, the revert reads the latest rollup's fork id from the
map and runs the loop from there. -/
theorem revertToLatestKnownCommonAncestorRollup_of_read (hread : contract.getUniqueForkID = m.read)
    (fuel : Nat) (c : CrossChainStateMachine) :
    revertToLatestKnownCommonAncestorRollup contract fuel c =
      revertLoop contract fuel c (m.forkId c.latestRollup.number) := by
  simp only [revertToLatestKnownCommonAncestorRollup, hread, ForkMap.read]

end Revert

/-! ## Publishing and synchronizing -/

/-- `PublishNextBundle` leaves the state alone, or moves a cursor that is
below the latest rollup on by one. -/
theorem publishNextBundle_fst (env : L1Env) (c : CrossChainStateMachine) :
    (publishNextBundle env c).1 = c ∨
      (c.currentRollup < c.latestRollup.number ∧
        (publishNextBundle env c).1 = { c with currentRollup := c.currentRollup + 1 }) := by
  unfold publishNextBundle
  split
  case isTrue => exact .inl rfl
  case isFalse hbelow =>
    split
    · exact .inr ⟨UInt64.not_le.mp hbelow, rfl⟩
    · exact .inl rfl

theorem publishNextBundle_consistent (env : L1Env) {c : CrossChainStateMachine}
    (hc : Consistent c) : Consistent (publishNextBundle env c).1 := by
  rcases publishNextBundle_fst env c with hsame | ⟨hbelow, hmove⟩
  · rw [hsame]
    exact hc
  · rw [hmove]
    exact ⟨hc.toHistoryConsistent.of_eq rfl rfl, by grind⟩

/-- Appending the rollup that follows the latest one keeps the state
consistent, as long as its number does not wrap to rollup 0. -/
theorem Consistent.append {c : CrossChainStateMachine} (hc : Consistent c)
    (hwrap : c.latestRollup.number + 1 ≠ 0) (forkUID : ForkUniqueID) :
    Consistent { c with
      rollupHistory := Function.update c.rollupHistory c.latestRollup.number c.latestRollup
      latestRollup := ⟨forkUID, c.latestRollup.number + 1⟩ } := by
  refine ⟨⟨?_, fun h => absurd h hwrap, fun _ => ?_⟩, UInt64.le_trans hc.current_le (by grind)⟩
  · -- below the new latest rollup: the old latest rollup, or the old history
    intro i hi
    change i < c.latestRollup.number + 1 at hi
    show (Function.update c.rollupHistory c.latestRollup.number c.latestRollup i).number = i
    by_cases hin : i = c.latestRollup.number
    · rw [hin, Function.update_self]
    · rw [Function.update_of_ne hin]
      exact hc.history_number i (by grind)
  · change (Function.update c.rollupHistory c.latestRollup.number c.latestRollup 0).forkUID = 0
    by_cases h0 : c.latestRollup.number = 0
    · rw [← h0, Function.update_self]
      exact hc.genesis_latest h0
    · rw [Function.update_of_ne (Ne.symm h0)]
      exact hc.genesis_history (by grind)

section Synchronize

variable {env : L1Env} {m : ForkMap} {c c' : CrossChainStateMachine} {fuel : Nat}
  {r : Except HostError Unit}

theorem synchronize_consistent (hread : env.contract.getUniqueForkID = m.read)
    (hc : Consistent c) (h : synchronize env fuel c = some (c', r)) : Consistent c' := by
  unfold synchronize at h
  split at h
  case h_1 =>
    cases h
    exact hc
  case h_2 =>
    rw [revertToLatestKnownCommonAncestorRollup_of_read hread] at h
    exact (revertLoop_consistent hread hc.toHistoryConsistent rfl h).2.1
  case h_3 =>
    cases h
    exact hc
  case h_4 forkUID _ _ hrange =>
    cases h
    exact hc.append (getBundleRangeFromManagementContract_eq_ok hread hrange).2 forkUID

end Synchronize

/-! ## Runs -/

/-- One call of the state machine against the L1 of the moment. A
`Synchronize` reads a contract that answers from a fork map, which may be
another one at every step; `PublishNextBundle` may meet any L1 and enclave.
The revert is also a step of its own, beside the branch `Synchronize` takes
on a fork mismatch. -/
inductive Step : CrossChainStateMachine → CrossChainStateMachine → Prop where
  | synchronize {c c' : CrossChainStateMachine} (env : L1Env) (m : ForkMap) (fuel : Nat)
      (r : Except HostError Unit) (hread : env.contract.getUniqueForkID = m.read)
      (h : synchronize env fuel c = some (c', r)) : Step c c'
  | publishNextBundle {c : CrossChainStateMachine} (env : L1Env) :
      Step c (publishNextBundle env c).1
  | revert {c c' : CrossChainStateMachine} (contract : ManagementContract) (m : ForkMap)
      (fuel : Nat) (r : Except HostError Unit) (hread : contract.getUniqueForkID = m.read)
      (h : revertToLatestKnownCommonAncestorRollup contract fuel c = some (c', r)) : Step c c'

/-- The states a freshly made state machine can reach. -/
def Reachable (c : CrossChainStateMachine) : Prop :=
  Relation.ReflTransGen Step newCrossChainStateMachine c

theorem step_consistent {c c' : CrossChainStateMachine} (hstep : Step c c') (hc : Consistent c) :
    Consistent c' := by
  cases hstep with
  | synchronize env m fuel r hread h => exact synchronize_consistent hread hc h
  | publishNextBundle env => exact publishNextBundle_consistent env hc
  | revert contract m fuel r hread h =>
    rw [revertToLatestKnownCommonAncestorRollup_of_read hread] at h
    exact (revertLoop_consistent hread hc.toHistoryConsistent rfl h).2.1

theorem Reachable.consistent {c : CrossChainStateMachine} (hc : Reachable c) : Consistent c := by
  induction hc with
  | refl => exact newCrossChainStateMachine_consistent
  | tail _ hstep ih => exact step_consistent hstep ih

theorem crossChainStateMachine_consistent {c : CrossChainStateMachine} (hc : Reachable c) :
    c.currentRollup ≤ c.latestRollup.number ∧
      (∀ i < c.latestRollup.number, (c.rollupHistory i).number = i) ∧
      ∀ (contract : ManagementContract) (m : ForkMap), contract.getUniqueForkID = m.read →
        ∃ c', revertToLatestKnownCommonAncestorRollup contract c.latestRollup.number.toNat c =
            some (c', .ok ()) ∧
          c'.latestRollup.forkUID = m.forkId c'.latestRollup.number := by
  have hcons := hc.consistent
  refine ⟨hcons.current_le, hcons.history_number, fun contract m hread => ?_⟩
  rw [revertToLatestKnownCommonAncestorRollup_of_read hread]
  -- the loop returns with this much fuel, and what it returns is a success
  obtain ⟨⟨c', r⟩, hrun⟩ := Option.isSome_iff_exists.mp
    (revertLoop_isSome hread hcons.toHistoryConsistent rfl (le_refl _))
  obtain ⟨rfl, -, hfork⟩ := revertLoop_consistent hread hcons.toHistoryConsistent rfl hrun
  exact ⟨c', hrun, hfork⟩

/-- A contract with one rollup after genesis, of fork id 1. -/
def oneRollupForkMap : ForkMap :=
  ⟨fun n => if n = 1 then 1 else 0, fun _ => 0, rfl⟩

/-- An L1 whose contract is `oneRollupForkMap`. -/
def oneRollupEnv : L1Env :=
  ⟨false, ⟨oneRollupForkMap.read, fun _ => .ok false⟩, fun _ _ => .ok ⟨[]⟩, fun _ _ _ => .ok ()⟩

/-- The state after the first rollup is synchronized. -/
def firstRollupState : CrossChainStateMachine :=
  ⟨⟨1, 1⟩, Function.update (fun _ => ⟨0, 0⟩) 0 ⟨0, 0⟩, 0⟩

theorem crossChainStateMachine_consistent_firstRollup :
    Reachable firstRollupState ∧
      firstRollupState.currentRollup ≤ firstRollupState.latestRollup.number ∧
      (∀ i < firstRollupState.latestRollup.number, (firstRollupState.rollupHistory i).number = i) ∧
      ∀ (contract : ManagementContract) (m : ForkMap), contract.getUniqueForkID = m.read →
        ∃ c', revertToLatestKnownCommonAncestorRollup contract
            firstRollupState.latestRollup.number.toNat firstRollupState = some (c', .ok ()) ∧
          c'.latestRollup.forkUID = m.forkId c'.latestRollup.number :=
  have hreach : Reachable firstRollupState :=
    .single (.synchronize oneRollupEnv oneRollupForkMap 0 (.ok ()) rfl rfl)
  ⟨hreach, crossChainStateMachine_consistent hreach⟩

end GoTen.Host.StateMachine
