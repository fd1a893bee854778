import GoTen.Host.BatchRepository

/-!
# The host's view of its enclave (`go/host/enclave/state.go`)

The guardian of a host keeps a `StateTracker`: the status code and the L1
and L2 heads the enclave last reported or was last fed, and the heads of the
L1 and L2 chains the host has seen. Its `status` decides what the guardian's
main loop does next: wait, provide the secret, feed L1 blocks, feed L2
batches, or nothing. The status is recomputed when the enclave's side
changes and not when a block or a batch arrives from outside, so that it
does not flicker between catch-up and live; `OnDisconnected` overrides it.

Each method runs under the tracker's mutex, so a run of the guardian's
goroutines is a sequence of calls. Over every sequence the status is what
`calculateStatus` gives on the enclave's fields and the host heads of the
last recompute (`Calculated`). The guardian itself calls `OnProcessedBlock`
and `OnSecretProvided` only after it saw a status other than
`Disconnected`, and passes on only statuses its RPC client built, whose L2
head is never nil (`GuardianStep`).

## Main results

* `reachable_upToDate`: in every run, a tracker that says the enclave is up
  to date, or in sync with L1, has a running enclave whose heads are set.
* `guardianReachable_nextL2Head`: in every run of the guardian, the L2
  catch-up finds the enclave's L2 head set, while the tracker alone allows
  a nil head there (`reachable_nextL2Head_nil`).
* `catchupWithL2_repository`: fed every batch up to the host's head, the L2
  catch-up ends with the tracker `Live` at that head.
-/

namespace GoTen.Host.EnclaveState

open GoTen.Common
open GoTen.Common.Converters
open GoTen.Verified.BigInt
open GoTen.Host.BatchListing
open GoTen.Host.BatchRepository

/-- `Status`: the status of the enclave from the host's side. -/
inductive Status
  | live
  | disconnected
  | unavailable
  | awaitingSecret
  | l1Catchup
  | l2Catchup
  deriving DecidableEq, Repr

/-- `common.StatusCode`, a Go `int`. -/
abbrev StatusCode := Int

/-- `common.Running`. -/
def StatusCode.running : StatusCode := 0

/-- `common.AwaitingSecret`. -/
def StatusCode.awaitingSecret : StatusCode := 1

/-- `common.Unavailable`. -/
def StatusCode.unavailable : StatusCode := 2

/-- `gethutil.EmptyHash`. -/
def emptyHash : Hash := 0

/-- `common.Status`: what the enclave reports; a nil `L2Head` is `none`. -/
structure EnclaveStatus where
  statusCode : StatusCode
  l1Head : Hash
  l2Head : Option Nat
  deriving DecidableEq, Repr

/-- The status `Client.Status` returns when the call succeeds: the L2 head is
`big.NewInt(0).SetBytes(response.L2Head)`, never nil. -/
def clientStatus (statusCode : Int) (l1Head : Hash) (l2Head : Nat) : EnclaveStatus :=
  ⟨statusCode, l1Head, some l2Head⟩

/-- `StateTracker`, without its mutex and logger. A nil `*big.Int` head is
`none`. -/
structure StateTracker where
  status : Status
  enclaveStatusCode : StatusCode
  enclaveL1Head : Hash
  enclaveL2Head : Option Nat
  hostL1Head : Hash
  hostL2Head : Option Nat
  deriving DecidableEq, Repr

/-- `NewStateTracker`: the status code starts at its zero value, `Running`. -/
def newStateTracker : StateTracker :=
  ⟨.disconnected, 0, emptyHash, none, emptyHash, none⟩

namespace StateTracker

variable (s : StateTracker)

/-- `calculateStatus`. The default branch logs an unknown status code. -/
def calculateStatus : Status :=
  if s.enclaveStatusCode = StatusCode.awaitingSecret then .awaitingSecret
  else if s.enclaveStatusCode = StatusCode.unavailable then .unavailable
  else if s.enclaveStatusCode = StatusCode.running then
    if s.hostL1Head ≠ s.enclaveL1Head ∨ s.enclaveL1Head = emptyHash then .l1Catchup
    else
      match s.hostL2Head, s.enclaveL2Head with
      | some host, some encl => if encl = 0 ∨ host > encl then .l2Catchup else .live
      | _, _ => .l2Catchup
  else .unavailable

/-- `setStatus`, without its log line. -/
def setStatus (newStatus : Status) : StateTracker :=
  if s.status = newStatus then s else { s with status := newStatus }

/-- The status recomputed from the fields. -/
def recompute : StateTracker := s.setStatus s.calculateStatus

/-- `OnProcessedBlock`. -/
def onProcessedBlock (enclL1Head : Hash) : StateTracker :=
  { s with enclaveL1Head := enclL1Head }.recompute

/-- `OnReceivedBlock`. -/
def onReceivedBlock (l1Head : Hash) : StateTracker :=
  { s with hostL1Head := l1Head }

/-- `OnProcessedBatch`. -/
def onProcessedBatch (enclL2HeadSeqNo : Nat) : StateTracker :=
  { s with enclaveL2Head := some enclL2HeadSeqNo }.recompute

/-- `OnReceivedBatch`. -/
def onReceivedBatch (l2HeadSeqNo : Nat) : StateTracker :=
  { s with hostL2Head := some l2HeadSeqNo }

/-- `OnSecretProvided`. -/
def onSecretProvided : StateTracker :=
  (if s.enclaveStatusCode = StatusCode.awaitingSecret then
    { s with enclaveStatusCode := StatusCode.running } else s).recompute

/-- `OnEnclaveStatus`: an empty L1 head does not replace the one known. -/
def onEnclaveStatus (es : EnclaveStatus) : StateTracker :=
  { s with
    enclaveStatusCode := es.statusCode
    enclaveL1Head := if es.l1Head ≠ emptyHash then es.l1Head else s.enclaveL1Head
    enclaveL2Head := es.l2Head }.recompute

/-- `OnDisconnected`. -/
def onDisconnected : StateTracker := s.setStatus .disconnected

/-- `InSyncWithL1`. -/
def inSyncWithL1 : Bool := s.status = .live || s.status = .l2Catchup

/-- `IsUpToDate`. -/
def isUpToDate : Bool := s.status = .live

/-- The batch `catchupWithL2` asks for next: `prevHead.Add(prevHead,
big.NewInt(1))` on `GetEnclaveL2Head()`, which panics on a nil head. -/
def nextL2Head : Except Failure Nat :=
  match s.enclaveL2Head with
  | some prevHead => .ok (prevHead + 1)
  | none => .error nilDereference

end StateTracker

/-! ## What one call does -/

namespace StateTracker

variable {s : StateTracker}

@[simp] theorem setStatus_status (s : StateTracker) (newStatus : Status) :
    (s.setStatus newStatus).status = newStatus := by
  unfold setStatus
  split <;> simp_all

/-- Setting the status is `{ s with status := newStatus }`, also where
`setStatus` returns early. -/
theorem setStatus_eq (s : StateTracker) (newStatus : Status) :
    s.setStatus newStatus = { s with status := newStatus } := by
  unfold setStatus
  split
  · rename_i h
    rw [← h]
  · rfl

@[simp] theorem setStatus_enclaveStatusCode (s : StateTracker) (newStatus : Status) :
    (s.setStatus newStatus).enclaveStatusCode = s.enclaveStatusCode := by
  rw [setStatus_eq]

@[simp] theorem setStatus_enclaveL1Head (s : StateTracker) (newStatus : Status) :
    (s.setStatus newStatus).enclaveL1Head = s.enclaveL1Head := by
  rw [setStatus_eq]

@[simp] theorem setStatus_enclaveL2Head (s : StateTracker) (newStatus : Status) :
    (s.setStatus newStatus).enclaveL2Head = s.enclaveL2Head := by
  rw [setStatus_eq]

@[simp] theorem setStatus_hostL1Head (s : StateTracker) (newStatus : Status) :
    (s.setStatus newStatus).hostL1Head = s.hostL1Head := by
  rw [setStatus_eq]

@[simp] theorem setStatus_hostL2Head (s : StateTracker) (newStatus : Status) :
    (s.setStatus newStatus).hostL2Head = s.hostL2Head := by
  rw [setStatus_eq]

theorem recompute_eq (s : StateTracker) :
    s.recompute = { s with status := s.calculateStatus } :=
  setStatus_eq s _

/-- `calculateStatus` does not read the status. -/
@[simp] theorem calculateStatus_status (s : StateTracker) (status : Status) :
    ({ s with status := status } : StateTracker).calculateStatus = s.calculateStatus := rfl

/-- A `Live` status: a running enclave whose L1 head is set and is the host's,
and whose L2 head is set, nonzero and at least the host's. -/
theorem calculateStatus_eq_live (s : StateTracker) :
    s.calculateStatus = .live ↔ s.enclaveStatusCode = StatusCode.running ∧
      s.hostL1Head = s.enclaveL1Head ∧ s.enclaveL1Head ≠ emptyHash ∧
      ∃ host encl, s.hostL2Head = some host ∧ s.enclaveL2Head = some encl ∧
        encl ≠ 0 ∧ host ≤ encl := by
  unfold calculateStatus
  rcases s with ⟨status, code, encl1, encl2, host1, host2⟩
  simp only [StatusCode.running, StatusCode.awaitingSecret, StatusCode.unavailable]
  by_cases h1 : code = 1
  · simp [h1]
  by_cases h2 : code = 2
  · simp [h2]
  by_cases h0 : code = 0
  · subst h0
    by_cases hl1 : host1 ≠ encl1 ∨ encl1 = emptyHash
    · simp only [h1, h2, ↓reduceIte, hl1]
      constructor
      · intro h
        cases h
      · rintro ⟨-, heq, hne, -⟩
        rcases hl1 with hl1 | hl1 <;> contradiction
    · simp only [h1, h2, ↓reduceIte, hl1, true_and]
      simp only [not_or, ne_eq, not_not] at hl1
      refine ⟨?_, ?_⟩
      · intro h
        refine ⟨hl1.1, hl1.2, ?_⟩
        split at h
        · rename_i host encl
          by_cases hbehind : encl = 0 ∨ host > encl
          · rw [if_pos hbehind] at h
            cases h
          · exact ⟨host, encl, rfl, rfl, by omega, by omega⟩
        · cases h
      · rintro ⟨-, -, host, encl, rfl, rfl, hne, hle⟩
        simp only
        rw [if_neg (by omega)]
  · simp [h1, h2, h0]

/-- `InSyncWithL1` and the other statuses of the `Running` branch need a
running enclave whose L1 head is set. -/
theorem calculateStatus_of_inSync (s : StateTracker)
    (h : s.calculateStatus = .live ∨ s.calculateStatus = .l2Catchup) :
    s.enclaveStatusCode = StatusCode.running ∧ s.enclaveL1Head ≠ emptyHash := by
  unfold calculateStatus at h
  split_ifs at h with h1 h2 h3 h4 <;> simp_all

/-- The L2 head `calculateStatus` compares, for a running enclave that has
the host's L1 head. -/
theorem calculateStatus_of_synced {host : Nat} (hcode : s.enclaveStatusCode = StatusCode.running)
    (hl1 : s.hostL1Head = s.enclaveL1Head) (hset : s.enclaveL1Head ≠ emptyHash)
    (hl2 : s.hostL2Head = some host) (encl : Nat) :
    ({ s with enclaveL2Head := some encl } : StateTracker).calculateStatus =
      if encl = 0 ∨ host > encl then .l2Catchup else .live := by
  have h1 : StatusCode.running ≠ StatusCode.awaitingSecret := by decide
  have h2 : StatusCode.running ≠ StatusCode.unavailable := by decide
  simp only [calculateStatus, hcode, hl1, hset, hl2, h1, h2, ↓reduceIte, ne_eq, not_true_eq_false,
    or_self]

end StateTracker

/-! ## Every order of calls -/

/-- A call of one of the tracker's methods that change it. -/
inductive Call
  | processedBlock (enclL1Head : Hash)
  | receivedBlock (l1Head : Hash)
  | processedBatch (enclL2HeadSeqNo : Nat)
  | receivedBatch (l2HeadSeqNo : Nat)
  | secretProvided
  | enclaveStatus (es : EnclaveStatus)
  | disconnected
  deriving DecidableEq, Repr

/-- The tracker after a call. -/
def StateTracker.call (s : StateTracker) : Call → StateTracker
  | .processedBlock enclL1Head => s.onProcessedBlock enclL1Head
  | .receivedBlock l1Head => s.onReceivedBlock l1Head
  | .processedBatch enclL2HeadSeqNo => s.onProcessedBatch enclL2HeadSeqNo
  | .receivedBatch l2HeadSeqNo => s.onReceivedBatch l2HeadSeqNo
  | .secretProvided => s.onSecretProvided
  | .enclaveStatus es => s.onEnclaveStatus es
  | .disconnected => s.onDisconnected

/-- The trackers that some order of calls reaches from `NewStateTracker`. -/
def Reachable (s : StateTracker) : Prop :=
  Relation.ReflTransGen (fun s s' => ∃ c, s' = s.call c) newStateTracker s

/-- The status is `Disconnected`, or what `calculateStatus` gives on the
enclave's fields and some host heads, those of the last recompute. -/
def Calculated (s : StateTracker) : Prop :=
  s.status = .disconnected ∨ ∃ l1Head l2Head,
    s.status = ({ s with hostL1Head := l1Head, hostL2Head := l2Head } : StateTracker).calculateStatus

namespace Calculated

variable {s : StateTracker}

theorem recompute (s : StateTracker) : Calculated s.recompute := by
  refine .inr ⟨s.hostL1Head, s.hostL2Head, ?_⟩
  rw [StateTracker.recompute_eq]
  rfl

theorem onReceivedBlock (h : Calculated s) (l1Head : Hash) : Calculated (s.onReceivedBlock l1Head) := by
  rcases h with h | ⟨l1, l2, h⟩
  · exact .inl h
  · exact .inr ⟨l1, l2, h⟩

theorem onReceivedBatch (h : Calculated s) (l2HeadSeqNo : Nat) :
    Calculated (s.onReceivedBatch l2HeadSeqNo) := by
  rcases h with h | ⟨l1, l2, h⟩
  · exact .inl h
  · exact .inr ⟨l1, l2, h⟩

/-- Each call keeps the status calculated: the calls that change the
enclave's side recompute it, the others change only the host heads or set
`Disconnected`. -/
theorem call (h : Calculated s) : ∀ c : Call, Calculated (s.call c)
  | .processedBlock _ => recompute _
  | .receivedBlock l1Head => h.onReceivedBlock l1Head
  | .processedBatch _ => recompute _
  | .receivedBatch l2HeadSeqNo => h.onReceivedBatch l2HeadSeqNo
  | .secretProvided => recompute _
  | .enclaveStatus _ => recompute _
  | .disconnected => .inl (StateTracker.setStatus_status _ _)

theorem reachable (h : Reachable s) : Calculated s := by
  induction h with
  | refl => exact .inl rfl
  | tail _ hstep ih =>
    obtain ⟨c, rfl⟩ := hstep
    exact ih.call c

/-- A calculated `Live` status has a running enclave whose heads are set. -/
theorem live (h : Calculated s) (hlive : s.status = .live) :
    s.enclaveStatusCode = StatusCode.running ∧ s.enclaveL1Head ≠ emptyHash ∧
      ∃ n, s.enclaveL2Head = some n ∧ 0 < n := by
  rcases h with h | ⟨l1, l2, h⟩
  · rw [hlive] at h
    cases h
  · rw [hlive, eq_comm, StateTracker.calculateStatus_eq_live] at h
    obtain ⟨hcode, -, hset, -, encl, -, hencl, hne, -⟩ := h
    exact ⟨hcode, hset, encl, hencl, Nat.pos_of_ne_zero hne⟩

/-- A calculated status in sync with L1 has a running enclave whose L1 head
is set. -/
theorem inSync (h : Calculated s) (hsync : s.status = .live ∨ s.status = .l2Catchup) :
    s.enclaveStatusCode = StatusCode.running ∧ s.enclaveL1Head ≠ emptyHash := by
  rcases h with h | ⟨l1, l2, h⟩
  · rcases hsync with hsync | hsync <;> rw [hsync] at h <;> cases h
  · rw [h] at hsync
    exact StateTracker.calculateStatus_of_inSync { s with hostL1Head := l1, hostL2Head := l2 } hsync

end Calculated

/-- In every order of calls, a tracker that says the enclave is up to date
has a running enclave whose L1 head is set and whose L2 head is set and
nonzero; one that says it is in sync with L1 has a running enclave whose L1
head is set. -/
theorem reachable_upToDate {s : StateTracker} (h : Reachable s) :
    (s.isUpToDate = true → s.enclaveStatusCode = StatusCode.running ∧
        s.enclaveL1Head ≠ emptyHash ∧ ∃ n, s.enclaveL2Head = some n ∧ 0 < n) ∧
      (s.inSyncWithL1 = true →
        s.enclaveStatusCode = StatusCode.running ∧ s.enclaveL1Head ≠ emptyHash) := by
  have hcalc := Calculated.reachable h
  constructor
  · intro hup
    exact hcalc.live (by simpa [StateTracker.isUpToDate] using hup)
  · intro hsync
    exact hcalc.inSync (by simpa [StateTracker.inSyncWithL1] using hsync)

/-- The tracker after a secret, a block fed to the enclave and the same block
seen by the host. -/
theorem reachable_upToDate_fedBlock :
    let s := ((newStateTracker.onSecretProvided).onReceivedBlock 1).onProcessedBlock 1
    s.status = .l2Catchup ∧ (s.isUpToDate = true → s.enclaveStatusCode = StatusCode.running ∧
        s.enclaveL1Head ≠ emptyHash ∧ ∃ n, s.enclaveL2Head = some n ∧ 0 < n) ∧
      (s.inSyncWithL1 = true →
        s.enclaveStatusCode = StatusCode.running ∧ s.enclaveL1Head ≠ emptyHash) :=
  ⟨by decide, reachable_upToDate (((Relation.ReflTransGen.single ⟨.secretProvided, rfl⟩).tail
    ⟨.receivedBlock 1, rfl⟩).tail ⟨.processedBlock 1, rfl⟩)⟩

/-- The tracker in a run of the guardian, and whether its status has ever
left `Disconnected`. -/
structure Guardian where
  tracker : StateTracker
  leftDisconnected : Bool

/-- The guardian after a call left the tracker at `s`. -/
def Guardian.after (g : Guardian) (s : StateTracker) : Guardian :=
  ⟨s, g.leftDisconnected || s.status != .disconnected⟩

@[simp] theorem Guardian.after_tracker (g : Guardian) (s : StateTracker) :
    (g.after s).tracker = s := rfl

@[simp] theorem Guardian.after_leftDisconnected (g : Guardian) (s : StateTracker) :
    (g.after s).leftDisconnected = (g.leftDisconnected || s.status != .disconnected) := rfl

/-- One call of the guardian's goroutines into the tracker. `submitL1Block`
runs from `HandleBlock` after `InSyncWithL1`, or from `catchupWithL1` at
`L1Catchup`; `provideSecret` from the main loop at `AwaitingSecret`: each
after the goroutine saw a status other than `Disconnected`. Batches are
processed by `submitL2Batch` and `streamEnclaveData`, and statuses come from
`checkEnclaveStatus`. -/
inductive GuardianStep : Guardian → Guardian → Prop
  | handleBlock (g : Guardian) (l1Head : Hash) :
      GuardianStep g (g.after (g.tracker.onReceivedBlock l1Head))
  | submitL1Block (g : Guardian) (hleft : g.leftDisconnected = true) (block : Hash) :
      GuardianStep g (g.after (g.tracker.onProcessedBlock block))
  | handleBatch (g : Guardian) (seqNo : Nat) :
      GuardianStep g (g.after (g.tracker.onReceivedBatch seqNo))
  | processedBatch (g : Guardian) (seqNo : Nat) :
      GuardianStep g (g.after (g.tracker.onProcessedBatch seqNo))
  | provideSecret (g : Guardian) (hleft : g.leftDisconnected = true) :
      GuardianStep g (g.after g.tracker.onSecretProvided)
  | checkEnclaveStatus (g : Guardian) (statusCode : Int) (l1Head : Hash) (l2Head : Nat) :
      GuardianStep g (g.after (g.tracker.onEnclaveStatus (clientStatus statusCode l1Head l2Head)))
  | statusFailed (g : Guardian) : GuardianStep g (g.after g.tracker.onDisconnected)

/-- The states of the guardian's tracker from its start. -/
def GuardianReachable (g : Guardian) : Prop :=
  Relation.ReflTransGen GuardianStep ⟨newStateTracker, false⟩ g

/-- Once the status has left `Disconnected`, the enclave's L2 head is set. -/
structure HeadKnown (g : Guardian) : Prop where
  left : g.tracker.status ≠ .disconnected → g.leftDisconnected = true
  l2Head : g.leftDisconnected = true → g.tracker.enclaveL2Head.isSome

namespace HeadKnown

variable {g : Guardian}

theorem init : HeadKnown ⟨newStateTracker, false⟩ :=
  ⟨fun h => absurd rfl h, fun h => absurd h Bool.false_ne_true⟩

/-- A call that keeps the L2 head and the status keeps the invariant. -/
theorem frame (h : HeadKnown g) {s : StateTracker} (hstatus : s.status = g.tracker.status)
    (hl2 : s.enclaveL2Head = g.tracker.enclaveL2Head) : HeadKnown (g.after s) := by
  constructor
  · intro hne
    rw [Guardian.after_tracker] at hne
    simp [hne]
  · intro hleft
    rw [Guardian.after_tracker, hl2]
    by_cases hold : g.leftDisconnected = true
    · exact h.l2Head hold
    · simp only [Guardian.after_leftDisconnected, hold, Bool.false_or, bne_iff_ne, ne_eq,
        hstatus] at hleft
      exact h.l2Head (h.left hleft)

/-- A call, after the status left `Disconnected`, that keeps the L2 head
keeps the invariant. -/
theorem ofLeft (h : HeadKnown g) (hleft : g.leftDisconnected = true) {s : StateTracker}
    (hl2 : s.enclaveL2Head = g.tracker.enclaveL2Head) : HeadKnown (g.after s) := by
  constructor
  · intro _
    simp [hleft]
  · intro _
    rw [Guardian.after_tracker, hl2]
    exact h.l2Head hleft

/-- A call that sets the L2 head keeps the invariant. -/
theorem ofSome {s : StateTracker} (hl2 : s.enclaveL2Head.isSome) : HeadKnown (g.after s) := by
  constructor
  · intro hne
    rw [Guardian.after_tracker] at hne
    simp [hne]
  · intro _
    exact hl2

theorem step {g g' : Guardian} (h : HeadKnown g) (hstep : GuardianStep g g') : HeadKnown g' := by
  cases hstep with
  | handleBlock l1Head => exact h.frame rfl rfl
  | submitL1Block hleft block =>
    exact h.ofLeft hleft (by simp [StateTracker.onProcessedBlock, StateTracker.recompute])
  | handleBatch seqNo => exact h.frame rfl rfl
  | processedBatch seqNo =>
    exact ofSome (by simp [StateTracker.onProcessedBatch, StateTracker.recompute])
  | provideSecret hleft =>
    refine h.ofLeft hleft ?_
    simp only [StateTracker.onSecretProvided, StateTracker.recompute,
      StateTracker.setStatus_enclaveL2Head]
    split <;> rfl
  | checkEnclaveStatus statusCode l1Head l2Head =>
    exact ofSome (by simp [StateTracker.onEnclaveStatus, StateTracker.recompute, clientStatus])
  | statusFailed =>
    constructor
    · intro hne
      simp [StateTracker.onDisconnected] at hne
    · intro hleft
      have hold : g.leftDisconnected = true := by
        simpa [StateTracker.onDisconnected] using hleft
      simpa [StateTracker.onDisconnected] using h.l2Head hold

theorem reachable {g : Guardian} (h : GuardianReachable g) : HeadKnown g := by
  induction h with
  | refl => exact init
  | tail _ hstep ih => exact ih.step hstep

end HeadKnown

/-- In every run of the guardian, whenever the tracker says `L2Catchup`, the
enclave's L2 head is set, and `catchupWithL2` asks for the batch after it
instead of dereferencing a nil head. -/
theorem guardianReachable_nextL2Head {g : Guardian} (h : GuardianReachable g)
    (hstatus : g.tracker.status = .l2Catchup) :
    ∃ n, g.tracker.enclaveL2Head = some n ∧ g.tracker.nextL2Head = .ok (n + 1) := by
  have hknown := HeadKnown.reachable h
  have hleft := hknown.left (by rw [hstatus]; decide)
  obtain ⟨n, hn⟩ := Option.isSome_iff_exists.mp (hknown.l2Head hleft)
  refine ⟨n, hn, ?_⟩
  simp [StateTracker.nextL2Head, hn]

/-- The guardian's first status check of a running enclave at L1 block one
and batch zero, then the block seen and fed: the catch-up asks for batch
one. -/
theorem guardianReachable_nextL2Head_firstBatch :
    let g := ((((⟨newStateTracker, false⟩ : Guardian).after
      (newStateTracker.onEnclaveStatus (clientStatus 0 0 0))).after
      ((newStateTracker.onEnclaveStatus (clientStatus 0 0 0)).onReceivedBlock 1)).after
      (((newStateTracker.onEnclaveStatus (clientStatus 0 0 0)).onReceivedBlock 1).onProcessedBlock 1))
    g.tracker.status = .l2Catchup ∧
      ∃ n, g.tracker.enclaveL2Head = some n ∧ g.tracker.nextL2Head = .ok (n + 1) := by
  intro g
  have hreach : GuardianReachable g :=
    ((Relation.ReflTransGen.single (.checkEnclaveStatus _ 0 0 0)).tail (.handleBlock _ 1)).tail
      (.submitL1Block _ rfl 1)
  exact ⟨by decide, guardianReachable_nextL2Head hreach (by decide)⟩

/-! ## The L2 catch-up -/

/-- `catchupWithL2`, with `fuel` bounding its loop (`none` when it runs out)
and a host that is not stopping. `fetch` is the L2 repository's
`FetchBatchBySeqNo` and `submitBatch` the enclave client's `SubmitBatch`,
`none` when it succeeds; after it, `submitL2Batch` reports the batch's
sequence number with `OnProcessedBatch`. The result is the tracker and the
error the loop ended with. -/
def catchupWithL2 (isSequencer : Bool) (fetch : Nat → Except Failure ExtBatch)
    (submitBatch : ExtBatch → Option Failure) :
    Nat → StateTracker → Option (StateTracker × Option Failure)
  | 0, _ => none
  | fuel + 1, s =>
    if s.status = .l2Catchup then
      if isSequencer then some (s, some (.error "l2 catchup is not supported for sequencer"))
      else
        match s.nextL2Head with
        | .error f => some (s, some f)
        | .ok nextHead =>
          match fetch nextHead with
          | .error f => some (s, some (f.wrap "could not fetch next L2 batch: "))
          | .ok batch =>
            match submitBatch batch with
            | some f => some (s, some (f.wrap "could not submit L2 batch to enclave: "))
            | none =>
              match batch.header with
              | none => some (s, some nilDereference)
              | some header =>
                catchupWithL2 isSequencer fetch submitBatch fuel
                  (s.onProcessedBatch header.sequencerOrderNo)
    else some (s, none)

section CatchUp

variable {fetch : Nat → Except Failure ExtBatch} {submitBatch : ExtBatch → Option Failure}

theorem catchupWithL2_of_ne {s : StateTracker} (hstatus : s.status ≠ .l2Catchup)
    (isSequencer : Bool) (fuel : Nat) :
    catchupWithL2 isSequencer fetch submitBatch (fuel + 1) s = some (s, none) := by
  simp [catchupWithL2, hstatus]

/-- One pass of the loop: the batch after the enclave's head is fetched,
submitted and reported. -/
theorem catchupWithL2_feed {s : StateTracker} {e : Nat} {batch : ExtBatch} {header : BatchHeader}
    (hstatus : s.status = .l2Catchup) (he : s.enclaveL2Head = some e)
    (hfetch : fetch (e + 1) = .ok batch) (hsubmit : submitBatch batch = none)
    (hheader : batch.header = some header) (fuel : Nat) :
    catchupWithL2 false fetch submitBatch (fuel + 1) s =
      catchupWithL2 false fetch submitBatch fuel (s.onProcessedBatch header.sequencerOrderNo) := by
  simp [catchupWithL2, hstatus, StateTracker.nextL2Head, he, hfetch, hsubmit, hheader]

/-- A running enclave with the host's L1 head, set, and a host L2 head:
what the L2 catch-up keeps. -/
structure Synced (s : StateTracker) (host : Nat) : Prop where
  code : s.enclaveStatusCode = StatusCode.running
  l1Head : s.hostL1Head = s.enclaveL1Head
  l1Set : s.enclaveL1Head ≠ emptyHash
  l2Head : s.hostL2Head = some host

theorem Synced.onProcessedBatch {s : StateTracker} {host : Nat} (h : Synced s host) (k : Nat) :
    Synced (s.onProcessedBatch k) host := by
  simp only [StateTracker.onProcessedBatch, StateTracker.recompute]
  exact ⟨by simpa using h.code, by simpa using h.l1Head, by simpa using h.l1Set,
    by simpa using h.l2Head⟩

/-- The catch-up from the enclave's head `e` to the target `max host 1`,
`d` batches away: each pass feeds the next batch, and the loop stops at the
target with the tracker `Live`. -/
theorem catchupWithL2_run {host lo : Nat}
    (hbatches : ∀ k, lo < k → k ≤ max host 1 → ∃ batch header, fetch k = .ok batch ∧
      submitBatch batch = none ∧ batch.header = some header ∧ header.sequencerOrderNo = k) :
    ∀ d (s : StateTracker) e fuel, Synced s host → s.enclaveL2Head = some e →
      s.status = s.calculateStatus → lo ≤ e → e + d = max host 1 → d < fuel →
      catchupWithL2 false fetch submitBatch fuel s =
        some ({ s with enclaveL2Head := some (max host 1), status := .live }, none)
  | 0, s, e, fuel + 1, hsync, he, hcurrent, _, hdone, _ => by
    -- at the target the status is `Live` and the loop exits
    have hlive : s.calculateStatus = .live := by
      have hcalc := StateTracker.calculateStatus_of_synced hsync.code hsync.l1Head hsync.l1Set
        hsync.l2Head e
      rw [show ({ s with enclaveL2Head := some e } : StateTracker) = s by rw [← he]] at hcalc
      rw [hcalc, if_neg (by omega)]
    rw [catchupWithL2_of_ne (by rw [hcurrent, hlive]; decide)]
    have hst : s.status = .live := hcurrent.trans hlive
    rcases s with ⟨status, code, encl1, encl2, host1, host2⟩
    simp only at he hst
    subst he hst
    rw [show e = max host 1 by omega]
  | d + 1, s, e, fuel + 1, hsync, he, hcurrent, hlo, hdone, hfuel => by
    -- below the target the status is `L2Catchup` and batch `e + 1` is fed
    have hbehind : s.calculateStatus = .l2Catchup := by
      have hcalc := StateTracker.calculateStatus_of_synced hsync.code hsync.l1Head hsync.l1Set
        hsync.l2Head e
      rw [show ({ s with enclaveL2Head := some e } : StateTracker) = s by rw [← he]] at hcalc
      rw [hcalc, if_pos (by omega)]
    obtain ⟨batch, header, hfetch, hsubmit, hheader, hseq⟩ := hbatches (e + 1) (by omega) (by omega)
    rw [catchupWithL2_feed (hcurrent.trans hbehind) he hfetch hsubmit hheader, hseq]
    have hnext := catchupWithL2_run hbatches d (s.onProcessedBatch (e + 1)) (e + 1) fuel
      (hsync.onProcessedBatch (e + 1))
      (by simp [StateTracker.onProcessedBatch, StateTracker.recompute])
      (by rw [StateTracker.onProcessedBatch, StateTracker.recompute_eq]; rfl)
      (by omega) (by omega) (by omega)
    rw [hnext, StateTracker.onProcessedBatch, StateTracker.recompute_eq]

/-- A validator's L2 catch-up fed from its batch repository: when the
repository stores, under every sequence number after the enclave's head up
to the host's, the batch with that number and the enclave accepts each, the
loop ends without error with the tracker `Live` at the host's head, and
nothing else of the tracker changed. -/
theorem catchupWithL2_repository {s : StateTracker} {host e fuel : Nat} (r : Repository)
    (lookupBatchBySeqNo : Nat → Except Failure ExtBatch) (submitBatch : ExtBatch → Option Failure)
    (hsync : Synced s host) (he : s.enclaveL2Head = some e)
    (hcurrent : s.status = s.calculateStatus) (hle : e ≤ max host 1)
    (hstored : ∀ k, e < k → k ≤ max host 1 → ∃ row header,
      r.db.rowBySequence (uint64 k) = some row ∧ row.extBatch.header = some header ∧
        header.sequencerOrderNo = k ∧ submitBatch row.extBatch = none)
    (hfuel : max host 1 - e < fuel) :
    catchupWithL2 false (fun seqNo => (r.fetchBatchBySeqNo lookupBatchBySeqNo seqNo).1)
        submitBatch fuel s =
      some ({ s with enclaveL2Head := some (max host 1), status := .live }, none) := by
  have hbatches : ∀ k, e < k → k ≤ max host 1 → ∃ batch header,
      (r.fetchBatchBySeqNo lookupBatchBySeqNo k).1 = .ok batch ∧ submitBatch batch = none ∧
        batch.header = some header ∧ header.sequencerOrderNo = k := by
    intro k hlo hhi
    obtain ⟨row, header, hrow, hheader, hseq, hsubmit⟩ := hstored k hlo hhi
    refine ⟨row.extBatch, header, ?_, hsubmit, hheader, hseq⟩
    rw [Repository.fetchBatchBySeqNo_of_stored hrow]
  exact catchupWithL2_run hbatches (max host 1 - e) s e fuel hsync he hcurrent (Nat.le_refl e)
    (by omega) hfuel

/-- A validator whose enclave is at batch one and whose host has seen batch
three catches up from the repository on `threeBatchDb` in two passes. -/
theorem catchupWithL2_repository_threeBatches :
    let s : StateTracker := ⟨.l2Catchup, StatusCode.running, 1, some 1, 1, some 3⟩
    catchupWithL2 false
        (fun seqNo => ((newBatchRepository false threeBatchDb).fetchBatchBySeqNo
          (fun _ => .error errNotFound) seqNo).1) (fun _ => none) 3 s =
      some ({ s with enclaveL2Head := some (max 3 1), status := .live }, none) := by
  intro s
  have hstored : ∀ k : Nat, 1 < k → k ≤ max 3 1 → ∃ row header,
      threeBatchDb.rowBySequence (uint64 k) = some row ∧ row.extBatch.header = some header ∧
        header.sequencerOrderNo = k ∧ (fun _ => none : ExtBatch → Option Failure) row.extBatch = none := by
    intro k hlo hhi
    obtain rfl | rfl : k = 2 ∨ k = 3 := by omega
    · exact ⟨rowAt 2, headerAt 2, rfl, rfl, rfl, rfl⟩
    · exact ⟨rowAt 3, headerAt 3, rfl, rfl, rfl, rfl⟩
  exact catchupWithL2_repository (newBatchRepository false threeBatchDb) (fun _ => .error errNotFound)
    (fun _ => none) ⟨rfl, rfl, by decide, rfl⟩ rfl (by decide) (by decide) hstored (by decide)

end CatchUp

end GoTen.Host.EnclaveState
