import GoTen.Common.Types
import GoTen.Verified.GoMap

/-!
# The gateway's rate limiter (`tools/walletextension/ratelimiter`)

Every authenticated call of the gateway (`ExecAuthRPC`, `FilterAPI.GetLogs`)
asks `Allow` before it runs and calls `SetRequestEnd` when it returns.
`Allow` refuses a user who has `maxConcurrentRequests` requests open, or who
used more than `userComputeTime` in the last `window`, and otherwise records
a new open request. A background goroutine deletes the requests that ended
before the window (`PruneRequests`), and the users left with none.

`Allow` is not one critical section. It counts the open requests under a
read lock, sums the compute time under the limiter's lock, and records the
request in `AddRequest`, which finds or allocates the user under the
limiter's lock and writes the request under the user's own lock. The
handlers of concurrent calls interleave at each of these points.

The model has two levels. `RateLimiter.allow` is `Allow` run without
interruption. `System` holds the limiter and the handler goroutines, each
at a point between two lock sections (`Phase`); a step runs one section of
one handler, or the pruning goroutine. A `RateLimitUser` carries the
identity of its allocated object: a handler that holds the pointer writes
into that object, which may no longer be the user's.

## Main results

* `allow_serialRun`: `Allow` as one function is a run of its handler's lock
  sections one after the other.
* `countOpenRequests_pruneRequests`, `allow_pruneRequests`: pruning never
  changes what `Allow` decides, then or later.
* `countOpenRequests_le_of_serial`: when no handler checks the concurrency
  limit while another handler of its user is between its check and its
  write, no user ever has more than `maxConcurrentRequests` open requests.
* `concurrentAdmission`: with the interleavings the locks allow, any number
  of concurrent calls of one user are all admitted.
* `lostRequest`: a request admitted while `PruneRequests` deletes its
  freshly allocated user is written into the deleted object and never
  counted.
-/

namespace GoTen.WalletExtension.Ratelimiter

open GoTen.Common
open GoTen.Verified

/-- `uuid.UUID`. -/
abbrev UUID := BitVec 128

/-- `zeroUUID`, returned when no request is recorded. -/
def zeroUUID : UUID := 0

/-- `RequestInterval`; a `time.Time` is its nanoseconds, and `End` is nil
while the request runs. -/
structure RequestInterval where
  start : Int
  endTime : Option Int
  deriving DecidableEq, Repr

/-- `interval.End == nil`. -/
def RequestInterval.isOpen (interval : RequestInterval) : Bool := interval.endTime.isNone

/-- What one interval adds to `SumComputeTime` at `now`: its duration if it
ended after `cutoff`, its running time if it is open. -/
def RequestInterval.computeTime (cutoff now : Int) (interval : RequestInterval) : Int :=
  match interval.endTime with
  | some e => if cutoff < e then e - interval.start else 0
  | none => now - interval.start

/-- The intervals `PruneRequests` deletes: those that ended before `cutoff`. -/
def RequestInterval.endedBefore (cutoff : Int) (interval : RequestInterval) : Bool :=
  match interval.endTime with
  | some e => decide (e < cutoff)
  | none => false

/-- `RateLimitUser`; `ptr` names the allocated object. -/
structure RateLimitUser where
  ptr : Nat
  currentRequests : GoMap UUID RequestInterval

/-- `RateLimiter`; `allocated` counts the `RateLimitUser` objects allocated. -/
structure RateLimiter where
  users : Address → Option RateLimitUser
  userComputeTime : Int
  window : Int
  maxConcurrentRequests : UInt32
  totalRequests : UInt64
  rateLimitedRequests : UInt64
  allocated : Nat

/-- `NewRateLimiter`. -/
def newRateLimiter (rateLimitUserComputeTime rateLimitWindow : Int)
    (concurrentRequestsLimit : UInt32) : RateLimiter :=
  ⟨fun _ => none, rateLimitUserComputeTime, rateLimitWindow, concurrentRequestsLimit, 0, 0, 0⟩

namespace RateLimiter

variable (rl : RateLimiter)

/-- `IncrementTotalRequests`. -/
def incrementTotalRequests : RateLimiter := { rl with totalRequests := rl.totalRequests + 1 }

/-- `IncrementRateLimitedRequests`. -/
def incrementRateLimitedRequests : RateLimiter :=
  { rl with rateLimitedRequests := rl.rateLimitedRequests + 1 }

/-- The reset of the counters in `logRateLimitedStats`. -/
def resetStats : RateLimiter := { rl with totalRequests := 0, rateLimitedRequests := 0 }

/-- `CountOpenRequests`. -/
def countOpenRequests (userID : Address) : Nat :=
  match rl.users userID with
  | some user => user.currentRequests.countP RequestInterval.isOpen
  | none => 0

/-- `SumComputeTime` at `now`. -/
def sumComputeTime (userID : Address) (now : Int) : Int :=
  match rl.users userID with
  | some user => user.currentRequests.sumBy (RequestInterval.computeTime (now - rl.window) now)
  | none => 0

/-- The limiter with `users[userID] = user`. -/
def setUser (userID : Address) (user : RateLimitUser) : RateLimiter :=
  { rl with users := Function.update rl.users userID (some user) }

/-- The first lock section of `AddRequest`: the user's object, allocated if
the user has none. -/
def lookupOrCreateUser (userID : Address) : RateLimiter × Nat :=
  match rl.users userID with
  | some user => (rl, user.ptr)
  | none =>
    ({ rl.setUser userID ⟨rl.allocated, GoMap.empty⟩ with allocated := rl.allocated + 1 },
      rl.allocated)

/-- The second lock section of `AddRequest`: `CurrentRequests[id] = interval`
in the object `ptr`. An object that is no longer the user's is one that no
later call reaches, so the write is lost. -/
def insertRequest (userID : Address) (ptr : Nat) (id : UUID) (interval : RequestInterval) :
    RateLimiter :=
  match rl.users userID with
  | some user =>
    if user.ptr = ptr then
      rl.setUser userID { user with currentRequests := user.currentRequests.insert id interval }
    else rl
  | none => rl

/-- `AddRequest`, with `id` the value of `uuid.New()`. -/
def addRequest (userID : Address) (interval : RequestInterval) (id : UUID) : RateLimiter × UUID :=
  if rl.userComputeTime = 0 then (rl, zeroUUID)
  else
    let (rl', ptr) := rl.lookupOrCreateUser userID
    (rl'.insertRequest userID ptr id interval, id)

/-- `SetRequestEnd` at `now`. -/
def setRequestEnd (userID : Address) (id : UUID) (now : Int) : RateLimiter :=
  if rl.userComputeTime = 0 then rl
  else
    match rl.users userID with
    | some user =>
      match user.currentRequests.get? id with
      | some request =>
        let ended := { request with endTime := some now }
        rl.setUser userID { user with currentRequests := user.currentRequests.insert id ended }
      -- "Request with ID  not found for user."
      | none => rl
    -- "User not found while trying to update the request."
    | none => rl

/-- `Allow` at `now`, run without interruption; `id` is the value of
`uuid.New()` in its `AddRequest`. -/
def allow (userID : Address) (now : Int) (id : UUID) : RateLimiter × Bool × UUID :=
  if rl.userComputeTime = 0 then (rl, true, zeroUUID)
  else
    let rl := rl.incrementTotalRequests
    if UInt32.ofNat (rl.countOpenRequests userID) ≥ rl.maxConcurrentRequests then
      (rl.incrementRateLimitedRequests, false, zeroUUID)
    else if rl.sumComputeTime userID now > rl.userComputeTime then
      (rl.incrementRateLimitedRequests, false, zeroUUID)
    else
      let (rl, requestUUID) := rl.addRequest userID ⟨now, none⟩ id
      (rl, true, requestUUID)

/-- `PruneRequests` at `now`. -/
def pruneRequests (now : Int) : RateLimiter :=
  { rl with users := fun userID => (rl.users userID).bind fun user =>
      let requests := user.currentRequests.filter
        (fun _ interval => !interval.endedBefore (now - rl.window))
      if requests.size = 0 then none else some { user with currentRequests := requests } }

/-! ## What each operation does to the counts -/

@[simp] theorem maxConcurrentRequests_setUser (userID : Address) (user : RateLimitUser) :
    (rl.setUser userID user).maxConcurrentRequests = rl.maxConcurrentRequests := rfl

@[simp] theorem maxConcurrentRequests_incrementTotalRequests :
    rl.incrementTotalRequests.maxConcurrentRequests = rl.maxConcurrentRequests := rfl

@[simp] theorem userComputeTime_incrementTotalRequests :
    rl.incrementTotalRequests.userComputeTime = rl.userComputeTime := rfl

@[simp] theorem countOpenRequests_incrementTotalRequests (userID : Address) :
    rl.incrementTotalRequests.countOpenRequests userID = rl.countOpenRequests userID := rfl

@[simp] theorem countOpenRequests_incrementRateLimitedRequests (userID : Address) :
    rl.incrementRateLimitedRequests.countOpenRequests userID = rl.countOpenRequests userID := rfl

@[simp] theorem maxConcurrentRequests_resetStats :
    rl.resetStats.maxConcurrentRequests = rl.maxConcurrentRequests := rfl

@[simp] theorem maxConcurrentRequests_pruneRequests (now : Int) :
    (rl.pruneRequests now).maxConcurrentRequests = rl.maxConcurrentRequests := rfl

@[simp] theorem countOpenRequests_resetStats (userID : Address) :
    rl.resetStats.countOpenRequests userID = rl.countOpenRequests userID := rfl

theorem countOpenRequests_setUser (userID userID' : Address) (user : RateLimitUser) :
    (rl.setUser userID user).countOpenRequests userID' =
      if userID' = userID then user.currentRequests.countP RequestInterval.isOpen
      else rl.countOpenRequests userID' := by
  by_cases h : userID' = userID
  · subst h
    simp [countOpenRequests, setUser]
  · simp [countOpenRequests, setUser, h]

theorem maxConcurrentRequests_lookupOrCreateUser (userID : Address) :
    (rl.lookupOrCreateUser userID).1.maxConcurrentRequests = rl.maxConcurrentRequests := by
  unfold lookupOrCreateUser
  split <;> rfl

/-- A new user has no requests, so finding or allocating it counts nothing. -/
@[simp] theorem countOpenRequests_lookupOrCreateUser (userID userID' : Address) :
    (rl.lookupOrCreateUser userID).1.countOpenRequests userID' = rl.countOpenRequests userID' := by
  unfold lookupOrCreateUser
  cases huser : rl.users userID with
  | some user => rfl
  | none =>
    show (rl.setUser userID ⟨rl.allocated, GoMap.empty⟩).countOpenRequests userID' = _
    rw [countOpenRequests_setUser]
    split
    · subst userID'
      simp [countOpenRequests, huser]
    · rfl

theorem maxConcurrentRequests_insertRequest (userID : Address) (ptr : Nat) (id : UUID)
    (interval : RequestInterval) :
    (rl.insertRequest userID ptr id interval).maxConcurrentRequests = rl.maxConcurrentRequests := by
  unfold insertRequest
  split
  · split <;> rfl
  · rfl

/-- The write of `AddRequest` opens at most one request, of its own user. -/
theorem countOpenRequests_insertRequest_le (userID userID' : Address) (ptr : Nat) (id : UUID)
    (interval : RequestInterval) :
    (rl.insertRequest userID ptr id interval).countOpenRequests userID' ≤
      rl.countOpenRequests userID' + if userID = userID' then 1 else 0 := by
  unfold insertRequest
  cases huser : rl.users userID with
  | none => simp
  | some user =>
    by_cases hptr : user.ptr = ptr
    · simp only [hptr, if_true, countOpenRequests_setUser]
      by_cases hu : userID' = userID
      · subst hu
        have herase := user.currentRequests.countP_erase_le id RequestInterval.isOpen
        simp only [countOpenRequests, huser, GoMap.countP_insert, if_true]
        split <;> omega
      · simp [hu]
    · simp [hptr]

theorem maxConcurrentRequests_setRequestEnd (userID : Address) (id : UUID) (now : Int) :
    (rl.setRequestEnd userID id now).maxConcurrentRequests = rl.maxConcurrentRequests := by
  unfold setRequestEnd
  split
  · rfl
  · split
    · split <;> rfl
    · rfl

/-- `SetRequestEnd` closes a request or changes nothing. -/
theorem countOpenRequests_setRequestEnd_le (userID userID' : Address) (id : UUID) (now : Int) :
    (rl.setRequestEnd userID id now).countOpenRequests userID' ≤ rl.countOpenRequests userID' := by
  unfold setRequestEnd
  split
  · exact Nat.le_refl _
  · cases huser : rl.users userID with
    | none => exact Nat.le_refl _
    | some user =>
      cases hreq : user.currentRequests.get? id with
      | none => simp only [hreq]; exact Nat.le_refl _
      | some request =>
        simp only [hreq, countOpenRequests_setUser]
        by_cases hu : userID' = userID
        · subst hu
          have herase := user.currentRequests.countP_erase_le id RequestInterval.isOpen
          simp [countOpenRequests, huser, GoMap.countP_insert, RequestInterval.isOpen, herase]
        · simp [hu]

/-- An interval that `PruneRequests` deletes has ended. -/
theorem isOpen_of_endedBefore {cutoff : Int} {interval : RequestInterval}
    (h : interval.endedBefore cutoff = true) : interval.isOpen = false := by
  unfold RequestInterval.endedBefore at h
  unfold RequestInterval.isOpen
  split at h <;> simp_all

/-- Pruning deletes only ended requests, and users left with none: no open
request is lost. -/
theorem countOpenRequests_pruneRequests (now : Int) (userID : Address) :
    (rl.pruneRequests now).countOpenRequests userID = rl.countOpenRequests userID := by
  cases huser : rl.users userID with
  | none => simp [countOpenRequests, pruneRequests, huser]
  | some user =>
    have hkeep := @GoMap.countP_filter_of _ _ user.currentRequests
      (fun _ interval => !interval.endedBefore (now - rl.window))
      RequestInterval.isOpen (fun e _ he => isOpen_of_endedBefore (by simpa using he))
    by_cases hempty : (user.currentRequests.filter
        (fun _ interval => !interval.endedBefore (now - rl.window))).size = 0
    · have hzero := GoMap.countP_of_size_eq_zero hempty RequestInterval.isOpen
      simp only [countOpenRequests, pruneRequests, huser, Option.bind_some, hempty, if_true]
      omega
    · simp only [countOpenRequests, pruneRequests, huser, Option.bind_some, hempty, if_false]
      exact hkeep

/-- An interval that `PruneRequests` deleted adds nothing to a later sum. -/
theorem computeTime_of_endedBefore {cutoff cutoff' now : Int} {interval : RequestInterval}
    (h : interval.endedBefore cutoff = true) (hle : cutoff ≤ cutoff') :
    interval.computeTime cutoff' now = 0 := by
  unfold RequestInterval.endedBefore at h
  unfold RequestInterval.computeTime
  split at h
  · rename_i e he
    have hlt : ¬ cutoff' < e := by simp at h; omega
    simp [hlt]
  · simp at h

/-- `SumComputeTime` at any time from the pruning on does not see it. -/
theorem sumComputeTime_pruneRequests {now now' : Int} (hle : now ≤ now') (userID : Address) :
    (rl.pruneRequests now).sumComputeTime userID now' = rl.sumComputeTime userID now' := by
  cases huser : rl.users userID with
  | none => simp [sumComputeTime, pruneRequests, huser]
  | some user =>
    have hkeep := @GoMap.sumBy_filter_of _ _ user.currentRequests
      (fun _ interval => !interval.endedBefore (now - rl.window))
      (RequestInterval.computeTime (now' - rl.window) now')
      (fun e _ he => computeTime_of_endedBefore (by simpa using he) (by omega))
    by_cases hempty : (user.currentRequests.filter
        (fun _ interval => !interval.endedBefore (now - rl.window))).size = 0
    · have hzero := GoMap.sumBy_of_size_eq_zero hempty
        (RequestInterval.computeTime (now' - rl.window) now')
      simp only [sumComputeTime, pruneRequests, huser, Option.bind_some, hempty, if_true]
      omega
    · simp only [sumComputeTime, pruneRequests, huser, Option.bind_some, hempty, if_false]
      exact hkeep

@[simp] theorem sumComputeTime_incrementTotalRequests (userID : Address) (now : Int) :
    rl.incrementTotalRequests.sumComputeTime userID now = rl.sumComputeTime userID now := rfl

theorem addRequest_snd (userID : Address) (interval : RequestInterval) (id : UUID) :
    (rl.addRequest userID interval id).2 = if rl.userComputeTime = 0 then zeroUUID else id := by
  unfold addRequest
  split <;> rfl

/-- What `Allow` answers, from the counts it reads. -/
theorem allow_snd (userID : Address) (now : Int) (id : UUID) :
    (rl.allow userID now id).2 =
      if rl.userComputeTime = 0 then (true, zeroUUID)
      else if UInt32.ofNat (rl.countOpenRequests userID) ≥ rl.maxConcurrentRequests then
        (false, zeroUUID)
      else if rl.sumComputeTime userID now > rl.userComputeTime then (false, zeroUUID)
      else (true, id) := by
  unfold allow
  by_cases hzero : rl.userComputeTime = 0
  · simp [hzero]
  · by_cases hcount : UInt32.ofNat (rl.countOpenRequests userID) ≥ rl.maxConcurrentRequests
    · simp [hzero, hcount]
    · by_cases hsum : rl.sumComputeTime userID now > rl.userComputeTime
      · simp [hzero, hcount, hsum]
      · simp [hzero, hcount, hsum, addRequest_snd]

/-- Pruning never changes what `Allow` answers, at the pruning's time or
later. -/
theorem allow_pruneRequests {now now' : Int} (hle : now ≤ now') (userID : Address) (id : UUID) :
    ((rl.pruneRequests now).allow userID now' id).2 = (rl.allow userID now' id).2 := by
  rw [allow_snd, allow_snd, countOpenRequests_pruneRequests, sumComputeTime_pruneRequests _ hle]
  rfl

end RateLimiter

/-- A user whose one request ended long before is pruned away; `Allow`
answers the same with or without the pruning. -/
theorem allow_pruneRequests_endedRequest :
    let rl := (newRateLimiter 10 1 1).setUser 0 ⟨0, GoMap.empty.insert 3 ⟨0, some 1⟩⟩
    ((rl.pruneRequests 5).allow 0 6 7).2 = (rl.allow 0 6 7).2 :=
  RateLimiter.allow_pruneRequests _ (by decide) 0 7

/-! ## Handlers and their interleavings -/

/-- Where a handler goroutine is: between two lock sections of `Allow`, or
after it. -/
inductive Phase
  /-- `IncrementTotalRequests` ran; `CountOpenRequests` is next. -/
  | counting
  /-- Under the concurrency limit; `SumComputeTime` is next. -/
  | summing
  /-- Over a limit; `IncrementRateLimitedRequests` is next. -/
  | refused
  /-- Within the limits; `AddRequest` is called with `Start = start`. -/
  | adding (start : Int)
  /-- `AddRequest` holds the user's object `ptr`; the write is next. -/
  | inserting (start : Int) (ptr : Nat)
  /-- `Allow` returned `id`; the call runs, and the deferred `SetRequestEnd`
  is next. -/
  | serving (id : UUID)
  | done
  deriving DecidableEq, Repr

/-- The handler passed the concurrency check and has not written its request. -/
def Phase.checked : Phase → Bool
  | .summing | .adding _ | .inserting _ _ => true
  | _ => false

/-- A handler goroutine of a call of `userID`. -/
structure Handler where
  userID : Address
  phase : Phase
  deriving DecidableEq, Repr

/-- A handler of `userID` that passed the concurrency check and has not
written its request. -/
def Handler.checkedFor (h : Handler) (userID : Address) : Bool :=
  h.userID == userID && h.phase.checked

/-- The start of `Allow`: the check of `GetUserComputeTime`, then
`IncrementTotalRequests`. -/
def startAllow (rl : RateLimiter) : RateLimiter × Phase :=
  if rl.userComputeTime = 0 then (rl, .serving zeroUUID) else (rl.incrementTotalRequests, .counting)

/-- The next lock section of a handler of `userID` at `phase`, run at `now`;
`id` is the value of `uuid.New()` if the section calls it. -/
def runSection (rl : RateLimiter) (userID : Address) (now : Int) (id : UUID) :
    Phase → RateLimiter × Phase
  | .counting =>
    if UInt32.ofNat (rl.countOpenRequests userID) ≥ rl.maxConcurrentRequests then (rl, .refused)
    else (rl, .summing)
  | .summing =>
    if rl.sumComputeTime userID now > rl.userComputeTime then (rl, .refused)
    else (rl, .adding now)
  | .refused => (rl.incrementRateLimitedRequests, .serving zeroUUID)
  | .adding start =>
    if rl.userComputeTime = 0 then (rl, .serving zeroUUID)
    else
      let (rl', ptr) := rl.lookupOrCreateUser userID
      (rl', .inserting start ptr)
  | .inserting start ptr => (rl.insertRequest userID ptr id ⟨start, none⟩, .serving id)
  | .serving requestUUID => (rl.setRequestEnd userID requestUUID now, .done)
  | .done => (rl, .done)

/-- The limiter and the handler goroutines started so far. -/
structure System where
  rl : RateLimiter
  handlers : List Handler

namespace System

variable (s : System)

/-- A call of `userID` starts its handler. -/
def spawn (userID : Address) : System :=
  ⟨(startAllow s.rl).1, s.handlers ++ [⟨userID, (startAllow s.rl).2⟩]⟩

/-- Handler `i` runs its next lock section at `now`. -/
def advance (i : Nat) (now : Int) (id : UUID) : System :=
  match s.handlers[i]? with
  | some h =>
    let (rl, phase) := runSection s.rl h.userID now id h.phase
    ⟨rl, s.handlers.set i ⟨h.userID, phase⟩⟩
  | none => s

/-- The pruning goroutine runs `PruneRequests` at `now`. -/
def prune (now : Int) : System := ⟨s.rl.pruneRequests now, s.handlers⟩

/-- The statistics goroutine resets the counters. -/
def logStats : System := ⟨s.rl.resetStats, s.handlers⟩

/-- The handlers of `userID` between the concurrency check and the write. -/
def checkedOf (userID : Address) : Nat := s.handlers.countP (·.checkedFor userID)

end System

/-- One step of the gateway: a call starts, a handler runs its next lock
section, or the pruning or the statistics goroutine runs. With `serial`, a
handler runs the concurrency check only while no other handler of its user
is between the check and its write, as if `Allow` held one lock throughout. -/
inductive Step (serial : Bool) : System → System → Prop
  | spawn (s : System) (userID : Address) : Step serial s (s.spawn userID)
  | advance (s : System) (i : Nat) (now : Int) (id : UUID)
      (halone : serial = true → ∀ h ∈ s.handlers[i]?, h.phase = .counting →
        s.checkedOf h.userID = 0) :
      Step serial s (s.advance i now id)
  | prune (s : System) (now : Int) : Step serial s (s.prune now)
  | logStats (s : System) : Step serial s s.logStats

/-- The states reachable from `NewRateLimiter` with no handler yet. -/
def Reachable (serial : Bool) (userComputeTime window : Int) (limit : UInt32) (s : System) : Prop :=
  Relation.ReflTransGen (Step serial) ⟨newRateLimiter userComputeTime window limit, []⟩ s

/-! ## Runs the locks allow -/

/-- Handler `pre.length` runs its next section. -/
theorem advance_mid (rl : RateLimiter) (pre post : List Handler) (h : Handler) (now : Int)
    (id : UUID) :
    (System.mk rl (pre ++ h :: post)).advance pre.length now id =
      ⟨(runSection rl h.userID now id h.phase).1,
        pre ++ ⟨h.userID, (runSection rl h.userID now id h.phase).2⟩ :: post⟩ := by
  simp [System.advance]

theorem lookupOrCreateUser_of_some {rl : RateLimiter} {userID : Address} {user : RateLimitUser}
    (huser : rl.users userID = some user) : rl.lookupOrCreateUser userID = (rl, user.ptr) := by
  simp [RateLimiter.lookupOrCreateUser, huser]

/-- A user with no recorded request has no open request and has used no
compute time. -/
theorem counts_of_empty {rl : RateLimiter} {userID : Address}
    (hempty : ∀ user, rl.users userID = some user → user.currentRequests.size = 0) (now : Int) :
    rl.countOpenRequests userID = 0 ∧ rl.sumComputeTime userID now = 0 := by
  unfold RateLimiter.countOpenRequests RateLimiter.sumComputeTime
  cases huser : rl.users userID with
  | none => exact ⟨rfl, rfl⟩
  | some user =>
    have hsize := hempty user huser
    exact ⟨GoMap.countP_of_size_eq_zero hsize _, GoMap.sumBy_of_size_eq_zero hsize _⟩

theorem spawn_of_ne_zero {s : System} (hzero : s.rl.userComputeTime ≠ 0) (userID : Address) :
    s.spawn userID = ⟨s.rl.incrementTotalRequests, s.handlers ++ [⟨userID, .counting⟩]⟩ := by
  simp [System.spawn, startAllow, hzero]

/-- The last handler runs its next section. -/
theorem Step.last {serial : Bool} (rl : RateLimiter) (hs : List Handler) (h : Handler)
    (now : Int) (id : UUID)
    (halone : serial = true → h.phase = .counting → (System.mk rl hs).checkedOf h.userID = 0) :
    Step serial ⟨rl, hs ++ [h]⟩
      ⟨(runSection rl h.userID now id h.phase).1,
        hs ++ [⟨h.userID, (runSection rl h.userID now id h.phase).2⟩]⟩ := by
  have hstep := @Step.advance serial ⟨rl, hs ++ [h]⟩ hs.length now id (by
    intro hserial h' hh' hphase
    simp only [List.getElem?_append_right (Nat.le_refl _), Nat.sub_self, List.getElem?_cons_zero,
      Option.mem_def, Option.some.injEq] at hh'
    subst hh'
    simpa [System.checkedOf, Handler.checkedFor, hphase, Phase.checked] using
      halone hserial hphase)
  rwa [advance_mid] at hstep

/-- A call of a user with no recorded request passes both checks and
reaches the write of `AddRequest`, holding the object it found or
allocated. -/
theorem toInserting {serial : Bool} {s : System} {userID : Address}
    (hempty : ∀ user, s.rl.users userID = some user → user.currentRequests.size = 0)
    (hcompute : 0 < s.rl.userComputeTime) (hlimit : 0 < s.rl.maxConcurrentRequests.toNat)
    (halone : serial = true → s.checkedOf userID = 0) (now : Int) :
    Relation.ReflTransGen (Step serial) s
      ⟨(s.rl.incrementTotalRequests.lookupOrCreateUser userID).1,
        s.handlers ++ [⟨userID, .inserting now
          (s.rl.incrementTotalRequests.lookupOrCreateUser userID).2⟩]⟩ := by
  set rl := s.rl.incrementTotalRequests with hrl
  have hzero : s.rl.userComputeTime ≠ 0 := by omega
  obtain ⟨hcount, hsum⟩ := @counts_of_empty rl userID hempty now
  have hpass : ¬ UInt32.ofNat (rl.countOpenRequests userID) ≥ rl.maxConcurrentRequests := by
    rw [hcount, ge_iff_le, UInt32.le_iff_toNat_le]
    simp only [hrl, RateLimiter.maxConcurrentRequests_incrementTotalRequests, UInt32.toNat_ofNat',
      Nat.zero_mod, Nat.not_le]
    exact hlimit
  have hwithin : ¬ rl.sumComputeTime userID now > rl.userComputeTime := by
    rw [hsum]
    simp [hrl]
    omega
  have hzero' : ¬ rl.userComputeTime = 0 := by simpa [hrl] using hzero
  have h1 := @Step.spawn serial s userID
  have h2 := @Step.last serial rl s.handlers ⟨userID, .counting⟩ now 0
    (fun hs _ => by simpa [System.checkedOf] using halone hs)
  have h3 := @Step.last serial rl s.handlers ⟨userID, .summing⟩ now 0 (by simp)
  have h4 := @Step.last serial rl s.handlers ⟨userID, .adding now⟩ now 0 (by simp)
  rw [spawn_of_ne_zero hzero] at h1
  simp only [runSection, hpass, hwithin, hzero', ↓reduceIte] at h2 h3 h4
  exact .tail (.tail (.tail (.single h1) h2) h3) h4

theorem lookupOrCreateUser_of_none {rl : RateLimiter} {userID : Address}
    (huser : rl.users userID = none) :
    rl.lookupOrCreateUser userID =
      ({ rl.setUser userID ⟨rl.allocated, GoMap.empty⟩ with allocated := rl.allocated + 1 },
        rl.allocated) := by
  simp [RateLimiter.lookupOrCreateUser, huser]

/-! ## The concurrency limit over serial runs -/

theorem maxConcurrentRequests_runSection (rl : RateLimiter) (userID : Address) (now : Int)
    (id : UUID) (phase : Phase) :
    (runSection rl userID now id phase).1.maxConcurrentRequests = rl.maxConcurrentRequests := by
  cases phase with
  | counting | summing => simp only [runSection]; split <;> rfl
  | adding start =>
    simp only [runSection]
    split
    · rfl
    · exact rl.maxConcurrentRequests_lookupOrCreateUser userID
  | inserting start ptr => exact rl.maxConcurrentRequests_insertRequest userID ptr id _
  | serving requestUUID => exact rl.maxConcurrentRequests_setRequestEnd userID requestUUID now
  | refused | done => rfl

/-- No step changes the limit. -/
theorem Step.maxConcurrentRequests {serial : Bool} {s s' : System} (h : Step serial s s') :
    s'.rl.maxConcurrentRequests = s.rl.maxConcurrentRequests := by
  cases h with
  | spawn => simp only [System.spawn, startAllow]; split <;> rfl
  | advance s i now id =>
    simp only [System.advance]
    split
    · exact maxConcurrentRequests_runSection _ _ _ _ _
    · rfl
  | prune | logStats => rfl

/-- Every lock section other than the concurrency check keeps the open
requests of a user, with its handlers between the check and the write, from
growing. -/
theorem runSection_le (rl : RateLimiter) (userID : Address) (now : Int) (id : UUID)
    {phase : Phase} (hphase : phase ≠ .counting) (userID' : Address) :
    (runSection rl userID now id phase).1.countOpenRequests userID' +
        (if Handler.checkedFor ⟨userID, (runSection rl userID now id phase).2⟩ userID'
          then 1 else 0) ≤
      rl.countOpenRequests userID' + if Handler.checkedFor ⟨userID, phase⟩ userID' then 1 else 0 := by
  cases phase with
  | counting => exact absurd rfl hphase
  | summing =>
    simp only [runSection]
    split <;> simp [Handler.checkedFor, Phase.checked]
  | refused => simp [runSection, Handler.checkedFor, Phase.checked]
  | adding start =>
    simp only [runSection]
    split <;> simp [Handler.checkedFor, Phase.checked]
  | inserting start ptr =>
    have hins := rl.countOpenRequests_insertRequest_le userID userID' ptr id ⟨start, none⟩
    simpa [runSection, Handler.checkedFor, Phase.checked] using hins
  | serving requestUUID =>
    have hend := rl.countOpenRequests_setRequestEnd_le userID userID' requestUUID now
    simpa [runSection, Handler.checkedFor, Phase.checked] using hend
  | done => simp [runSection, Handler.checkedFor, Phase.checked]

/-- Replacing handler `i` moves the count of checked handlers by the two
handlers' contributions. -/
theorem checkedOf_set {s : System} {i : Nat} {h : Handler}
    (hi : s.handlers[i]? = some h) (rl : RateLimiter) (h' : Handler) (userID : Address) :
    (System.mk rl (s.handlers.set i h')).checkedOf userID + (if h.checkedFor userID then 1 else 0) =
      s.checkedOf userID + if h'.checkedFor userID then 1 else 0 := by
  obtain ⟨hlt, hget⟩ := List.getElem?_eq_some_iff.mp hi
  have hpos : (if h.checkedFor userID then 1 else 0) ≤ s.handlers.countP (·.checkedFor userID) := by
    split
    · exact List.countP_pos_iff.mpr ⟨h, hget ▸ List.getElem_mem hlt, by assumption⟩
    · exact Nat.zero_le _
  simp only [System.checkedOf, List.countP_set hlt, hget]
  omega

/-- The open requests of every user, with its handlers between the
concurrency check and the write, are within the limit. -/
def Bounded (s : System) : Prop :=
  ∀ userID, s.rl.countOpenRequests userID + s.checkedOf userID ≤ s.rl.maxConcurrentRequests.toNat

/-- Below the limit, `uint32(count)` is the count itself. -/
theorem toNat_ofNat_of_le {count : Nat} {limit : UInt32} (h : count ≤ limit.toNat) :
    (UInt32.ofNat count).toNat = count := by
  have hlt : count < 2 ^ 32 := lt_of_le_of_lt h limit.toNat_lt
  rw [UInt32.toNat_ofNat']
  exact Nat.mod_eq_of_lt hlt

/-- The concurrency check changes nothing but the handler's phase, and lets
it through only below the limit. -/
theorem runSection_counting (rl : RateLimiter) (userID : Address) (now : Int) (id : UUID)
    (hbound : rl.countOpenRequests userID ≤ rl.maxConcurrentRequests.toNat) :
    (runSection rl userID now id .counting).1 = rl ∧
      ((runSection rl userID now id .counting).2 = .refused ∨
        (runSection rl userID now id .counting).2 = .summing ∧
          rl.countOpenRequests userID < rl.maxConcurrentRequests.toNat) := by
  simp only [runSection]
  split
  · exact ⟨rfl, .inl rfl⟩
  · rename_i hcheck
    rw [ge_iff_le, UInt32.le_iff_toNat_le, toNat_ofNat_of_le hbound] at hcheck
    exact ⟨rfl, .inr ⟨rfl, by omega⟩⟩

theorem Bounded.init (userComputeTime window : Int) (limit : UInt32) :
    Bounded ⟨newRateLimiter userComputeTime window limit, []⟩ := by
  intro userID
  simp [System.checkedOf, RateLimiter.countOpenRequests, newRateLimiter]

theorem startAllow_checked (rl : RateLimiter) : (startAllow rl).2.checked = false := by
  unfold startAllow
  split <;> rfl

theorem Bounded.spawn {s : System} (hb : Bounded s) (userID : Address) :
    Bounded (s.spawn userID) := by
  intro userID'
  have hrl : (startAllow s.rl).1.countOpenRequests userID' = s.rl.countOpenRequests userID' ∧
      (startAllow s.rl).1.maxConcurrentRequests = s.rl.maxConcurrentRequests := by
    unfold startAllow
    split <;> exact ⟨rfl, rfl⟩
  have hchecked : (s.spawn userID).checkedOf userID' = s.checkedOf userID' := by
    simp [System.spawn, System.checkedOf, Handler.checkedFor, startAllow_checked]
  have hs := hb userID'
  simp only [System.spawn] at hchecked ⊢
  rw [hrl.1, hrl.2, hchecked]
  exact hs

theorem Bounded.advance {s : System} (hb : Bounded s) (i : Nat) (now : Int) (id : UUID)
    (halone : ∀ h ∈ s.handlers[i]?, h.phase = .counting → s.checkedOf h.userID = 0) :
    Bounded (s.advance i now id) := by
  cases hi : s.handlers[i]? with
  | none => simpa [System.advance, hi] using hb
  | some h =>
    intro userID'
    generalize hr : runSection s.rl h.userID now id h.phase = r
    obtain ⟨rl', phase'⟩ := r
    have hset := checkedOf_set hi rl' ⟨h.userID, phase'⟩ userID'
    have hmax : rl'.maxConcurrentRequests = s.rl.maxConcurrentRequests := by
      simpa [hr] using maxConcurrentRequests_runSection s.rl h.userID now id h.phase
    have hs := hb userID'
    simp only [System.advance, hi, hr, hmax]
    by_cases hcounting : h.phase = .counting
    · -- the concurrency check: only a handler admitted below the limit joins the checked ones
      have hunchecked : h.checkedFor userID' = false := by
        simp [Handler.checkedFor, hcounting, Phase.checked]
      obtain ⟨hrl, hphase⟩ := runSection_counting s.rl h.userID now id (by
        have := hb h.userID
        omega)
      rw [← hcounting, hr] at hrl hphase
      subst hrl
      rw [hunchecked] at hset
      rcases hphase with hrefused | ⟨hsumming, hlt⟩
      · subst hrefused
        simp [Handler.checkedFor, Phase.checked] at hset
        omega
      · subst hsumming
        have hzero := halone h (by simp [hi]) hcounting
        by_cases hu : h.userID = userID'
        · subst hu
          simp [Handler.checkedFor, Phase.checked] at hset
          omega
        · simp [Handler.checkedFor, hu] at hset
          omega
    · have hle := runSection_le s.rl h.userID now id hcounting userID'
      rw [hr, show (⟨h.userID, h.phase⟩ : Handler) = h from rfl] at hle
      dsimp only at hle
      omega

/-- The bound holds in every state of a serial run. -/
theorem Bounded.step {s s' : System} (hb : Bounded s) (h : Step true s s') : Bounded s' := by
  cases h with
  | spawn userID => exact hb.spawn userID
  | advance i now id halone => exact hb.advance i now id (halone rfl)
  | prune now =>
    intro userID
    simpa [System.prune, System.checkedOf, RateLimiter.countOpenRequests_pruneRequests] using hb userID
  | logStats =>
    intro userID
    simpa [System.logStats, System.checkedOf] using hb userID

theorem Bounded.reachable {userComputeTime window : Int} {limit : UInt32} {s : System}
    (h : Reachable true userComputeTime window limit s) : Bounded s := by
  induction h with
  | refl => exact Bounded.init userComputeTime window limit
  | tail _ hstep ih => exact ih.step hstep

theorem Reachable.maxConcurrentRequests {serial : Bool} {userComputeTime window : Int}
    {limit : UInt32} {s : System} (h : Reachable serial userComputeTime window limit s) :
    s.rl.maxConcurrentRequests = limit := by
  induction h with
  | refl => rfl
  | tail _ hstep ih => rw [hstep.maxConcurrentRequests, ih]

/-- When no handler runs the concurrency check while another handler of its
user is between the check and its write, no user ever has more than
`maxConcurrentRequests` open requests. -/
theorem countOpenRequests_le_of_serial {userComputeTime window : Int} {limit : UInt32}
    {s : System} (h : Reachable true userComputeTime window limit s) (userID : Address) :
    s.rl.countOpenRequests userID ≤ limit.toNat := by
  have hb := Bounded.reachable h userID
  rw [h.maxConcurrentRequests] at hb
  omega

/-- The first call of user 0 under a limit of one, admitted in a serial run:
its request is open, and the user is at the limit. -/
theorem countOpenRequests_le_of_serial_admitted :
    ∃ s, Reachable true 1 1 1 s ∧ s.rl.countOpenRequests 0 = 1 ∧
      s.rl.countOpenRequests 0 ≤ (1 : UInt32).toNat := by
  have hrun := @toInserting true ⟨newRateLimiter 1 1 1, []⟩ 0 (by simp [newRateLimiter])
    (by decide) (by decide) (fun _ => by simp [System.checkedOf]) 0
  rw [lookupOrCreateUser_of_none rfl] at hrun
  have hwrite := @Step.last true
    { (newRateLimiter 1 1 1).incrementTotalRequests.setUser 0 ⟨0, GoMap.empty⟩ with allocated := 1 }
    [] ⟨0, .inserting 0 0⟩ 0 7 (by simp)
  have hreach : Reachable true 1 1 1 _ := hrun.tail hwrite
  exact ⟨_, hreach, by decide, countOpenRequests_le_of_serial hreach 0⟩

/-! ## `Allow` as its lock sections -/

/-- `Allow` run without interruption is a serial run of its lock sections,
one after the other: the model of `Allow` as one function and the model of
its handler agree. -/
theorem allow_serialRun (s : System) (userID : Address) (now : Int) (id : UUID)
    (halone : s.checkedOf userID = 0) :
    Relation.ReflTransGen (Step true) s
      ⟨(s.rl.allow userID now id).1,
        s.handlers ++ [⟨userID, .serving (s.rl.allow userID now id).2.2⟩]⟩ := by
  have h1 := @Step.spawn true s userID
  by_cases hzero : s.rl.userComputeTime = 0
  · simp only [System.spawn, startAllow, hzero, ↓reduceIte] at h1
    simpa [RateLimiter.allow, hzero] using Relation.ReflTransGen.single h1
  rw [spawn_of_ne_zero hzero] at h1
  have hzero' : ¬ s.rl.incrementTotalRequests.userComputeTime = 0 := by simpa using hzero
  have h2 := @Step.last true s.rl.incrementTotalRequests s.handlers
    ⟨userID, .counting⟩ now 0 (fun _ _ => halone)
  by_cases hcount : UInt32.ofNat (s.rl.incrementTotalRequests.countOpenRequests userID) ≥
      s.rl.incrementTotalRequests.maxConcurrentRequests
  · -- refused at the concurrency check
    have h3 := @Step.last true s.rl.incrementTotalRequests s.handlers
      ⟨userID, .refused⟩ now 0 (by simp)
    simp only [runSection, hcount, ↓reduceIte] at h2 h3
    have hallow : s.rl.allow userID now id =
        (s.rl.incrementTotalRequests.incrementRateLimitedRequests, false, zeroUUID) := by
      simp only [RateLimiter.allow, hzero, hcount, ↓reduceIte]
    rw [hallow]
    exact .tail (.tail (.single h1) h2) h3
  have h3 := @Step.last true s.rl.incrementTotalRequests s.handlers
    ⟨userID, .summing⟩ now 0 (by simp)
  simp only [runSection, hcount, ↓reduceIte] at h2
  by_cases hsum : s.rl.incrementTotalRequests.sumComputeTime userID now >
      s.rl.incrementTotalRequests.userComputeTime
  · -- refused at the compute-time check
    have h4 := @Step.last true s.rl.incrementTotalRequests s.handlers
      ⟨userID, .refused⟩ now 0 (by simp)
    simp only [runSection, hsum, ↓reduceIte] at h3 h4
    have hallow : s.rl.allow userID now id =
        (s.rl.incrementTotalRequests.incrementRateLimitedRequests, false, zeroUUID) := by
      simp only [RateLimiter.allow, hzero, hcount, hsum, ↓reduceIte]
    rw [hallow]
    exact .tail (.tail (.tail (.single h1) h2) h3) h4
  · -- admitted: both sections of `AddRequest`
    have h4 := @Step.last true s.rl.incrementTotalRequests s.handlers
      ⟨userID, .adding now⟩ now 0 (by simp)
    have h5 := @Step.last true
      (s.rl.incrementTotalRequests.lookupOrCreateUser userID).1 s.handlers
      ⟨userID, .inserting now (s.rl.incrementTotalRequests.lookupOrCreateUser userID).2⟩
      now id (by simp)
    simp only [runSection, hsum, hzero', ↓reduceIte] at h3 h4 h5
    have hallow : s.rl.allow userID now id =
        (((s.rl.incrementTotalRequests.lookupOrCreateUser userID).1).insertRequest userID
          (s.rl.incrementTotalRequests.lookupOrCreateUser userID).2 id ⟨now, none⟩, true, id) := by
      simp only [RateLimiter.allow, RateLimiter.addRequest, hzero, hzero', hcount, hsum,
        ↓reduceIte]
    rw [hallow]
    exact .tail (.tail (.tail (.tail (.single h1) h2) h3) h4) h5

/-- The first call of a user, run without interruption. -/
theorem allow_serialRun_firstCall :
    Relation.ReflTransGen (Step true) ⟨newRateLimiter 1 1 1, []⟩
      ⟨((newRateLimiter 1 1 1).allow 0 0 7).1,
        [⟨0, .serving ((newRateLimiter 1 1 1).allow 0 0 7).2.2⟩]⟩ :=
  allow_serialRun ⟨newRateLimiter 1 1 1, []⟩ 0 0 7 rfl

/-- `k + 1` concurrent calls of one user all pass both checks before any of
them writes its request: the locks of `Allow` allow that order. -/
theorem replicateInserting {userComputeTime window : Int} {limit : UInt32}
    (hcompute : 0 < userComputeTime) (hlimit : 0 < limit.toNat) (userID : Address) (now : Int) :
    ∀ k : Nat, ∃ rl, Reachable false userComputeTime window limit
        ⟨rl, List.replicate (k + 1) ⟨userID, .inserting now 0⟩⟩ ∧
      rl.userComputeTime = userComputeTime ∧ rl.maxConcurrentRequests = limit ∧
      rl.users userID = some ⟨0, GoMap.empty⟩
  | 0 => by
    -- the first call allocates the user's object
    have hrun := @toInserting false ⟨newRateLimiter userComputeTime window limit, []⟩ userID
      (by simp [newRateLimiter]) hcompute hlimit (by simp) now
    rw [lookupOrCreateUser_of_none rfl] at hrun
    exact ⟨_, hrun, rfl, rfl, by simp [RateLimiter.setUser, newRateLimiter,
      RateLimiter.incrementTotalRequests]⟩
  | k + 1 => by
    -- every later call finds that object
    obtain ⟨rl, hreach, hcomp, hmax, huser⟩ := replicateInserting hcompute hlimit userID now k
    have hrun := @toInserting false ⟨rl, List.replicate (k + 1) ⟨userID, .inserting now 0⟩⟩ userID
      (by simp [huser, GoMap.size_empty]) (by simpa [hcomp] using hcompute)
      (by simpa [hmax] using hlimit) (by simp) now
    rw [lookupOrCreateUser_of_some (by simpa [RateLimiter.incrementTotalRequests] using huser),
      ← List.replicate_succ'] at hrun
    exact ⟨_, hreach.trans hrun, hcomp, hmax, huser⟩

/-- Handlers at their write, each given a fresh `uuid`, record one open
request each. -/
theorem insertAll {userID : Address} (now : Int) :
    ∀ (rest done : List UUID) (rl : RateLimiter) (m : GoMap UUID RequestInterval),
      rest.Nodup → (∀ id ∈ rest, m.get? id = none) → rl.users userID = some ⟨0, m⟩ →
      ∃ rl', Relation.ReflTransGen (Step false)
          ⟨rl, done.map (fun id => ⟨userID, .serving id⟩) ++
            List.replicate rest.length ⟨userID, .inserting now 0⟩⟩
          ⟨rl', (done ++ rest).map (fun id => ⟨userID, .serving id⟩)⟩ ∧
        rl'.countOpenRequests userID = m.countP RequestInterval.isOpen + rest.length
  | [], done, rl, m, _, _, huser => ⟨rl, by simpa using .refl, by
      simp [RateLimiter.countOpenRequests, huser]⟩
  | id :: rest, done, rl, m, hnodup, hfresh, huser => by
    obtain ⟨hid, hrest⟩ := List.nodup_cons.mp hnodup
    have hnew := hfresh id List.mem_cons_self
    set m' := m.insert id ⟨now, none⟩ with hm'
    have hstep := @Step.advance false
      ⟨rl, done.map (fun id => ⟨userID, .serving id⟩) ++
        ⟨userID, .inserting now 0⟩ :: List.replicate rest.length ⟨userID, .inserting now 0⟩⟩
      done.length now id (by simp)
    have hlen : done.length = (done.map (fun id => (⟨userID, .serving id⟩ : Handler))).length := by
      simp
    rw [hlen, advance_mid] at hstep
    have hins : rl.insertRequest userID 0 id ⟨now, none⟩ = rl.setUser userID ⟨0, m'⟩ := by
      simp [RateLimiter.insertRequest, huser, hm']
    simp only [runSection, hins] at hstep
    have hfresh' : ∀ id' ∈ rest, m'.get? id' = none := by
      intro id' hmem
      have hne : id' ≠ id := fun h => hid (h ▸ hmem)
      rw [hm', GoMap.get?_insert_of_ne _ _ hne]
      exact hfresh id' (List.mem_cons_of_mem _ hmem)
    obtain ⟨rl', hrun, hcount⟩ := @insertAll userID now rest (done ++ [id])
      (rl.setUser userID ⟨0, m'⟩) m' hrest hfresh' (by simp [RateLimiter.setUser])
    have hcount' : m'.countP RequestInterval.isOpen = m.countP RequestInterval.isOpen + 1 := by
      simp [hm', GoMap.countP_insert, GoMap.countP_erase_of_get? hnew, RequestInterval.isOpen]
    have hfirst : Step false
        ⟨rl, done.map (fun id => ⟨userID, .serving id⟩) ++
          List.replicate (id :: rest).length ⟨userID, .inserting now 0⟩⟩
        ⟨rl.setUser userID ⟨0, m'⟩, (done ++ [id]).map (fun id => ⟨userID, .serving id⟩) ++
          List.replicate rest.length ⟨userID, .inserting now 0⟩⟩ := by
      simpa [List.replicate_succ] using hstep
    refine ⟨rl', .head hfirst (by simpa using hrun), ?_⟩
    rw [hcount, hcount', List.length_cons]
    omega

/-- With the interleavings the locks of `Allow` allow, any number of
concurrent calls of one user are all admitted and all open at once, whatever
`maxConcurrentRequests` is: each handler counts the open requests before any
of the others writes its own. -/
theorem concurrentAdmission {userComputeTime window : Int} {limit : UInt32}
    (hcompute : 0 < userComputeTime) (hlimit : 0 < limit.toNat) (userID : Address) (now : Int)
    (ids : List UUID) (hids : ids.Nodup) :
    ∃ s, Reachable false userComputeTime window limit s ∧
      s.handlers = ids.map (fun id => ⟨userID, .serving id⟩) ∧
      s.rl.countOpenRequests userID = ids.length := by
  cases ids with
  | nil => exact ⟨_, .refl, rfl, rfl⟩
  | cons id rest =>
    obtain ⟨rl, hreach, -, -, huser⟩ := @replicateInserting userComputeTime window limit hcompute
      hlimit userID now rest.length
    obtain ⟨rl', hrun, hcount⟩ := @insertAll userID now (id :: rest) [] rl GoMap.empty hids
      (by simp) huser
    refine ⟨⟨rl', (id :: rest).map (fun id => ⟨userID, .serving id⟩)⟩, hreach.trans ?_, rfl, ?_⟩
    · simpa using hrun
    · simpa using hcount

/-- Three concurrent calls of a user whose limit is one are all admitted. -/
theorem concurrentAdmission_threeCalls :
    ∃ s, Reachable false 1 1 1 s ∧
      s.handlers = ([1, 2, 3] : List UUID).map (fun id => ⟨0, .serving id⟩) ∧
      s.rl.countOpenRequests 0 = 3 :=
  concurrentAdmission (by decide) (by decide) 0 0 [1, 2, 3] (by decide)

/-- Pruning a user whose object holds no request deletes the user. -/
theorem users_pruneRequests_of_empty {rl : RateLimiter} {userID : Address} {ptr : Nat}
    (huser : rl.users userID = some ⟨ptr, GoMap.empty⟩) (now : Int) :
    (rl.pruneRequests now).users userID = none := by
  simp [RateLimiter.pruneRequests, huser, GoMap.filter, GoMap.size, GoMap.empty]

/-- A call admitted while `PruneRequests` runs between the two lock sections
of its `AddRequest` is lost: the pruning deletes the user it has just
allocated, and the request goes into the deleted object. The call runs with
no record in the limiter, so later calls of the user do not count it, and
its `SetRequestEnd` finds no user. This needs no concurrent call of the same
user: it happens in serial runs. -/
theorem lostRequest {userComputeTime window : Int} {limit : UInt32}
    (hcompute : 0 < userComputeTime) (hlimit : 0 < limit.toNat) (userID : Address)
    (now now' : Int) (id : UUID) :
    ∃ s, Reachable true userComputeTime window limit s ∧
      s.handlers = [⟨userID, .serving id⟩] ∧ s.rl.users userID = none := by
  have hrun := @toInserting true ⟨newRateLimiter userComputeTime window limit, []⟩ userID
    (by simp [newRateLimiter]) hcompute hlimit (fun _ => by simp [System.checkedOf]) now
  rw [lookupOrCreateUser_of_none rfl] at hrun
  set rl := ({ (newRateLimiter userComputeTime window limit).incrementTotalRequests.setUser userID
    ⟨0, GoMap.empty⟩ with allocated := 1 } : RateLimiter) with hrl
  have huser : rl.users userID = some ⟨0, GoMap.empty⟩ := by
    simp [hrl, RateLimiter.setUser]
  have hpruned := users_pruneRequests_of_empty huser now'
  have hprune := @Step.prune true ⟨rl, [⟨userID, .inserting now 0⟩]⟩ now'
  have hwrite := @Step.advance true
    ⟨rl.pruneRequests now', [⟨userID, .inserting now 0⟩]⟩ 0 now id (by simp)
  have hlost : (rl.pruneRequests now').insertRequest userID 0 id ⟨now, none⟩ =
      rl.pruneRequests now' := by
    simp [RateLimiter.insertRequest, hpruned]
  simp only [System.advance, System.prune, List.getElem?_cons_zero, runSection, hlost,
    List.set_cons_zero] at hwrite hprune
  exact ⟨_, (hrun.tail hprune).tail hwrite, rfl, hpruned⟩

/-- The first call of a user under a limit of one is lost to a pruning. -/
theorem lostRequest_firstCall :
    ∃ s, Reachable true 1 1 1 s ∧ s.handlers = [⟨0, .serving 7⟩] ∧ s.rl.users 0 = none :=
  lostRequest (by decide) (by decide) 0 0 0 7

end GoTen.WalletExtension.Ratelimiter
