import StControl.Foundations.Transaction
import StControl.Store.Schema

/-!
# The writer lease

`user_activity_leases` holds one row for a user: the node that may write the user's data, the
browser session, and an activity epoch that fences stale sessions on the nodes.  This module
embeds the functions of `leases.go` that decide about the row: the predicate
`leaseBlocksNewWriter`, the decision of `acquireActivityLeaseLocked` and the three conditional
updates that a node's observations cause (renewal, telemetry, end).

What a transaction may do to the row is said once, by `LeaseChange`: leave it, touch it without
changing holder or state, close it, hand it to a new epoch, or, the one case that rewrites the
writer of an epoch that exists, record the base of a resolved conflict.  Each statement that
writes the row is classified where it is defined, and what holds over whole runs is derived from
the classification alone.
-/

namespace StControl.Store

open Transaction Option

variable {outcome : LeaseOutcome} {l : ActivityLease}

/-! ## Blocking a new writer -/

def LeaseState.holding : LeaseState → Bool
  | .active | .quiescing | .drained | .independent => true
  | .ended | .conflict => false

/-- `leaseBlocksNewWriter`: the row stands for a writer and has not expired. -/
def leaseBlocksNewWriter (lease : ActivityLease) (now : Time) : Bool :=
  match lease.state with
  | .active | .quiescing | .drained | .independent => decide (now < lease.leaseExpiresAt)
  | _ => false

lemma leaseBlocksNewWriter_iff {lease : ActivityLease} {now : Time} :
    leaseBlocksNewWriter lease now ↔ lease.state.holding ∧ now < lease.leaseExpiresAt := by
  cases h : lease.state <;> simp [leaseBlocksNewWriter, LeaseState.holding, h]

lemma holding_of_leaseBlocksNewWriter {lease : ActivityLease} {now : Time}
    (h : leaseBlocksNewWriter lease now) : lease.state.holding :=
  (leaseBlocksNewWriter_iff.mp h).1

/-- The row still has requests in flight (`in_flight_reads<>0 OR in_flight_writes<>0`). -/
def ActivityLease.inFlight (lease : ActivityLease) : Bool :=
  lease.inFlightReads ≠ 0 || lease.inFlightWrites ≠ 0

/-! ## Acquiring -/

/-- `AcquireActivityLeaseParams`; the user is the one the tables belong to. -/
structure AcquireActivityLeaseParams where
  operationID : UUID
  writerNodeID : NodeID
  sessionID : UUID
  controllerGeneration : ℤ
  ttl : Duration
  existingWriterOnly : Bool
  now : Time
  deriving DecidableEq

structure AcquireActivityLeaseResult where
  lease : ActivityLease
  (acquired existing : Bool)
  deriving DecidableEq

section

variable (p : AcquireActivityLeaseParams)

def freshLease (writer : NodeID) (epoch : ℤ) : ActivityLease where
  writerNodeID := writer
  sessionID := p.sessionID
  activityEpoch := epoch
  state := .active
  leaseExpiresAt := p.now + p.ttl
  lastPageHeartbeatAt := p.now
  lastRequestAt := p.now
  inFlightReads := 0
  inFlightWrites := 0
  controllerGeneration := p.controllerGeneration

/-- `nextEpoch`: one more than the row's epoch, `1` when there is no row. -/
def nextEpoch : Option ActivityLease → ℤ
  | some lease => lease.activityEpoch + 1
  | none => 1

/-- The part of `acquireActivityLeaseLocked` after the replay check: the row to leave behind and
the outcome to record for it. -/
def decideLease :
    Option ActivityLease → Except StoreError (ActivityLease × LeaseOutcome)
  | some lease =>
    if leaseBlocksNewWriter lease p.now && lease.state = .active &&
        lease.controllerGeneration < p.controllerGeneration then
      -- a promotion fenced the sessions of the old generation, the writer did not change
      .ok (freshLease p lease.writerNodeID (lease.activityEpoch + 1), .renewed)
    else if leaseBlocksNewWriter lease p.now then
      .ok (lease, .existing)
    else if p.existingWriterOnly then
      .error .existingWriterRequired
    else
      .ok (freshLease p p.writerNodeID (lease.activityEpoch + 1), .acquired)
  | none =>
    if p.existingWriterOnly then
      .error .existingWriterRequired
    else
      .ok (freshLease p p.writerNodeID 1, .acquired)

/-- `recordLeaseOperation`'s row. -/
def leaseOperation (outcome : LeaseOutcome) (lease : ActivityLease) : LeaseOperation where
  requestedNodeID := p.writerNodeID
  requestedSessionID := p.sessionID
  outcome := outcome
  resultWriterNodeID := lease.writerNodeID
  resultSessionID := lease.sessionID
  resultActivityEpoch := lease.activityEpoch

/-- What `acquireActivityLeaseLocked` answers: the recorded result of an earlier attempt, of which
only the identity columns are read back, or a decision with the tables it leaves. -/
inductive LeaseAnswer
  | replayed (operation : LeaseOperation)
  | decided (result : AcquireActivityLeaseResult) (db : Db)

def acquireActivityLeaseLocked (db : Db) : Except StoreError LeaseAnswer :=
  match db.leaseOperations.get? p.operationID with
  | some operation => do
    require (operation.requestedNodeID = p.writerNodeID ∧
      operation.requestedSessionID = p.sessionID) .leaseOperationConflict
    return .replayed operation
  | none => do
    let (lease, outcome) ← decideLease p db.lease
    return .decided
      { lease, acquired := outcome = .acquired
        existing := outcome = .existing || outcome = .renewed }
      { db with
        lease := some lease
        leaseOperations := db.leaseOperations.put p.operationID (leaseOperation p outcome lease) }

end

lemma acquireActivityLeaseLocked_commit {p : AcquireActivityLeaseParams} {db : Db} :
    Ensures (acquireActivityLeaseLocked p db) fun answer =>
      (∃ operation, answer = .replayed operation) ∨
      ∃ lease outcome, db.leaseOperations.get? p.operationID = none ∧
        decideLease p db.lease = .ok (lease, outcome) ∧ answer = .decided
          { lease, acquired := outcome = .acquired
            existing := outcome = .existing || outcome = .renewed }
          { db with
            lease := some lease, leaseOperations :=
              db.leaseOperations.put p.operationID (leaseOperation p outcome lease) } := by
  unfold acquireActivityLeaseLocked
  split
  next operation _ =>
    rw [ensures_require_bind, ensures_pure]
    intro _
    exact .inl ⟨operation, rfl⟩
  next hfresh =>
    rw [ensures_bind]
    rintro ⟨lease, outcome⟩ hdecided
    rw [ensures_pure]
    exact .inr ⟨lease, outcome, hfresh, hdecided, rfl⟩

/-! ## Renewal, telemetry and end -/

structure LeaseFence where
  writerNodeID : NodeID
  sessionID : UUID
  (activityEpoch controllerGeneration : ℤ)
  deriving DecidableEq

def ActivityLease.matchesFence (lease : ActivityLease) (f : LeaseFence) : Bool :=
  lease.writerNodeID = f.writerNodeID && lease.sessionID = f.sessionID &&
    lease.activityEpoch = f.activityEpoch && lease.controllerGeneration = f.controllerGeneration

/-- `UPDATE user_activity_leases … WHERE p`. -/
def updateLease (o : Option ActivityLease) (p : ActivityLease → Bool)
    (f : ActivityLease → ActivityLease) : Option ActivityLease :=
  o.map fun lease => if p lease then f lease else lease

def renewActivityLease (fence : LeaseFence) (now : Time) (ttl : Duration) (db : Db) :
    Except StoreError Db := do
  require (0 < ttl) .invalidInput
  return { db with
    lease := updateLease db.lease (fun l => l.matchesFence fence && l.state = .active)
      fun l => { l with leaseExpiresAt := now + ttl, lastPageHeartbeatAt := now } }

structure ActivityLeaseTelemetry where
  fence : LeaseFence
  (lastPageHeartbeatAt lastRequestAt : Option Time)
  (inFlightReads inFlightWrites : ℤ)
  online : Bool
  now : Time
  ttl : Duration
  deriving DecidableEq

/-- `UpdateActivityLeaseTelemetry`: any live page or request extends the lease, and nothing
shortens it. -/
def updateActivityLeaseTelemetry (p : ActivityLeaseTelemetry) (db : Db) : Except StoreError Db := do
  require (0 ≤ p.inFlightReads ∧ 0 ≤ p.inFlightWrites ∧ 0 < p.ttl) .invalidInput
  return { db with
    lease := updateLease db.lease (fun l => l.matchesFence p.fence && l.state = .active)
      fun l => { l with
        lastPageHeartbeatAt := p.lastPageHeartbeatAt.getD (p.now - p.ttl)
        lastRequestAt := p.lastRequestAt.getD (p.now - p.ttl), inFlightReads := p.inFlightReads
        inFlightWrites := p.inFlightWrites
        leaseExpiresAt :=
          if p.online then max l.leaseExpiresAt (p.now + p.ttl) else l.leaseExpiresAt } }

/-- `state='ended', lease_expires_at=now`: what every statement that ends the lease sets. -/
def ActivityLease.endedAt (lease : ActivityLease) (now : Time) : ActivityLease :=
  { lease with state := .ended, leaseExpiresAt := now }

def endActivityLease (fence : LeaseFence) (now : Time) (db : Db) : Except StoreError Db :=
  return { db with
    lease := updateLease db.lease (fun l => l.matchesFence fence && l.state.holding)
      fun l => l.endedAt now }

/-! ## What one transaction can do to the row -/

structure ActivityLease.SameHolder (l l' : ActivityLease) : Prop where
  writer : l'.writerNodeID = l.writerNodeID
  session : l'.sessionID = l.sessionID
  epoch : l'.activityEpoch = l.activityEpoch

/-- The row is ended or frozen by a conflict at time `now`; counters may be cleared. -/
structure ActivityLease.Closes (now : Time) (l l' : ActivityLease) : Prop where
  same : l.SameHolder l'
  after : l'.state.holding = false
  expires : l'.leaseExpiresAt = now
  drained : l.inFlight = false → l'.inFlight = false

/-- The ways in which a transaction at time `now` may rewrite the lease row.  `requests n` says that
it is a request for a writer on `n`, `reports` that it is about a session, and `resolves l n` that a
conflict resolution with base `n` is about to be published for the epoch of `l`. -/
inductive LeaseChange (now : Time) (requests : NodeID → Prop) (reports : Prop)
    (resolves : ActivityLease → NodeID → Prop) :
    Option ActivityLease → Option ActivityLease → Prop
  | unchanged (o : Option ActivityLease) : LeaseChange now requests reports resolves o o
  /-- Times and counters of an active lease move. -/
  | touched {l l' : ActivityLease} (report : reports) (same : l.SameHolder l')
      (before : l.state = .active) (after : l'.state = .active) :
      LeaseChange now requests reports resolves (some l) (some l')
  | closed {l l' : ActivityLease} (closes : l.Closes now l') :
      LeaseChange now requests reports resolves (some l) (some l')
  /-- The same writer gets a new session and a new epoch after a promotion. -/
  | renewed {l l' : ActivityLease} {n : NodeID} (requested : requests n)
      (writer : l'.writerNodeID = l.writerNodeID)
      (epoch : l'.activityEpoch = l.activityEpoch + 1) :
      LeaseChange now requests reports resolves (some l) (some l')
  /-- A new writer, when nothing blocked it. -/
  | acquired {o : Option ActivityLease} {l' : ActivityLease} (requested : requests l'.writerNodeID)
      (free : ∀ l ∈ o, leaseBlocksNewWriter l now = false)
      (epoch : l'.activityEpoch = nextEpoch o) :
      LeaseChange now requests reports resolves o (some l')
  /-- A resolved conflict records its base as the writer of the epoch it started from. -/
  | rebased {l l' : ActivityLease} (resolved : resolves l l'.writerNodeID)
      (session : l'.sessionID = l.sessionID) (epoch : l'.activityEpoch = l.activityEpoch)
      (after : l'.state = .ended) : LeaseChange now requests reports resolves (some l) (some l')

section

variable {now : Time} {requests : NodeID → Prop} {reports : Prop}
  {resolves : ActivityLease → NodeID → Prop}
  {o : Option ActivityLease} {p : ActivityLease → Bool} {f : ActivityLease → ActivityLease}

variable {q : AcquireActivityLeaseParams} {lease : ActivityLease}

lemma decideLease_cases (h : decideLease q o = .ok (lease, outcome)) :
    (∃ l, o = some l ∧ leaseBlocksNewWriter l q.now ∧
      (outcome = .renewed ∧ lease = freshLease q l.writerNodeID (l.activityEpoch + 1) ∨
        outcome = .existing ∧ lease = l)) ∨
    (∀ l ∈ o, leaseBlocksNewWriter l q.now = false) ∧ q.existingWriterOnly = false ∧
      outcome = .acquired ∧ lease = freshLease q q.writerNodeID (nextEpoch o) := by
  cases o with
  | none =>
    simp only [decideLease] at h
    split at h
    · cases h
    next hnew =>
      cases h
      exact .inr ⟨by simp, by simpa using hnew, rfl, rfl⟩
  | some l =>
    simp only [decideLease] at h
    split at h
    next hrenewed =>
      cases h
      simp only [Bool.and_eq_true] at hrenewed
      exact .inl ⟨l, rfl, hrenewed.1.1, .inl ⟨rfl, rfl⟩⟩
    · split at h
      next hblocks =>
        cases h
        exact .inl ⟨_, rfl, hblocks, .inr ⟨rfl, rfl⟩⟩
      next hfree =>
        split at h
        · cases h
        next hnew =>
          cases h
          exact .inr ⟨by simpa using hfree, by simpa using hnew, rfl, rfl⟩

lemma decideLease_change (hrequest : requests q.writerNodeID)
    (h : decideLease q o = .ok (lease, outcome)) :
    LeaseChange q.now requests reports resolves o (some lease) := by
  obtain ⟨l, rfl, -, ⟨-, rfl⟩ | ⟨-, rfl⟩⟩ | ⟨hfree, -, -, rfl⟩ := decideLease_cases h
  · exact .renewed hrequest rfl rfl
  · exact .unchanged _
  · exact .acquired hrequest hfree rfl

lemma decideLease_acquired (h : decideLease q o = .ok (lease, .acquired)) :
    q.existingWriterOnly = false ∧ lease.writerNodeID = q.writerNodeID := by
  obtain ⟨_, -, -, ⟨hother, -⟩ | ⟨hother, -⟩⟩ | ⟨-, hnew, -, rfl⟩ := decideLease_cases h
  · cases hother
  · cases hother
  · exact ⟨hnew, rfl⟩

lemma decideLease_existing (h : decideLease q o = .ok (lease, outcome))
    (hexisting : (outcome = .existing || outcome = .renewed)) :
    ∃ l, o = some l ∧ l.writerNodeID = lease.writerNodeID ∧ leaseBlocksNewWriter l q.now := by
  obtain ⟨l, rfl, hblocks, ⟨-, rfl⟩ | ⟨-, rfl⟩⟩ | ⟨-, -, rfl, -⟩ := decideLease_cases h
  · exact ⟨l, rfl, rfl, hblocks⟩
  · exact ⟨_, rfl, rfl, hblocks⟩
  · cases hexisting

section

variable (hcloses : ∀ l : ActivityLease, l.Closes now (f l))
include hcloses

lemma updateLease_closed : LeaseChange now requests reports resolves o (updateLease o p f) := by
  unfold updateLease
  cases o with
  | none => exact .unchanged _
  | some l =>
    by_cases hp : p l
    · simpa [hp] using .closed (hcloses l)
    · simpa [hp] using LeaseChange.unchanged _

lemma map_closed : LeaseChange now requests reports resolves o (o.map f) := by
  cases o with
  | none => exact .unchanged _
  | some l => exact .closed (hcloses l)

end

lemma updateLease_held (hclosed : ∀ l, (f l).state.holding = false) (h : updateLease o p f = some l)
    (hholds : l.state.holding) : o = some l := by
  obtain ⟨l₀, hl₀, heq⟩ := map_eq_some_iff.mp h
  split at heq
  · simp [← heq, hclosed] at hholds
  · rw [hl₀, heq]

lemma updateLease_touched (hreport : reports) (hactive : ∀ l, p l → l.state = .active)
    (hsame : ∀ l : ActivityLease, l.SameHolder (f l)) (hstate : ∀ l, (f l).state = l.state) :
    LeaseChange now requests reports resolves o (updateLease o p f) := by
  unfold updateLease
  cases o with
  | none => exact .unchanged _
  | some l =>
    by_cases hp : p l
    · simpa [hp] using .touched hreport (hsame l) (hactive l hp) ((hstate l).trans (hactive l hp))
    · simpa [hp] using LeaseChange.unchanged _

end

end StControl.Store
