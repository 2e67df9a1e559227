import StControl.Store.Leases

/-!
# Data faults, and the statements that several transactions share

`ReportUserDataFault` closes a user's home for writing when its data are found damaged: the home
replica and the home copy become corrupt, the lease is ended and the unconsumed tickets are
revoked.  The takeover and the restore that repair the damage ask
`requireUserDataFaultRecoveryReadyLocked` first and resolve the fault in the end.

The first section holds the small statements that this and the following transactions have in
common.
-/

namespace StControl.Store

open Transaction

/-! ## Shared statements -/

/-- `UPDATE control_tickets SET revoked_at=COALESCE(revoked_at,now) WHERE consumed_at IS NULL`. -/
def revokeTickets (tickets : Table UUID ControlTicket) (now : Time) : Table UUID ControlTicket :=
  tickets.update (fun _ t => t.consumedAt.isNone) fun t =>
    { t with revokedAt := t.revokedAt.orElse fun _ => some now }

/-- `UPDATE replica_copies SET is_authoritative=false WHERE is_authoritative`. -/
def clearAuthority (copies : Table NodeID ReplicaCopy) : Table NodeID ReplicaCopy :=
  copies.update (fun _ c => c.isAuthoritative) fun c => { c with isAuthoritative := false }

/-- `UPDATE node_accounts SET status=CASE WHEN node_id=target THEN 'active' ELSE 'stale' END
WHERE node_id IN (target,source)`. -/
def switchAccounts (accounts : Table NodeID NodeAccount) (source target : NodeID) :
    Table NodeID NodeAccount :=
  (accounts.modify source fun a => { a with status := .stale }).modify target
    fun a => { a with status := .active }

def backupRequired (before : Option ProtectionState) (reason : String) (home : NodeID) :
    ProtectionState where
  state := .unprotected
  reasonCode := reason
  authoritativeNodeID := some home
  recoveryNodeID := none
  latestRecoverySnapshotID := none
  latestRecoveryAt := none
  version := (before.map fun s => s.version + 1).getD 1

section

variable (db : Db)

def Db.liveWorkflow : Bool := db.workflows.any fun _ w => w.state.live

def Db.openConflict : Bool :=
  db.conflicts.any fun _ c => c.state ≠ .resolved && c.state ≠ .failed

def Db.openFault : Bool := db.faults.any fun _ f => f.state ≠ .resolved

def Db.activeCleanup (node : NodeID) : Bool :=
  db.cleanups.any fun _ c => c.nodeID = node &&
    (c.state = .pending || c.state = .running || c.state = .retryWait)

/-- `COALESCE(activity.activity_epoch,1)`: the epoch of the lease row, `1` when there is none. -/
def Db.leaseEpoch : ℤ := (db.lease.map (·.activityEpoch)).getD 1

/-! ## Reporting a fault -/

structure ReportUserDataFaultParams where
  operationID : UUID
  requestDigest : Digest
  expectedHomeNodeID : NodeID
  reasonCode : FaultReason
  adminID : ℤ
  now : Time
  deriving DecidableEq

/-- The statements of `ReportUserDataFault` after its checks. -/
def closeFaultyHome (p : ReportUserDataFaultParams) (home : NodeID) (generation : ℤ) (db : Db) :
    Db :=
  { db with
    faults := db.faults.put p.operationID
      { requestDigest := p.requestDigest, nodeID := home, reasonCode := p.reasonCode
        reportedByAdminID := p.adminID, state := .reported, released := false
        activityEpoch := db.leaseEpoch, controllerGeneration := generation }
    replicas := db.replicas.upsert home
      { kind := .home, state := .corrupt, dataVersion := 0, lastSyncAt := some p.now }
      fun r => { r with kind := .home, state := .corrupt, lastSyncAt := some p.now }
    copies := db.copies.upsert home
      { snapshotID := none, replicaKind := .active, state := .corrupt, origin := .primary
        isAuthoritative := true, compatibilityState := .compatible, publishedAt := none }
      fun c => { c with
        snapshotID := none, replicaKind := .active, state := .corrupt, origin := .primary
        isAuthoritative := true }
    lease := updateLease db.lease (fun l => l.state ≠ .ended)
      fun l => { l.endedAt p.now with inFlightReads := 0, inFlightWrites := 0 }
    tickets := revokeTickets db.tickets p.now }

def reportUserDataFault (p : ReportUserDataFaultParams) (db : Db) : Except StoreError Db :=
  match db.faults.get? p.operationID with
  | some fault => do
    require (fault.nodeID = p.expectedHomeNodeID ∧ fault.reasonCode = p.reasonCode ∧
      fault.reportedByAdminID = p.adminID ∧ fault.requestDigest = p.requestDigest)
      .userDataFaultConflict
    return db
  | none => do
    require (0 < p.expectedHomeNodeID ∧ 0 < p.adminID) .invalidInput
    require db.user.isActive .notFound
    let home ← need db.user.homeNodeID .userDataFaultUnavailable
    let node ← need (db.nodes.get? home) .userDataFaultUnavailable
    require (home = p.expectedHomeNodeID ∧ node.role = .compute) .userDataFaultUnavailable
    require (db.copies.all fun n c => !c.isAuthoritative || n = home) .userDataFaultUnavailable
    require (db.faults.all fun _ f => f.state = .resolved && f.released) .userDataFaultUnavailable
    let generation ← need db.activeGeneration .noActiveGeneration
    return closeFaultyHome p home generation db

lemma reportUserDataFault_commit {p : ReportUserDataFaultParams} {db : Db} :
    Ensures (reportUserDataFault p db) fun db' => db' = db ∨
      ∃ home generation, db.user.homeNodeID = some home ∧
        db' = closeFaultyHome p home generation db := by
  unfold reportUserDataFault
  split
  · rw [ensures_require_bind, ensures_pure]
    intro _
    exact .inl rfl
  · simp only [ensures_steps]
    rintro - - home hhome node - - - - generation -
    exact .inr ⟨home, generation, hhome, rfl⟩

/-- `requireUserDataFaultRecoveryReadyLocked`: an open fault has to be ready for recovery. -/
def Db.faultRecoveryReady : Bool :=
  db.faults.all fun _ f => f.state = .resolved || f.state = .recoveryAvailable

end

/-- `resolveUserDataFaultLocked`. -/
def resolveUserDataFault (faults : Table UUID UserDataFault) : Table UUID UserDataFault :=
  faults.update (fun _ f => f.state = .recoveryAvailable)
    fun f => { f with state := .resolved, released := false }

end StControl.Store
