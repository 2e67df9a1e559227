import StControl.Store.WorkflowProgress

/-!
# Restores

A restore brings the newest archive of a user whose home is unusable to another compute node and
makes that node the home.  `CreateRestoreWorkflow` fixes the archive and the target; the user has
acknowledged the publication time of the archive.  `CompleteRestoreWorkflow` checks the lease and
the archive again and then moves the home, wherever it is by then, to the target.
-/

namespace StControl.Store

open Transaction

variable {db : Db}

def ActivityLease.refusesRestore (l : ActivityLease) (now : Time) : Bool :=
  leaseBlocksNewWriter l now || l.inFlight || l.state = .independent || l.state = .quiescing

/-! ## Creation -/

structure CreateRestoreWorkflowParams where
  operationID : UUID
  requestDigest : Digest
  (workflowID restoreSnapshotID capabilityID : UUID)
  capabilityHash : Digest
  capabilityExpires : Time
  targetNodeID : NodeID
  (expectedRecoveryAt now : Time)
  deriving DecidableEq

def Db.offeredArchive (db : Db) : Option (RecoveryPoint × SnapshotManifest) := do
  let protection ← db.protection
  let source ← protection.recoveryNodeID
  let snapshot ← protection.latestRecoverySnapshotID
  let published ← protection.latestRecoveryAt
  let copy ← db.copies.get? source
  let manifest ← db.manifests.get? snapshot
  let node ← db.nodes.get? source
  if protection.state = .restoreRequired && copy.snapshotID = some snapshot &&
      copy.replicaKind = .archive && copy.state = .ready &&
      copy.compatibilityState = .compatible && manifest.state = .immutable &&
      node.role = .storage && node.serving then
    some (⟨source, snapshot, published⟩, manifest)
  else none

def Db.takesRestore (db : Db) (target : NodeID) : Bool :=
  (db.nodes.get? target).any (fun n => n.role = .compute && n.serving && n.takesData &&
      n.transferURL ≠ "") &&
    (db.copies.get? target).all (fun c => c.state ≠ .conflict) &&
    !db.activeCleanup target &&
    (db.accounts.get? target).all fun a => a.status ≠ .disabled && a.status ≠ .conflict

/-- The statements of `CreateRestoreWorkflow` after its checks. -/
def insertRestoreWorkflow (p : CreateRestoreWorkflowParams) (archive : RecoveryPoint)
    (epoch generation : ℤ) (accounts : Table NodeID NodeAccount) (db : Db) : Db :=
  { db with
    workflows := db.workflows.put p.workflowID
      (newWorkflow p.operationID .restore .ordinary archive.nodeID p.targetNodeID epoch generation)
    accounts
    manifests := db.manifests.put p.restoreSnapshotID
      (newManifest p.workflowID archive.nodeID epoch)
    capabilities := db.capabilities.put p.capabilityID
      (newCapability p.workflowID p.restoreSnapshotID p.capabilityHash generation
        p.capabilityExpires)
    restores := db.restores.put p.operationID
      { requestDigest := p.requestDigest, workflowID := p.workflowID, sourceNodeID := archive.nodeID
        targetNodeID := p.targetNodeID, sourceSnapshotID := archive.snapshotID
        restoreSnapshotID := p.restoreSnapshotID, sourcePublishedAt := archive.publishedAt
        completedAt := none }
    replicas := db.replicas.upsert p.targetNodeID
      { kind := .hotStandby, state := .syncing, dataVersion := 0, lastSyncAt := none }
      fun r => { r with kind := .hotStandby, state := .syncing } }

def createRestoreWorkflow (p : CreateRestoreWorkflowParams) (db : Db) : Except StoreError Db := do
  require (0 < p.targetNodeID ∧ p.now < p.capabilityExpires) .invalidInput
  match db.restores.get? p.operationID with
  | some operation => do
    require (operation.targetNodeID = p.targetNodeID ∧
      operation.sourcePublishedAt = p.expectedRecoveryAt ∧
      operation.requestDigest = p.requestDigest) .restoreConflict
    return db
  | none => do
    require db.faultRecoveryReady .userDataFaultUnavailable
    let generation ← need db.activeGeneration .noActiveGeneration
    require (db.lease.all fun l => !l.refusesRestore p.now) .replicaTakeoverLeaseActive
    require (db.liveWorkflow = false) .restoreConflict
    require db.user.isActive .restoreUnavailable
    let home ← need db.user.homeNodeID .restoreUnavailable
    let (archive, manifest) ← need db.offeredArchive .restoreUnavailable
    require (archive.publishedAt = p.expectedRecoveryAt) .restoreUnavailable
    require (archive.nodeID ≠ p.targetNodeID ∧ home ≠ p.targetNodeID) .restoreUnavailable
    require (db.takesRestore p.targetNodeID) .restoreUnavailable
    require (db.acceptsWorkflow p.workflowID p.operationID) .constraintViolation
    let accounts ← prepareWorkflowTargetAccount db p.targetNodeID
    require (db.acceptsTransfer p.restoreSnapshotID p.capabilityID p.capabilityHash)
      .constraintViolation
    return insertRestoreWorkflow p archive manifest.activityEpoch generation accounts db

structure RestoreCreation (p : CreateRestoreWorkflowParams) (db : Db) (home : NodeID)
    (archive : RecoveryPoint) (manifest : SnapshotManifest) (generation : ℤ)
    (accounts : Table NodeID NodeAccount) : Prop where
  fresh : db.restores.get? p.operationID = none
  current : db.activeGeneration = some generation
  lease : db.lease.all (fun l => !l.refusesRestore p.now)
  isHome : db.user.homeNodeID = some home
  offered : db.offeredArchive = some (archive, manifest)
  acknowledged : archive.publishedAt = p.expectedRecoveryAt
  neSource : archive.nodeID ≠ p.targetNodeID
  neHome : home ≠ p.targetNodeID
  accepts : db.acceptsWorkflow p.workflowID p.operationID
  prepared : prepareWorkflowTargetAccount db p.targetNodeID = .ok accounts

variable {p : CreateRestoreWorkflowParams}

lemma createRestoreWorkflow_created (hfresh : db.restores.get? p.operationID = none) :
    Ensures (createRestoreWorkflow p db) fun db' =>
      ∃ home archive manifest generation accounts,
        RestoreCreation p db home archive manifest generation accounts ∧
        db' = insertRestoreWorkflow p archive manifest.activityEpoch generation accounts db := by
  simp only [createRestoreWorkflow, hfresh, ensures_steps]
  rintro - - generation hcurrent hlease - - home hhome ⟨archive, manifest⟩ hoffered hack
    ⟨hneSource, hneHome⟩ - haccepts
  rw [ensures_bind]
  intro accounts haccounts
  simp only [ensures_steps]
  intro _
  exact ⟨home, archive, manifest, generation, accounts,
    ⟨hfresh, hcurrent, hlease, hhome, hoffered, hack, hneSource, hneHome, haccepts, haccounts⟩,
    rfl⟩

lemma createRestoreWorkflow_commit : Ensures (createRestoreWorkflow p db) fun db' => db' = db ∨
      ∃ home archive manifest generation accounts,
        RestoreCreation p db home archive manifest generation accounts ∧
        db' = insertRestoreWorkflow p archive manifest.activityEpoch generation accounts db := by
  cases hrecorded : db.restores.get? p.operationID with
  | none => exact (createRestoreWorkflow_created hrecorded).mono fun _ => .inr
  | some operation =>
    simp only [createRestoreWorkflow, hrecorded, ensures_steps]
    rintro - -
    exact .inl trivial

/-! ## Progress -/

def resetRestoreTransferForRetry (workflowID : UUID) (db : Db) : Except StoreError Db := do
  let w ← need (db.workflows.get? workflowID) .restoreConflict
  require (w.workflowType = .restore ∧ (w.state = .transferring ∨ w.state = .verifying) ∧
    db.isCurrent w) .restoreConflict
  return { db with workflows := db.workflows.put workflowID { w with state := .transferring } }

/-! ## Completion -/

structure CompleteRestoreWorkflowParams where
  (workflowID restoreSnapshotID : UUID)
  (capabilityHash manifestSHA256 : Digest)
  now : Time
  deriving DecidableEq

def Db.restoreOperation (db : Db) (workflowID : UUID) : Option (UUID × RestoreOperation) :=
  db.restores.find? fun _ o => o.workflowID = workflowID

def Db.archiveUnchanged (db : Db) (operation : RestoreOperation) : Bool :=
  (db.copies.get? operation.sourceNodeID).any (fun c =>
      c.snapshotID = some operation.sourceSnapshotID && c.replicaKind = .archive &&
      c.state = .ready && c.compatibilityState = .compatible &&
      c.publishedAt = some operation.sourcePublishedAt) &&
    (db.manifests.get? operation.sourceSnapshotID).any fun m => m.state = .immutable

/-- The copies after a restore: the old home's is stale, the target's is the authority and names
the restored snapshot. -/
def restoredCopies (copies : Table NodeID ReplicaCopy) (home target : NodeID) (snapshot : UUID)
    (now : Time) : Table NodeID ReplicaCopy :=
  ((clearAuthority copies).modify home
    fun c => { c with isAuthoritative := false, state := .stale }).upsert target
    { snapshotID := some snapshot, replicaKind := .active, state := .ready, origin := .recovery
      isAuthoritative := true, compatibilityState := .compatible, publishedAt := some now }
    fun c => { c with
      snapshotID := some snapshot, replicaKind := .active, state := .ready, origin := .recovery
      isAuthoritative := true, compatibilityState := .compatible, publishedAt := some now }

def restoredReplicas (replicas : Table NodeID UserReplica) (home target : NodeID) (now : Time) :
    Table NodeID UserReplica :=
  (replicas.modify home fun r => { r with kind := .hotStandby, state := .stale }).modify target
    fun r => { r with
      kind := .home, state := .ready, dataVersion := nextDataVersion replicas
      lastSyncAt := some now }

/-- The statements of `CompleteRestoreWorkflow` after its checks. -/
def promoteRestored (p : CompleteRestoreWorkflowParams) (operationID : UUID)
    (operation : RestoreOperation) (home : NodeID) (db : Db) : Db :=
  { db with
    manifests := db.manifests.modify p.restoreSnapshotID
      fun m => { m with state := .immutable, manifestSHA256 := p.manifestSHA256 }
    replicas := restoredReplicas db.replicas home operation.targetNodeID p.now
    user := { db.user with homeNodeID := some operation.targetNodeID }
    copies := restoredCopies db.copies home operation.targetNodeID p.restoreSnapshotID p.now
    accounts := switchAccounts db.accounts home operation.targetNodeID
    lease := db.lease.map fun l => l.endedAt p.now
    tickets := revokeTickets db.tickets p.now
    capabilities := db.capabilities.update
      (fun _ c => c.workflowID = p.workflowID && c.tokenHash = p.capabilityHash &&
        c.state = .prepared) fun c => { c with state := .consumed }
    workflows := db.workflows.modify p.workflowID fun w => { w with state := .succeeded }
    restores := db.restores.put operationID { operation with completedAt := some p.now }
    protection := some
      (backupRequired db.protection "restore_completed_backup_required" operation.targetNodeID)
    faults := resolveUserDataFault db.faults }

/-- `CompleteRestoreWorkflow`: a repeated completion changes nothing. -/
def completeRestoreWorkflow (p : CompleteRestoreWorkflowParams) (db : Db) :
    Except StoreError Db := do
  let w ← need (db.workflows.get? p.workflowID) .notFound
  let (operationID, operation) ← need (db.restoreOperation p.workflowID) .notFound
  require (operation.restoreSnapshotID = p.restoreSnapshotID) .notFound
  let home ← need db.user.homeNodeID .notFound
  if w.state = .succeeded then return db
  else do
    require (w.state = .publishing) .restoreConflict
    require db.user.isActive .restoreConflict
    require db.faultRecoveryReady .userDataFaultUnavailable
    require (db.isCurrent w) .restoreConflict
    -- the user may have come back while the transfer was in flight
    require (db.lease.all fun l => !l.refusesRestore p.now) .replicaTakeoverLeaseActive
    require (db.archiveUnchanged operation) .restoreUnavailable
    let target ← need (db.nodes.get? operation.targetNodeID) .restoreUnavailable
    require (target.role = .compute ∧ target.serving ∧ db.accountActive operation.targetNodeID)
      .restoreUnavailable
    let manifest ← need (db.manifests.get? p.restoreSnapshotID) .restoreConflict
    require (manifest.workflowID = p.workflowID ∧ manifest.state = .building) .restoreConflict
    require ((db.replicas.get? home).any fun r => r.kind = .home) .restoreConflict
    require (db.replicas.get? operation.targetNodeID).isSome .restoreConflict
    require (db.capabilities.any fun _ c => c.workflowID = p.workflowID &&
      c.tokenHash = p.capabilityHash && c.state = .prepared) .restoreConflict
    require (operation.completedAt = none) .restoreConflict
    return promoteRestored p operationID operation home db

structure RestoreCommit (p : CompleteRestoreWorkflowParams) (db : Db) (w : Workflow)
    (operationID : UUID) (operation : RestoreOperation) (home : NodeID) : Prop where
  workflow : db.workflows.get? p.workflowID = some w
  publishing : w.state = .publishing
  active : db.user.isActive
  faults : db.faultRecoveryReady
  ofWorkflow : db.restoreOperation p.workflowID = some (operationID, operation)
  unfinished : operation.completedAt = none
  isHome : db.user.homeNodeID = some home
  lease : db.lease.all (fun l => !l.refusesRestore p.now)
  unchanged : db.archiveUnchanged operation
  serving : ∃ n, db.nodes.get? operation.targetNodeID = some n ∧ n.serving
  account : db.accountActive operation.targetNodeID
  homeReplica : ∃ r, db.replicas.get? home = some r ∧ r.kind = .home
  targetReplica : (db.replicas.get? operation.targetNodeID).isSome

lemma completeRestoreWorkflow_commit {p : CompleteRestoreWorkflowParams} :
    Ensures (completeRestoreWorkflow p db) fun db' =>
      (db' = db ∧ ∃ w, db.workflows.get? p.workflowID = some w ∧ w.state = .succeeded) ∨
      ∃ w operationID operation home, RestoreCommit p db w operationID operation home ∧
        db' = promoteRestored p operationID operation home db := by
  simp only [completeRestoreWorkflow, ensures_steps, ensures_ite, Option.any_eq_true]
  rintro w hw ⟨operationID, operation⟩ hoperation - home hhome
  constructor
  · intro hsucceeded
    exact .inl ⟨trivial, w, hw, hsucceeded⟩
  · rintro - hpublishing hactive hfaults - hlease hunchanged target htargetNode
      ⟨-, hserving, haccount⟩ manifest - - ⟨r, hr, hkind⟩ htarget - hopen
    exact .inr ⟨w, operationID, operation, home,
      ⟨hw, hpublishing, hactive, hfaults, hoperation, hopen, hhome, hlease, hunchanged,
        ⟨target, htargetNode, hserving⟩, haccount, ⟨r, hr, by simpa using hkind⟩, htarget⟩, rfl⟩

/-! ## Failure -/

/-- `FailRestoreWorkflow`: a repeated failure changes nothing. -/
def failRestoreWorkflow (workflowID : UUID) (now : Time) (db : Db) : Except StoreError Db := do
  let w ← need (db.workflows.get? workflowID) .notFound
  let (operationID, operation) ← need (db.restoreOperation workflowID) .notFound
  if w.state = .failed then return db
  else do
    require w.state.live .restoreConflict
    return { db with
      workflows := endWorkflow db.workflows workflowID .failed
      capabilities := revokeCapabilities db.capabilities workflowID
      manifests := db.manifests.update
        (fun _ m => m.workflowID = workflowID && m.state = .building)
        fun m => { m with state := .invalid }
      replicas := db.replicas.update
        (fun node r => node = w.targetNodeID && r.kind = .hotStandby && r.state = .syncing)
        fun r => { r with state := .error }
      accounts := db.accounts.update (fun node a => node = w.targetNodeID && a.status = .pending)
        fun a => { a with status := .error }
      restores := db.restores.put operationID
        { operation with completedAt := operation.completedAt.orElse fun _ => some now } }

end StControl.Store
