import StControl.Store.Snapshots

/-!
# The life of a workflow

The statements that move a live workflow, complete a snapshot, or end it without success.  None
of them changes the type, the source, the target or the activity epoch of the row, and only
`CompleteSnapshotWorkflow` makes a copy of the user's data a ready recovery point.
-/

namespace StControl.Store

open Transaction

/-! ## Moving a live workflow -/

/-- `UPDATE snapshot_transfer_capabilities SET state='revoked' WHERE state='prepared'` for one
workflow. -/
def revokeCapabilities (capabilities : Table UUID TransferCapability) (workflowID : UUID) :
    Table UUID TransferCapability :=
  capabilities.update (fun _ c => c.workflowID = workflowID && c.state = .prepared)
    fun c => { c with state := .revoked }

def Db.isCurrent (db : Db) (w : Workflow) :
    Bool := db.activeGeneration = some w.controllerGeneration

section

variable (workflowID : UUID)

/-- `AdoptStaleSnapshotWorkflows`, for one workflow. -/
def adoptStaleSnapshotWorkflow (now : Time) (db : Db) :
    Except StoreError Db := do
  let generation ← need db.activeGeneration .noActiveGeneration
  let w ← need (db.workflows.get? workflowID) .notFound
  require (w.workflowType = .snapshot ∧ w.state.live ∧ w.controllerGeneration ≠ generation)
    .snapshotWorkflowConflict
  return { db with
    workflows := db.workflows.put workflowID { w with
      controllerGeneration := generation, errorCode := some .controllerGenerationRecovery
      nextAttemptAt := some now } }

def prepareRecoveredSnapshotCompletion (db : Db) : Except StoreError Db := do
  let w ← need (db.workflows.get? workflowID) .notFound
  require (w.workflowType = .snapshot ∧ db.isCurrent w ∧
    w.errorCode = some .controllerGenerationRecovery ∧
    (w.state = .transferring ∨ w.state = .verifying ∨ w.state = .publishing))
    .snapshotWorkflowConflict
  return { db with
    workflows := db.workflows.put workflowID { w with
      state := .publishing, errorCode := none, nextAttemptAt := none } }

/-- `UPDATE workflows SET state=… WHERE state NOT IN ('succeeded','cancelled','failed')` for one
workflow that ends. -/
def endWorkflow (workflows : Table UUID Workflow) (workflowID : UUID) (ended : WorkflowState) :
    Table UUID Workflow :=
  workflows.update (fun id w => id = workflowID && w.state.live)
    fun w => { w with state := ended, errorCode := some .other }

/-- `ResetRecoveredSnapshotWorkflow`: a retry under a fresh attempt, or a cancellation when the
job was aborted. -/
def resetRecoveredSnapshotWorkflow (now : Time) (db : Db) :
    Except StoreError Db := do
  let w ← need (db.workflows.get? workflowID) .notFound
  let job ← need (db.jobs.find? fun _ j => j.workflowID = some workflowID) .notFound
  require (w.workflowType = .snapshot ∧ db.isCurrent w ∧
    w.errorCode = some .controllerGenerationRecovery ∧ w.state.live) .snapshotWorkflowConflict
  if job.2.status = .aborted then
    return { db with
      workflows := endWorkflow db.workflows workflowID .cancelled
      capabilities := revokeCapabilities db.capabilities workflowID }
  else
    return { db with
      workflows := db.workflows.put workflowID { w with
        state := .retryWait, resumeState := some .quiescing, attempt := w.attempt + 1
        generationRecoveries := w.generationRecoveries + 1, nextAttemptAt := some now
        errorCode := some .other }
      capabilities := revokeCapabilities db.capabilities workflowID
      jobs := db.jobs.update
        (fun _ j => j.workflowID = some workflowID && j.status ≠ .done && j.status ≠ .aborted)
        fun j => { j with status := .pending } }

def WorkflowType.resumeState : WorkflowType → WorkflowState
  | .snapshot => .quiescing
  | .restore | .conflictResolution => .scheduled

def Db.preparedCapabilities (db : Db) (workflowID : UUID) : ℕ :=
  db.capabilities.count fun _ c => c.workflowID = workflowID && c.state = .prepared

def scheduleSnapshotRetry (now : Time) (delay : Duration) (db : Db) :
    Except StoreError Db := do
  require (0 < delay) .invalidInput
  let w ← need (db.workflows.get? workflowID) .snapshotWorkflowConflict
  require (w.state.live ∧ w.state ≠ .retryWait) .snapshotWorkflowConflict
  require (w.workflowType = .conflictResolution ∨ db.preparedCapabilities workflowID = 1)
    .snapshotWorkflowConflict
  return { db with
    workflows := db.workflows.put workflowID { w with
      state := .retryWait, resumeState := some w.workflowType.resumeState, attempt := w.attempt + 1
      nextAttemptAt := some (now + delay), errorCode := some .other }
    capabilities :=
      if w.workflowType = .conflictResolution then db.capabilities
      else revokeCapabilities db.capabilities workflowID }

def resumeSnapshotRetry (now : Time) (db : Db) : Except StoreError Db := do
  let w ← need (db.workflows.get? workflowID) .snapshotWorkflowConflict
  require (w.state = .retryWait ∧ w.nextAttemptAt.any fun t => t ≤ now) .snapshotWorkflowConflict
  let resumed ← need w.resumeState .snapshotWorkflowConflict
  return { db with
    workflows := db.workflows.put workflowID { w with
      state := resumed, resumeState := none, nextAttemptAt := none, errorCode := none } }

/-- `DeferSnapshotWorkflow`: the mark of a recovery stays, any other code says what is not ready. -/
def deferSnapshotWorkflow (now : Time) (delay : Duration) (db : Db) :
    Except StoreError Db := do
  require (0 < delay) .invalidInput
  let w ← need (db.workflows.get? workflowID) .snapshotWorkflowConflict
  require (w.workflowType = .snapshot ∧ w.state.live ∧ db.isCurrent w) .snapshotWorkflowConflict
  return { db with
    workflows := db.workflows.put workflowID { w with
      nextAttemptAt := some (now + delay)
      errorCode := some (if w.errorCode = some .controllerGenerationRecovery then
        .controllerGenerationRecovery else .nodeNotReady) } }

def clearSnapshotWorkflowDeferral (db : Db) : Except StoreError Db := do
  let w ← need (db.workflows.get? workflowID) .snapshotWorkflowConflict
  require (w.workflowType = .snapshot ∧ w.errorCode = some .nodeNotReady ∧ db.isCurrent w)
    .snapshotWorkflowConflict
  return { db with
    workflows := db.workflows.put workflowID { w with nextAttemptAt := none, errorCode := none } }

def rotateSnapshotCapability (workflowID capabilityID : UUID) (tokenHash : Digest)
    (expiresAt now : Time) (db : Db) : Except StoreError Db := do
  require (now < expiresAt) .invalidInput
  let w ← need (db.workflows.get? workflowID) .notFound
  let (snapshotID, _) ← need (db.manifests.find? fun _ m => m.workflowID = workflowID) .notFound
  require (db.isCurrent w ∧ w.state.live) .notFound
  require ((db.capabilities.get? capabilityID).isNone ∧
    db.capabilities.all fun _ c => c.tokenHash ≠ tokenHash) .constraintViolation
  return { db with
    capabilities := (revokeCapabilities db.capabilities workflowID).put capabilityID
      (newCapability workflowID snapshotID tokenHash w.controllerGeneration expiresAt) }

def setSnapshotWorkflowState (fromState toState : WorkflowState) (db : Db) :
    Except StoreError Db := do
  let w ← need (db.workflows.get? workflowID) .snapshotWorkflowConflict
  require (w.state = fromState ∧ db.isCurrent w) .snapshotWorkflowConflict
  return { db with workflows := db.workflows.put workflowID { w with state := toState } }

end

/-- `allowed`: from which state, and on whose report, a workflow progresses. -/
def Workflow.progressRule (w : Workflow) : WorkflowState → Option (WorkflowState × NodeID)
  | .drained => some (.quiescing, w.sourceNodeID)
  | .snapshotting => some (.drained, w.sourceNodeID)
  | .transferring => some (.snapshotting, w.sourceNodeID)
  | .verifying => some (.transferring, w.targetNodeID)
  | .publishing => some (.verifying, w.targetNodeID)
  | _ => none

/-- `SetSnapshotWorkflowProgress`: a repeated report changes nothing. -/
def setSnapshotWorkflowProgress (workflowID snapshotID : UUID) (nodeID : NodeID)
    (toState : WorkflowState) (db : Db) : Except StoreError Db := do
  let w ← need (db.workflows.get? workflowID) .notFound
  require ((db.manifests.get? snapshotID).any fun m => m.workflowID = workflowID) .notFound
  require (db.isCurrent w) .snapshotWorkflowConflict
  let (fromState, actor) ← need (w.progressRule toState) .snapshotWorkflowConflict
  require (actor = nodeID) .snapshotWorkflowConflict
  if w.state = toState then return db
  else do
    require (w.state = fromState) .snapshotWorkflowConflict
    return { db with workflows := db.workflows.put workflowID { w with state := toState } }

/-! ## Completion -/

/-- `CompleteSnapshotWorkflowParams`; the identity of the clean-up task that it may open is
random. -/
structure CompleteSnapshotWorkflowParams where
  (workflowID snapshotID : UUID)
  capabilityHash : Digest
  targetNodeID : NodeID
  replicaKind : CopyKind
  replicaOrigin : CopyOrigin
  manifestSHA256 : Digest
  cleanupID : UUID
  now : Time
  deriving DecidableEq

/-- `COALESCE(MAX(data_version),0)+1`. -/
def nextDataVersion (replicas : Table NodeID UserReplica) : ℤ :=
  replicas.fold 0 (fun best _ r => max best r.dataVersion) + 1

def supersededArchive (copies : Table NodeID ReplicaCopy) (target : NodeID) :
    Option (NodeID × ReplicaCopy) :=
  copies.find? fun node c => node ≠ target && c.replicaKind = .archive && c.state = .ready

section

variable (p : CompleteSnapshotWorkflowParams)

/-- The clean-up tasks after a completion: those that wait on the target are cancelled, and a
superseded archive gets one unless it has one. -/
def completionCleanups (db : Db) : Table UUID CleanupTask :=
  let cleanups := db.cleanups.update
    (fun _ c => c.nodeID = p.targetNodeID && (c.state = .pending || c.state = .retryWait))
    fun c => { c with state := .cancelled }
  match p.replicaKind, supersededArchive db.copies p.targetNodeID with
  | .archive, some (node, { snapshotID := some snapshot, .. }) =>
    if cleanups.any (fun _ c => c.nodeID = node && c.snapshotID = snapshot &&
        c.replicaKind = .archive) then cleanups
    else cleanups.put p.cleanupID
      { nodeID := node, snapshotID := snapshot, replicaKind := .archive, state := .pending
        controllerGeneration := 0 }
  | _, _ => cleanups

/-- The copies after a completion: one ready archive, and the target's copy names the snapshot. -/
def completionCopies (copies : Table NodeID ReplicaCopy) : Table NodeID ReplicaCopy :=
  let superseded :=
    if p.replicaKind = .archive then
      copies.update
        (fun node c => node ≠ p.targetNodeID && c.replicaKind = .archive && c.state = .ready)
        fun c => { c with state := .stale }
    else copies
  superseded.upsert p.targetNodeID
    { snapshotID := some p.snapshotID, replicaKind := p.replicaKind, state := .ready
      origin := p.replicaOrigin, isAuthoritative := false, compatibilityState := .compatible
      publishedAt := some p.now }
    fun c => { c with
      snapshotID := some p.snapshotID, replicaKind := p.replicaKind, state := .ready
      origin := p.replicaOrigin, compatibilityState := .compatible, publishedAt := some p.now }

def completionReplicas (replicas : Table NodeID UserReplica) : Table NodeID UserReplica :=
  let superseded :=
    if p.replicaKind = .archive then
      replicas.update
        (fun node r => node ≠ p.targetNodeID && r.kind = .archive && r.state = .ready)
        fun r => { r with state := .stale }
    else replicas
  superseded.modify p.targetNodeID fun r => { r with
    state := .ready, dataVersion := nextDataVersion replicas, lastSyncAt := some p.now }

def completionManifests (db : Db) : Table UUID SnapshotManifest :=
  let published := db.manifests.modify p.snapshotID
    fun m => { m with state := .immutable, manifestSHA256 := p.manifestSHA256 }
  match (db.copies.get? p.targetNodeID).bind (·.snapshotID) with
  | some old =>
    if old ≠ p.snapshotID then published.modify old fun m => { m with state := .deleted }
    else published
  | none => published

/-- The statements of `CompleteSnapshotWorkflow` after its checks. -/
def publishSnapshot (db : Db) : Db :=
  { db with
    manifests := completionManifests p db, cleanups := completionCleanups p db
    copies := completionCopies p db.copies, replicas := completionReplicas p db.replicas
    capabilities := db.capabilities.update
      (fun _ c => c.workflowID = p.workflowID && c.tokenHash = p.capabilityHash &&
        c.state = .prepared) fun c => { c with state := .consumed }
    jobs := db.jobs.update (fun _ j => j.workflowID = some p.workflowID)
      fun j => { j with status := .done }
    workflows := db.workflows.modify p.workflowID fun w => { w with state := .succeeded } }

/-- `CompleteSnapshotWorkflow`: a repeated completion changes nothing. -/
def completeSnapshotWorkflow (db : Db) :
    Except StoreError Db := do
  require (0 < p.targetNodeID ∧ (p.replicaKind = .archive ∨ p.replicaKind = .hotStandby) ∧
    p.replicaOrigin ≠ .primary ∧ p.replicaOrigin ≠ .recovery) .invalidInput
  let w ← need (db.workflows.get? p.workflowID) .notFound
  if w.state = .succeeded then return db
  else do
    require (w.state = .publishing) .snapshotWorkflowConflict
    require (db.isCurrent w) .snapshotWorkflowConflict
    let manifest ← need (db.manifests.get? p.snapshotID) .snapshotWorkflowConflict
    require (manifest.workflowID = p.workflowID ∧ manifest.state = .building)
      .snapshotWorkflowConflict
    require (db.cleanups.all fun _ c => c.nodeID ≠ p.targetNodeID || c.state ≠ .running)
      .snapshotWorkflowConflict
    require (db.capabilities.any fun _ c => c.workflowID = p.workflowID &&
      c.tokenHash = p.capabilityHash && c.state = .prepared) .snapshotWorkflowConflict
    require (db.jobs.count (fun _ j => j.workflowID = some p.workflowID) = 1)
      .snapshotWorkflowConflict
    require (db.replicas.get? p.targetNodeID).isSome .snapshotWorkflowConflict
    require (db.cleanups.get? p.cleanupID = none) .constraintViolation
    return publishSnapshot p db

end

lemma completeSnapshotWorkflow_commit {p : CompleteSnapshotWorkflowParams} {db : Db} :
    Ensures (completeSnapshotWorkflow p db) fun db' =>
      ∃ w, db.workflows.get? p.workflowID = some w ∧ ((w.state = .succeeded ∧ db' = db) ∨
          (w.state = .publishing ∧ db' = publishSnapshot p db)) := by
  simp only [completeSnapshotWorkflow, ensures_steps, ensures_ite]
  rintro - w hw
  constructor
  · intro hsucceeded
    exact ⟨w, hw, .inl ⟨hsucceeded, trivial⟩⟩
  · rintro - hpublishing - manifest - - - - - - -
    exact ⟨w, hw, .inr ⟨hpublishing, trivial⟩⟩

/-! ## Ending without success -/

def failedReplicas (db : Db) (target : NodeID) (now : Time) : Table NodeID UserReplica :=
  if (db.copies.get? target).any fun c => c.state = .ready && c.snapshotID.isSome then
    db.replicas
  else
    db.replicas.modify target
      fun r => { r with state := .error, dataVersion := 0, lastSyncAt := some now }

def failSnapshotWorkflow (workflowID : UUID) (now : Time) (db : Db) : Except StoreError Db := do
  let w ← need (db.workflows.get? workflowID) .notFound
  require (w.state ≠ .succeeded ∧ w.state ≠ .cancelled) .snapshotWorkflowConflict
  return { db with
    workflows := endWorkflow db.workflows workflowID .failed
    capabilities := revokeCapabilities db.capabilities workflowID
    jobs := db.jobs.update
      (fun _ j => j.workflowID = some workflowID && j.status ≠ .done && j.status ≠ .aborted)
      fun j => { j with status := .failed }
    replicas := failedReplicas db w.targetNodeID now }

def cancelSnapshotWorkflow (workflowID : UUID) (db : Db) : Except StoreError Db :=
  return { db with
    workflows := endWorkflow db.workflows workflowID .cancelled
    capabilities := revokeCapabilities db.capabilities workflowID }

def BackupJobStatus.terminal : BackupJobStatus → Bool
  | .done | .failed | .aborted => true
  | _ => false

def abortBackupJobAndSnapshotWorkflow (jobID : ℤ) (db : Db) : Except StoreError Db := do
  let job ← need (db.jobs.get? jobID) .notFound
  require (job.status.terminal = false) .snapshotWorkflowConflict
  let aborted := db.jobs.put jobID { job with status := .aborted }
  match job.workflowID with
  | none => return { db with jobs := aborted }
  | some workflowID => do
    require ((db.workflows.get? workflowID).all fun w => w.state.live) .snapshotWorkflowConflict
    return { db with
      jobs := aborted, workflows := endWorkflow db.workflows workflowID .cancelled
      capabilities := revokeCapabilities db.capabilities workflowID }

end StControl.Store
