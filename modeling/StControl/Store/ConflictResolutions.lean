import StControl.Store.Retirements

/-!
# Conflict evidence and conflict resolution

The sources of a conflict are inspected one by one; when all of them are captured, the conflict
waits for a decision.  `CreateConflictResolution` records the decision: one of the sources is the
base, the others are transferred to it, and the workflow takes over the activity epoch of the
frozen lease, or epoch `1` when the user has no lease row.  `CompleteConflictResolution` makes
the base the home and hands the lease row of that epoch to it.  There is at most one resolution
for a conflict; a failed one is restarted, not replaced.
-/

namespace StControl.Store

open Transaction

variable {db : Db}

/-! ## Evidence -/

/-- `ClaimConflictEvidenceTask`. -/
def claimConflictEvidence (conflictID : UUID) (nodeID : NodeID) (db : Db) :
    Except StoreError Db := do
  let conflict ← need (db.conflicts.get? conflictID) .notFound
  require (conflict.state = .detected ∨ conflict.state = .inspecting) .notFound
  let evidence ← need (conflict.sources.get? nodeID) .notFound
  require (evidence ≠ .ready) .notFound
  return { db with
    conflicts := db.conflicts.put conflictID { conflict with
      sources := conflict.sources.put nodeID .capturing, state := .inspecting
      version := if conflict.state = .detected then conflict.version + 1 else conflict.version } }

/-- `RetryConflictEvidenceTask`. -/
def retryConflictEvidence (conflictID : UUID) (nodeID : NodeID) (exhausted : Bool) (db : Db) :
    Except StoreError Db := do
  let conflict ← need (db.conflicts.get? conflictID) .notFound
  let evidence ← need (conflict.sources.get? nodeID) .notFound
  require (evidence = .capturing) .notFound
  return { db with
    conflicts := db.conflicts.put conflictID { conflict with
      sources := conflict.sources.put nodeID (if exhausted then .failed else .retryWait) } }

def completeConflictEvidence (conflictID : UUID) (nodeID : NodeID) (db : Db) :
    Except StoreError Db := do
  let conflict ← need (db.conflicts.get? conflictID) .notFound
  require (conflict.state = .inspecting) .notFound
  let evidence ← need (conflict.sources.get? nodeID) .notFound
  require (evidence = .capturing) .notFound
  let sources := conflict.sources.put nodeID .ready
  return { db with
    conflicts := db.conflicts.put conflictID { conflict with
      sources
      state := if sources.all (fun _ e => e = .ready) then .awaitingDecision else .inspecting
      version := conflict.version + 1 } }

/-! ## Creation -/

/-- `CreateConflictResolutionParams`; the decisions about single files do not reach the tables
that are modelled. -/
structure CreateConflictResolutionParams where
  operationID : UUID
  requestDigest : Digest
  (workflowID conflictID resultSnapshotID : UUID)
  expectedConflictVersion : ℤ
  baseNodeID : NodeID
  transfers : List NodeID
  now : Time
  deriving DecidableEq

def Db.sourcesCover (db : Db) (conflict : ReplicaConflict) : Bool :=
  db.replicas.all (fun node r => r.state ≠ .conflict || (conflict.sources.get? node).isSome) &&
    db.copies.all fun node c => c.state ≠ .conflict || (conflict.sources.get? node).isSome

def Db.leaseFrozen (db : Db) : Bool :=
  db.lease.all fun l => l.state = .conflict && !l.inFlight

/-- The statements of `createConflictResolutionOnce` after its checks. -/
def insertConflictResolution (p : CreateConflictResolutionParams) (conflict : ReplicaConflict)
    (generation : ℤ) (db : Db) : Db :=
  { db with
    workflows := db.workflows.put p.workflowID
      (newWorkflow p.operationID .conflictResolution .ordinary p.baseNodeID p.baseNodeID
        db.leaseEpoch generation)
    manifests := db.manifests.put p.resultSnapshotID
      (newManifest p.workflowID p.baseNodeID db.leaseEpoch)
    resolutions := db.resolutions.put p.operationID
      { requestDigest := p.requestDigest, workflowID := p.workflowID, conflictID := p.conflictID
        baseNodeID := p.baseNodeID, resultSnapshotID := p.resultSnapshotID
        transfers := p.transfers.foldl (fun t node => t.put node .prepared) ∅
        completedAt := none }
    conflicts := db.conflicts.put p.conflictID
      { conflict with state := .resolving, version := conflict.version + 1 } }

def createConflictResolution (p : CreateConflictResolutionParams) (db : Db) :
    Except StoreError Db :=
  match db.resolutions.get? p.operationID with
  | some operation => do
    require (operation.baseNodeID = p.baseNodeID ∧ operation.conflictID = p.conflictID ∧
      operation.requestDigest = p.requestDigest) .conflictResolutionConflict
    return db
  | none => do
    require (p.transfers.Nodup ∧ p.baseNodeID ∉ p.transfers) .invalidInput
    let generation ← need db.activeGeneration .noActiveGeneration
    let conflict ← need (db.conflicts.get? p.conflictID) .conflictResolutionUnavailable
    require (db.user.globalStatus = .conflict ∧ db.user.legacyStatus = .conflict)
      .conflictResolutionUnavailable
    require (conflict.state = .awaitingDecision ∧ conflict.version = p.expectedConflictVersion)
      .conflictResolutionUnavailable
    require (conflict.sources.all (fun _ e => e = .ready) ∧ db.sourcesCover conflict)
      .conflictResolutionUnavailable
    require db.leaseFrozen .conflictResolutionUnavailable
    require (db.resolutions.all fun _ o => o.conflictID ≠ p.conflictID)
      .conflictResolutionUnavailable
    let base ← need (db.nodes.get? p.baseNodeID) .conflictResolutionUnavailable
    require (conflict.sources.get? p.baseNodeID = some .ready ∧ base.role = .compute ∧
      base.operationalState ≠ .decommissioned ∧ base.operationalState ≠ .retired)
      .conflictResolutionUnavailable
    require (2 ≤ conflict.sources.keys.length ∧
      p.transfers.length + 1 = conflict.sources.keys.length)
      .conflictResolutionUnavailable
    require (p.transfers.all fun node => conflict.sources.get? node = some .ready)
      .conflictResolutionUnavailable
    require (db.acceptsWorkflow p.workflowID p.operationID ∧
      (db.manifests.get? p.resultSnapshotID).isNone) .conflictResolutionUnavailable
    return insertConflictResolution p conflict generation db

structure ResolutionCreation (p : CreateConflictResolutionParams) (db : Db)
    (conflict : ReplicaConflict) (generation : ℤ) : Prop where
  fresh : db.resolutions.get? p.operationID = none
  current : db.activeGeneration = some generation
  hasConflict : db.conflicts.get? p.conflictID = some conflict
  awaits : conflict.state = .awaitingDecision
  frozen : db.leaseFrozen
  unresolved : db.resolutions.all fun _ o => o.conflictID ≠ p.conflictID
  base : ∃ base, db.nodes.get? p.baseNodeID = some base ∧
    conflict.sources.get? p.baseNodeID = some .ready ∧ base.role = .compute ∧
    base.operationalState ≠ .decommissioned ∧ base.operationalState ≠ .retired
  several : 2 ≤ conflict.sources.keys.length
  distinct : p.transfers.Nodup ∧ p.baseNodeID ∉ p.transfers
  count : p.transfers.length + 1 = conflict.sources.keys.length
  transfers : p.transfers.all fun node => conflict.sources.get? node = some .ready
  accepts : db.acceptsWorkflow p.workflowID p.operationID

lemma createConflictResolution_commit {p : CreateConflictResolutionParams} :
    Ensures (createConflictResolution p db) fun db' => db' = db ∨
      ∃ conflict generation, ResolutionCreation p db conflict generation ∧
        db' = insertConflictResolution p conflict generation db := by
  unfold createConflictResolution
  split
  · rw [ensures_require_bind, ensures_pure]
    intro _
    exact .inl rfl
  next hfresh =>
    simp only [ensures_steps]
    rintro hdistinct generation hcurrent conflict hconflict - ⟨hawaits, -⟩ - hfrozen
      hunresolved base
      hbase hsource ⟨hseveral, hcount⟩ htransfers ⟨haccepts, -⟩
    exact .inr ⟨conflict, generation, ⟨hfresh, hcurrent, hconflict, hawaits, hfrozen, hunresolved,
      ⟨base, hbase, hsource⟩, hseveral, hdistinct, hcount, htransfers, haccepts⟩, rfl⟩

/-! ## Progress -/

def Db.resolutionOf (db : Db) (workflowID : UUID) : Option (UUID × ResolutionOperation) :=
  db.resolutions.find? fun _ o => o.workflowID = workflowID

/-- `AdoptStaleConflictResolutions`, for one workflow; `hadRelay` says that a relayed transfer had
been started under the old generation. -/
def adoptStaleConflictResolution (workflowID : UUID) (hadRelay : Bool) (now : Time) (db : Db) :
    Except StoreError Db := do
  let generation ← need db.activeGeneration .noActiveGeneration
  let w ← need (db.workflows.get? workflowID) .notFound
  require (w.workflowType = .conflictResolution ∧ w.controllerGeneration ≠ generation ∧
    (w.state = .scheduled ∨ w.state = .transferring ∨ w.state = .publishing ∨
      w.state = .retryWait)) .conflictResolutionConflict
  let increment : ℤ := if hadRelay then 1 else 0
  return { db with
    workflows := db.workflows.put workflowID { w with
      controllerGeneration := generation, state := .scheduled, resumeState := none
      attempt := w.attempt + increment, generationRecoveries := w.generationRecoveries + increment
      nextAttemptAt := some now, errorCode := some .controllerGenerationRecovery } }

def deferConflictResolution (workflowID : UUID) (now : Time) (delay : Duration) (db : Db) :
    Except StoreError Db := do
  require (0 < delay) .invalidInput
  let w ← need (db.workflows.get? workflowID) .conflictResolutionConflict
  require (w.workflowType = .conflictResolution ∧ w.state = .scheduled ∧ db.isCurrent w)
    .conflictResolutionConflict
  return { db with
    workflows := db.workflows.put workflowID { w with
      nextAttemptAt := some (now + delay), errorCode := some .nodeNotReady } }

/-- `MarkConflictResolutionTransferComplete` and `RotateConflictResolutionTransfer`. -/
def setResolutionTransfer (operationID : UUID) (nodeID : NodeID) (consumed : Bool) (db : Db) :
    Except StoreError Db := do
  let operation ← need (db.resolutions.get? operationID) .conflictResolutionConflict
  let w ← need (db.workflows.get? operation.workflowID) .conflictResolutionConflict
  let transfer ← need (operation.transfers.get? nodeID) .conflictResolutionConflict
  require (w.state.live ∧ db.isCurrent w ∧ (consumed = false ∨ transfer = .prepared))
    .conflictResolutionConflict
  return { db with
    resolutions := db.resolutions.put operationID { operation with
      transfers := operation.transfers.put nodeID (if consumed then .consumed else .prepared) } }

/-- `MarkConflictResolutionPublishing`: a repeated mark changes nothing. -/
def markConflictResolutionPublishing (workflowID : UUID) (db : Db) : Except StoreError Db := do
  let w ← need (db.workflows.get? workflowID) .conflictResolutionConflict
  if w.workflowType = .conflictResolution ∧ (w.state = .scheduled ∨ w.state = .transferring) ∧
      db.isCurrent w ∧ (db.resolutionOf workflowID).all (fun o =>
        o.2.transfers.all fun _ t => t = .consumed) then
    return { db with workflows := db.workflows.put workflowID { w with state := .publishing } }
  else do
    require (w.state = .publishing) .conflictResolutionConflict
    return db

/-! ## Completion -/

structure CompleteConflictResolutionParams where
  (workflowID operationID conflictID resultSnapshotID : UUID)
  entriesSHA256 : Digest
  now : Time
  deriving DecidableEq

def resolvedCopies (copies : Table NodeID ReplicaCopy) (base : NodeID) (snapshot : UUID)
    (now : Time) : Table NodeID ReplicaCopy :=
  (copies.mapRows fun _ c => { c with
    isAuthoritative := false
    state := if c.state = .conflict then .stale else c.state }).upsert base
    { snapshotID := some snapshot, replicaKind := .active, state := .ready, origin := .recovery
      isAuthoritative := true, compatibilityState := .compatible, publishedAt := some now }
    fun c => { c with
      snapshotID := some snapshot, replicaKind := .active, state := .ready, origin := .recovery
      isAuthoritative := true, compatibilityState := .compatible, publishedAt := some now }

/-- The replica rows after a resolution: all become stale, and the base's becomes the home.  The
kinds of the other rows are left as they are. -/
def resolvedReplicas (replicas : Table NodeID UserReplica) (base : NodeID) (now : Time) :
    Table NodeID UserReplica :=
  (replicas.mapRows fun _ r => { r with state := .stale }).upsert base
    { kind := .home, state := .ready, dataVersion := 1, lastSyncAt := some now }
    fun r => { r with
      kind := .home, state := .ready, dataVersion := r.dataVersion + 1, lastSyncAt := some now }

/-- The accounts after a resolution: those in conflict become active on the base, stale elsewhere.
-/
def resolvedAccounts (accounts : Table NodeID NodeAccount) (base : NodeID) :
    Table NodeID NodeAccount :=
  accounts.mapRows fun node a =>
    if a.status = .conflict then { a with status := if node = base then .active else .stale }
    else a

def ActivityLease.rebasedTo (l : ActivityLease) (base : NodeID) (now : Time) : ActivityLease :=
  { l with
    writerNodeID := base, state := .ended, leaseExpiresAt := now, inFlightReads := 0
    inFlightWrites := 0 }

/-- The statements of `CompleteConflictResolution` after its checks. -/
def resolveConflict (p : CompleteConflictResolutionParams) (w : Workflow)
    (operation : ResolutionOperation) (db : Db) : Db :=
  { db with
    manifests := db.manifests.modify p.resultSnapshotID
      fun m => { m with state := .immutable, manifestSHA256 := p.entriesSHA256 }
    copies := resolvedCopies db.copies operation.baseNodeID p.resultSnapshotID p.now
    replicas := resolvedReplicas db.replicas operation.baseNodeID p.now
    user := { db.user with
      homeNodeID := some operation.baseNodeID, legacyStatus := .active, globalStatus := .active }
    accounts := resolvedAccounts db.accounts operation.baseNodeID
    lease := updateLease db.lease (fun l => l.activityEpoch = w.activityEpoch)
      fun l => l.rebasedTo operation.baseNodeID p.now
    protection := db.protection.map fun s =>
      backupRequired (some s) "conflict_resolved" operation.baseNodeID
    conflicts := db.conflicts.modify p.conflictID
      fun c => { c with state := .resolved, version := c.version + 1 }
    resolutions := db.resolutions.put p.operationID { operation with completedAt := some p.now }
    workflows := db.workflows.put p.workflowID { w with
      state := .succeeded, errorCode := none, nextAttemptAt := none } }

/-- `CompleteConflictResolution`: a repeated completion changes nothing. -/
def completeConflictResolution (p : CompleteConflictResolutionParams) (db : Db) :
    Except StoreError Db := do
  let w ← need (db.workflows.get? p.workflowID) .notFound
  let operation ← need (db.resolutions.get? p.operationID) .notFound
  let conflict ← need (db.conflicts.get? p.conflictID) .notFound
  require (operation.workflowID = p.workflowID ∧ operation.conflictID = p.conflictID ∧
    operation.resultSnapshotID = p.resultSnapshotID) .notFound
  if w.state = .succeeded ∧ conflict.state = .resolved then return db
  else do
    require (w.state = .publishing ∧ db.user.globalStatus = .conflict ∧
      db.user.legacyStatus = .conflict ∧ conflict.state = .resolving)
      .conflictResolutionConflict
    require (db.isCurrent w) .conflictResolutionConflict
    require (2 ≤ conflict.sources.count fun _ e => e = .ready) .conflictResolutionConflict
    let manifest ← need (db.manifests.get? p.resultSnapshotID) .conflictResolutionConflict
    require (manifest.workflowID = p.workflowID ∧ manifest.state = .building)
      .conflictResolutionConflict
    return resolveConflict p w operation db

structure ResolutionCommit (p : CompleteConflictResolutionParams) (db : Db) (w : Workflow)
    (operation : ResolutionOperation) : Prop where
  workflow : db.workflows.get? p.workflowID = some w
  publishing : w.state = .publishing
  hasOperation : db.resolutions.get? p.operationID = some operation
  linked : operation.workflowID = p.workflowID
  frozen : db.user.globalStatus = .conflict ∧ db.user.legacyStatus = .conflict

lemma completeConflictResolution_commit {p : CompleteConflictResolutionParams} :
    Ensures (completeConflictResolution p db) fun db' => db' = db ∨
      ∃ w operation, ResolutionCommit p db w operation ∧
        db' = resolveConflict p w operation db := by
  simp only [completeConflictResolution, ensures_steps, ensures_ite]
  rintro w hw operation hoperation conflict - ⟨hlinked, -, -⟩
  constructor
  · intro _
    exact .inl trivial
  · rintro - ⟨hpublishing, hglobal, hlegacy, -⟩ - - manifest - -
    exact .inr ⟨w, operation, ⟨hw, hpublishing, hoperation, hlinked, hglobal, hlegacy⟩, rfl⟩

/-! ## Failure and restart -/

def failConflictResolution (workflowID : UUID) (db : Db) : Except StoreError Db := do
  let w ← need (db.workflows.get? workflowID) .notFound
  let (operationID, operation) ← need (db.resolutionOf workflowID) .notFound
  require w.state.live .notFound
  return { db with
    workflows := endWorkflow db.workflows workflowID .failed
    conflicts := db.conflicts.update
      (fun id c => id = operation.conflictID && c.state = .resolving)
      fun c => { c with state := .awaitingDecision, version := c.version + 1 }
    manifests := db.manifests.update
      (fun _ m => m.workflowID = workflowID && m.state = .building)
      fun m => { m with state := .invalid }
    resolutions := db.resolutions.put operationID { operation with
      transfers := operation.transfers.update (fun _ t => t = .prepared) fun _ => .revoked } }

/-- The statements of `RestartConflictResolution` after its checks. -/
def reviveResolution (operation : ResolutionOperation) (w : Workflow) (conflict : ReplicaConflict)
    (manifest : SnapshotManifest) (generation : ℤ) (db : Db) : Db :=
  { db with
    manifests := db.manifests.put operation.resultSnapshotID
      { manifest with state := .building, manifestSHA256 := 0 }
    workflows := db.workflows.put operation.workflowID { w with
      state := .scheduled, resumeState := none, controllerGeneration := generation
      attempt := w.attempt + 1, generationRecoveries := w.attempt + 1, nextAttemptAt := none
      errorCode := none }
    conflicts := db.conflicts.put operation.conflictID
      { conflict with state := .resolving, version := conflict.version + 1 } }

/-- `RestartConflictResolution`: the partial unique index on live workflows applies. -/
def restartConflictResolution (operationID : UUID) (db : Db) : Except StoreError Db := do
  let operation ← need (db.resolutions.get? operationID) .conflictResolutionConflict
  let w ← need (db.workflows.get? operation.workflowID) .conflictResolutionConflict
  let conflict ← need (db.conflicts.get? operation.conflictID) .conflictResolutionConflict
  require (w.state = .failed ∧ db.user.globalStatus = .conflict ∧
    db.user.legacyStatus = .conflict ∧ conflict.state = .awaitingDecision)
    .conflictResolutionConflict
  let generation ← need db.activeGeneration .noActiveGeneration
  let manifest ← need (db.manifests.get? operation.resultSnapshotID) .conflictResolutionConflict
  require (manifest.state = .invalid) .conflictResolutionConflict
  require (db.liveWorkflow = false) .constraintViolation
  return reviveResolution operation w conflict manifest generation db

structure RestartCommit (operationID : UUID) (db : Db) (operation : ResolutionOperation)
    (w : Workflow) : Prop where
  hasOperation : db.resolutions.get? operationID = some operation
  workflow : db.workflows.get? operation.workflowID = some w
  failed : w.state = .failed
  awaits : ∃ conflict, db.conflicts.get? operation.conflictID = some conflict ∧
    conflict.state = .awaitingDecision
  idle : db.liveWorkflow = false

lemma restartConflictResolution_commit {operationID : UUID} :
    Ensures (restartConflictResolution operationID db) fun db' =>
      ∃ operation w conflict manifest generation, RestartCommit operationID db operation w ∧
        db' = reviveResolution operation w conflict manifest generation db := by
  simp only [restartConflictResolution, ensures_steps]
  rintro operation hoperation w hw conflict hconflict ⟨hfailed, -, -, hawaits⟩ generation -
    manifest -
    - hidle
  exact ⟨operation, w, conflict, manifest, generation,
    ⟨hoperation, hw, hfailed, ⟨conflict, hconflict, hawaits⟩, hidle⟩, rfl⟩

end StControl.Store
