import StControl.Store.Protection

/-!
# Snapshot workflows

A snapshot workflow copies a user's data from a source node to a target node.  It is created
under one of three warrants (an ordinary backup job, a node-retirement item, a reconciliation of
writes made while a node was independent), then moves through the states of the executor, and
ends succeeded, failed or cancelled.  A partial unique index allows one live workflow per user.

The workflow row keeps source, target and activity epoch as they were at creation; no statement
changes them.  Creation checks the lease against the source, but neither creation nor completion
compares the source with the user's home.
-/

namespace StControl.Store

open Transaction

variable {db : Db}

/-! ## Creation -/

/-- The warrant of a snapshot: a backup job, and for the two special branches the retirement item
or the reconciliation (with the marker of the writes it accounts for) that it serves. -/
inductive SnapshotRequest
  | ordinary (jobID : ℤ)
  | retirement (itemID : UUID) (jobID : ℤ)
  | independent (reconciliationID : UUID) (marker : UUID) (jobID : ℤ)
  deriving DecidableEq

structure CreateSnapshotWorkflowParams where
  (workflowID operationID snapshotID capabilityID : UUID)
  capabilityHash : Digest
  capabilityExpires : Time
  (sourceNodeID targetNodeID : NodeID)
  destinationKind : CopyKind
  relay : Bool
  request : SnapshotRequest
  now : Time
  deriving DecidableEq

def SnapshotRequest.mode : SnapshotRequest → SnapshotMode
  | .ordinary _ => .ordinary
  | .retirement _ _ => .retirement
  | .independent _ _ _ => .independentReconciliation

def CopyKind.replicaKind : CopyKind → ReplicaKind
  | .archive => .archive
  | .hotStandby => .hotStandby
  | .active => .home

def Node.snapshotSource (n : Node) (operational : OperationalState) : Bool :=
  n.role = .compute && n.connectivityState = .online && n.operationalState = operational &&
    n.compatibilityState = .compatible && n.managed

def Node.takesSnapshot (n : Node) (kind : CopyKind) (relay : Bool) : Bool :=
  n.role = (if kind = .archive then .storage else .compute) && n.serving && n.takesData &&
    (relay || n.transferURL ≠ "") && (kind ≠ .archive || n.isBackupTarget)

def admitRetirementSnapshot (p : CreateSnapshotWorkflowParams) (itemID : UUID) (generation : ℤ)
    (db : Db) : Except StoreError Unit := do
  let item ← need (db.retirementItems.get? itemID) .notFound
  let operation ← need (db.retirements.get? item.retirementID) .notFound
  require (item.workflowID = none) .notFound
  require (operation.state = .migrating ∧ operation.controllerGeneration = generation)
    .retirementConflict
  require (item.state = .pending ∨ item.state = .waitingOffline ∨ item.state = .retryWait ∨
    item.state = .provisioning) .retirementConflict
  let source ← need (db.nodes.get? p.sourceNodeID) .notFound
  let target ← need (db.nodes.get? p.targetNodeID) .notFound
  match item.itemKind with
  | .authoritativeHome => do
    require (operation.nodeID = p.sourceNodeID ∧ p.destinationKind = .hotStandby)
      .retirementConflict
    require (source.snapshotSource .retiring ∧ target.takesSnapshot .hotStandby p.relay ∧
      target.managed) .retirementConflict
  | .archiveReplica => do
    require (operation.nodeID ≠ p.sourceNodeID ∧ db.user.homeNodeID = some p.sourceNodeID ∧
      operation.nodeID ≠ p.targetNodeID ∧ p.destinationKind = .archive) .retirementConflict
    require (source.snapshotSource .active ∧ target.takesSnapshot .archive p.relay ∧
      target.managed) .retirementConflict
  | _ => .error .retirementConflict

variable {p : CreateSnapshotWorkflowParams}

lemma admitRetirementSnapshot_home {itemID : UUID} {generation : ℤ} {item : RetirementItem}
    (hitem : db.retirementItems.get? itemID = some item)
    (hkind : item.itemKind = .authoritativeHome) :
    Ensures (admitRetirementSnapshot p itemID generation db) fun _ =>
      (∃ operation, db.retirements.get? item.retirementID = some operation ∧
        operation.nodeID = p.sourceNodeID) ∧
      (item.state = .pending ∨ item.state = .waitingOffline ∨ item.state = .retryWait ∨
        item.state = .provisioning) := by
  simp only [admitRetirementSnapshot, ensures_steps]
  intro other hother operation hoperation _ _ hstate source _ target _
  obtain rfl := Option.some.inj (hitem.symm.trans hother)
  rw [hkind]
  intro u hu
  obtain ⟨⟨hsource, -⟩, -⟩ := of_require hu
  exact ⟨⟨operation, hoperation, hsource⟩, hstate⟩

section

variable (p : CreateSnapshotWorkflowParams)

def admitIndependentSnapshot (reconciliationID marker : UUID) (generation : ℤ) (db : Db) :
    Except StoreError Unit := do
  require (p.destinationKind = .archive) .invalidInput
  let reconciliation ← need (db.reconciliations.get? reconciliationID)
    .independentReconciliationConflict
  let node ← need (db.nodes.get? reconciliation.nodeID) .independentReconciliationConflict
  require (reconciliation.state = .pending ∨ reconciliation.state = .retryWait)
    .independentReconciliationConflict
  require (reconciliation.workflowID = none ∧ reconciliation.nodeID = p.sourceNodeID ∧
    reconciliation.marker = marker ∧ reconciliation.controllerGeneration = generation)
    .independentReconciliationConflict
  require (node.controlMode = .independentDraining ∧ node.activeIndependentSessions = 0)
    .independentReconciliationConflict
  let target ← need (db.nodes.get? p.targetNodeID) .independentReconciliationConflict
  require (target.takesSnapshot .archive p.relay) .independentReconciliationConflict

def admitOrdinarySnapshot (db : Db) :
    Except StoreError Unit := do
  let source ← need (db.nodes.get? p.sourceNodeID) .notFound
  let target ← need (db.nodes.get? p.targetNodeID) .notFound
  require (source.snapshotSource .active ∧ target.takesSnapshot p.destinationKind p.relay ∧
    target.managed ∧ db.activeCleanup p.targetNodeID = false) .invalidInput

def admitSnapshot (generation : ℤ) (db : Db) : Except StoreError Unit :=
  match p.request with
  | .ordinary _ => admitOrdinarySnapshot p db
  | .retirement itemID _ => admitRetirementSnapshot p itemID generation db
  | .independent reconciliationID marker _ =>
    admitIndependentSnapshot p reconciliationID marker generation db

end

/-- The lease facts that make `CreateSnapshotWorkflow` answer `ErrSnapshotUserActive`. -/
def ActivityLease.refusesSnapshot (l : ActivityLease) (source : NodeID) (now : Time) : Bool :=
  l.writerNodeID ≠ source || now < l.leaseExpiresAt || l.inFlight || l.state = .independent ||
    l.state = .quiescing

def ActivityLease.refusesIndependentSnapshot (l : ActivityLease) (source : NodeID) (now : Time) :
    Bool :=
  l.writerNodeID ≠ source || l.inFlight || (now < l.leaseExpiresAt && l.state ≠ .independent) ||
    l.state = .quiescing

section

variable (p : CreateSnapshotWorkflowParams)

/-- `ErrSnapshotUserActive`, for the branch of the warrant. -/
def CreateSnapshotWorkflowParams.refusedBy (l : ActivityLease) : Bool :=
  match p.request with
  | .independent _ _ _ => l.refusesIndependentSnapshot p.sourceNodeID p.now
  | _ => l.refusesSnapshot p.sourceNodeID p.now

/-- The unique constraints on `workflows`: identity, operation, one live workflow per user. -/
def Db.acceptsWorkflow (db : Db) (workflowID operationID : UUID) : Bool :=
  (db.workflows.get? workflowID).isNone &&
    db.workflows.all (fun _ w => w.operationID ≠ operationID) && !db.liveWorkflow

def Db.acceptsTransfer (db : Db) (snapshotID capabilityID : UUID) (hash : Digest) : Bool :=
  (db.manifests.get? snapshotID).isNone && (db.capabilities.get? capabilityID).isNone &&
    db.capabilities.all fun _ c => c.tokenHash ≠ hash

/-- `prepareWorkflowTargetAccount`: the accounts with one on the target that is active or will be
provisioned from the password material or the OAuth identity that the user has. -/
def prepareWorkflowTargetAccount (db : Db) (target : NodeID) :
    Except StoreError (Table NodeID NodeAccount) :=
  if db.accountActive target then .ok db.accounts
  else do
    require ((db.accounts.get? target).all fun a => a.status ≠ .disabled && a.status ≠ .conflict)
      .restoreUnavailable
    let hasPassword := db.accounts.any fun _ a => a.hasPasswordMaterial
    require (hasPassword ∨ db.user.hasOAuthIdentity) .restoreUnavailable
    return db.accounts.upsert target
      { localHandle := db.user.username, status := .pending, accountVersion := 1
        hasPasswordMaterial := hasPassword }
      fun a => { a with
        localHandle := db.user.username, status := .pending, accountVersion := a.accountVersion + 1
        hasPasswordMaterial := hasPassword }

def newWorkflow (operationID : UUID) (type : WorkflowType) (mode : SnapshotMode)
    (source target : NodeID) (epoch generation : ℤ) (relay : Bool := false) : Workflow where
  operationID := operationID
  workflowType := type
  mode := mode
  state := .scheduled
  resumeState := none
  sourceNodeID := source
  targetNodeID := target
  activityEpoch := epoch
  controllerGeneration := generation
  attempt := 0
  generationRecoveries := 0
  nextAttemptAt := none
  errorCode := none
  relay := relay

def newManifest (workflowID : UUID) (source : NodeID) (epoch : ℤ) : SnapshotManifest where
  workflowID := workflowID
  sourceNodeID := source
  activityEpoch := epoch
  manifestSHA256 := 0
  state := .building

def newCapability (workflowID snapshotID : UUID) (hash : Digest) (generation : ℤ)
    (expires : Time) : TransferCapability where
  workflowID := workflowID
  snapshotID := snapshotID
  tokenHash := hash
  state := .prepared
  controllerGeneration := generation
  expiresAt := expires

section

variable (request : SnapshotRequest)

def SnapshotRequest.lease (o : Option ActivityLease) (now : Time) : Option ActivityLease :=
  match request with
  | .independent _ _ _ =>
    o.map fun l => { l.endedAt now with inFlightReads := 0, inFlightWrites := 0 }
  | _ => o

def announceReplica (replicas : Table NodeID UserReplica) (target : NodeID) (kind : ReplicaKind) :
    Table NodeID UserReplica :=
  replicas.upsert target { kind, state := .syncing, dataVersion := 0, lastSyncAt := none }
    fun r => if r.state = .ready then r else { r with kind, state := .syncing }

def SnapshotRequest.linkJob (jobs : Table ℤ BackupJob) (p : CreateSnapshotWorkflowParams) :
    Table ℤ BackupJob :=
  match request with
  | .retirement _ jobID => jobs.put jobID
      { srcNodeID := p.sourceNodeID, dstNodeID := p.targetNodeID, status := .pending
        workflowID := some p.workflowID }
  | .ordinary jobID | .independent _ _ jobID =>
    jobs.modify jobID fun j => { j with workflowID := some p.workflowID }

def SnapshotRequest.fitsJob (jobs : Table ℤ BackupJob) (p : CreateSnapshotWorkflowParams) : Bool :=
  match request with
  | .retirement _ jobID => (jobs.get? jobID).isNone
  | .ordinary jobID | .independent _ _ jobID =>
    (jobs.get? jobID).any fun j => j.srcNodeID = p.sourceNodeID && j.dstNodeID = p.targetNodeID

end

/-- The statements of `CreateSnapshotWorkflow` after its checks. -/
def insertSnapshotWorkflow (generation : ℤ) (accounts : Table NodeID NodeAccount) (db : Db) : Db :=
  { db with
    lease := p.request.lease db.lease p.now
    workflows := db.workflows.put p.workflowID
      (newWorkflow p.operationID .snapshot p.request.mode p.sourceNodeID p.targetNodeID
        db.leaseEpoch generation p.relay)
    accounts
    manifests := db.manifests.put p.snapshotID
      (newManifest p.workflowID p.sourceNodeID db.leaseEpoch)
    capabilities := db.capabilities.put p.capabilityID
      (newCapability p.workflowID p.snapshotID p.capabilityHash generation p.capabilityExpires)
    jobs := p.request.linkJob db.jobs p
    replicas := announceReplica db.replicas p.targetNodeID p.destinationKind.replicaKind
    reconciliations :=
      match p.request with
      | .independent reconciliationID _ _ => db.reconciliations.modify reconciliationID
          fun r => { r with state := .snapshotting, workflowID := some p.workflowID }
      | _ => db.reconciliations
    retirementItems :=
      match p.request with
      | .retirement itemID _ => db.retirementItems.modify itemID fun i => { i with
          state := .snapshotting, targetNodeID := some p.targetNodeID
          workflowID := some p.workflowID }
      | _ => db.retirementItems }

def createSnapshotWorkflow (db : Db) :
    Except StoreError Db := do
  require (0 < p.sourceNodeID ∧ 0 < p.targetNodeID ∧ p.sourceNodeID ≠ p.targetNodeID ∧
    (p.destinationKind = .archive ∨ p.destinationKind = .hotStandby) ∧
    p.now < p.capabilityExpires) .invalidInput
  let generation ← need db.activeGeneration .noActiveGeneration
  admitSnapshot p generation db
  require (db.activeCleanup p.sourceNodeID = false ∧ db.activeCleanup p.targetNodeID = false)
    .snapshotWorkflowConflict
  require (db.lease.all fun l => !p.refusedBy l) .snapshotUserActive
  require (db.acceptsWorkflow p.workflowID p.operationID) .constraintViolation
  let accounts ←
    if p.destinationKind = .hotStandby then prepareWorkflowTargetAccount db p.targetNodeID
    else .ok db.accounts
  require (db.acceptsTransfer p.snapshotID p.capabilityID p.capabilityHash) .constraintViolation
  require (p.request.fitsJob db.jobs p) .invalidInput
  return insertSnapshotWorkflow p generation accounts db

end

structure SnapshotCommit (p : CreateSnapshotWorkflowParams) (db : Db) (generation : ℤ)
    (accounts : Table NodeID NodeAccount) : Prop where
  ne : p.sourceNodeID ≠ p.targetNodeID
  destination : p.destinationKind = .archive ∨ p.destinationKind = .hotStandby
  current : db.activeGeneration = some generation
  admitted : admitSnapshot p generation db = .ok ()
  lease : db.lease.all (fun l => !p.refusedBy l)
  accepts : db.acceptsWorkflow p.workflowID p.operationID
  accounts : accounts = db.accounts ∨ prepareWorkflowTargetAccount db p.targetNodeID = .ok accounts
  fitsJob : p.request.fitsJob db.jobs p

lemma createSnapshotWorkflow_commit : Ensures (createSnapshotWorkflow p db) fun db' =>
      ∃ generation accounts, SnapshotCommit p db generation accounts ∧
        db' = insertSnapshotWorkflow p generation accounts db := by
  simp only [createSnapshotWorkflow, ensures_steps]
  rintro ⟨-, -, hne, hdestination, -⟩ generation hcurrent
  rw [ensures_bind]
  intro _ hadmitted
  simp only [ensures_require_bind]
  rintro - hlease haccepts
  rw [ensures_ite]
  constructor
  all_goals
    intro _
    rw [ensures_bind]
    intro accounts haccounts
    simp only [ensures_steps]
    rintro - hfits
    refine ⟨generation, accounts,
      ⟨hne, hdestination, hcurrent, hadmitted, hlease, haccepts, ?_, hfits⟩, rfl⟩
  · exact .inr haccounts
  · exact .inl (Except.ok.inj haccounts).symm

/-! ## Storage repair -/

/-- `CreateStorageRepairExecutionParams`, with the task's target and the job it inserts. -/
structure CreateStorageRepairParams where
  (workflowID operationID snapshotID capabilityID : UUID)
  capabilityHash : Digest
  capabilityExpires : Time
  (sourceNodeID targetNodeID : NodeID)
  jobID : ℤ
  relay : Bool
  offlineGrace : Duration
  now : Time
  deriving DecidableEq

/-- The lease facts that make `claimAndCreateStorageRepairOnce` leave the task alone. -/
def ActivityLease.refusesStorageRepair (l : ActivityLease) (source : NodeID) (now : Time)
    (grace : Duration) : Bool :=
  l.refusesSnapshot source now || l.state = .conflict || now - grace < l.lastPageHeartbeatAt ||
    now - grace < l.lastRequestAt

def CreateStorageRepairParams.snapshotParams (p : CreateStorageRepairParams) :
    CreateSnapshotWorkflowParams where
  workflowID := p.workflowID
  operationID := p.operationID
  snapshotID := p.snapshotID
  capabilityID := p.capabilityID
  capabilityHash := p.capabilityHash
  capabilityExpires := p.capabilityExpires
  sourceNodeID := p.sourceNodeID
  targetNodeID := p.targetNodeID
  destinationKind := .archive
  relay := p.relay
  request := .ordinary p.jobID
  now := p.now

/-- `claimAndCreateStorageRepairOnce`, for a task of this user: unlike the other creations it
requires the source to be the home.  Task attempts and free space are not modelled. -/
def claimAndCreateStorageRepair (p : CreateStorageRepairParams) (db : Db) :
    Except StoreError Db := do
  require (db.user.isActive ∧ db.user.homeNodeID = some p.sourceNodeID) .notFound
  require (db.protection.any fun s => s.state = .temporary || s.state = .unprotected) .notFound
  let source ← need (db.nodes.get? p.sourceNodeID) .notFound
  require (source.snapshotSource .active) .notFound
  require ((db.replicas.get? p.sourceNodeID).any fun r => r.kind = .home && r.state = .ready)
    .notFound
  require (db.copies.all fun node _ => !db.servesArchive node) .notFound
  require (db.liveWorkflow = false ∧ db.openConflict = false ∧ db.openFault = false ∧
    db.activeCleanup p.sourceNodeID = false) .notFound
  let generation ← need db.activeGeneration .noActiveGeneration
  require (db.lease.all fun l => !l.refusesStorageRepair p.sourceNodeID p.now p.offlineGrace)
    .snapshotUserActive
  let target ← need (db.nodes.get? p.targetNodeID) .notFound
  require (p.targetNodeID ≠ p.sourceNodeID ∧ target.takesSnapshot .archive p.relay ∧
    target.managed ∧ db.activeCleanup p.targetNodeID = false) .notFound
  require (db.acceptsWorkflow p.workflowID p.operationID ∧
    db.acceptsTransfer p.snapshotID p.capabilityID p.capabilityHash ∧
    db.jobs.get? p.jobID = none) .constraintViolation
  return insertSnapshotWorkflow p.snapshotParams generation db.accounts
    { db with
      jobs := db.jobs.put p.jobID
        { srcNodeID := p.sourceNodeID, dstNodeID := p.targetNodeID, status := .pending
          workflowID := none } }

structure RepairCommit (p : CreateStorageRepairParams) (db : Db) (generation : ℤ) : Prop where
  isHome : db.user.homeNodeID = some p.sourceNodeID
  ne : p.targetNodeID ≠ p.sourceNodeID
  current : db.activeGeneration = some generation
  accepts : db.acceptsWorkflow p.workflowID p.operationID
  newJob : db.jobs.get? p.jobID = none

lemma claimAndCreateStorageRepair_commit {p : CreateStorageRepairParams} :
    Ensures (claimAndCreateStorageRepair p db) fun db' =>
      ∃ generation, RepairCommit p db generation ∧
        db' = insertSnapshotWorkflow p.snapshotParams generation db.accounts
          { db with
            jobs := db.jobs.put p.jobID
              { srcNodeID := p.sourceNodeID, dstNodeID := p.targetNodeID, status := .pending
                workflowID := none } } := by
  simp only [claimAndCreateStorageRepair, ensures_steps]
  rintro ⟨-, hhome⟩ - source - - - - - generation hcurrent - target - ⟨hne, -⟩
    ⟨haccepts, -, hnew⟩
  exact ⟨generation, ⟨hhome, hne, hcurrent, haccepts, hnew⟩, rfl⟩

end StControl.Store
