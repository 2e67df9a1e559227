import StControl.Foundations.Run
import StControl.Store.Handoffs
import StControl.Store.Maintenance

/-!
# The store as a transition system

One step is one committed transaction; a refused transaction changes nothing and is not a step.
Runs are arbitrary interleavings of the transactions of the previous modules, called the way the
controller calls them, with `environment` steps for what other parts of the program write into
the rows that the transactions read: node facts from heartbeats, accounts, the progress of faults
and reconciliations, backup jobs, and the status of the user.  These are unconstrained, so a run
of the real store is a run of the model.
-/

namespace StControl.Store

open Table

/-! ## Steps -/

inductive EnvironmentWrite
  | node (nodeID : NodeID) (row : Node)
  | account (nodeID : NodeID) (row : NodeAccount)
  | userStatus (global legacy : UserStatus)
  | fault (operationID : UUID) (row : UserDataFault)
  | reconciliation (id : UUID) (row : IndependentReconciliation)
  | job (jobID : ℤ) (row : BackupJob)

def EnvironmentWrite.apply (db : Db) : EnvironmentWrite → Db
  | .node nodeID row => { db with nodes := db.nodes.put nodeID row }
  | .account nodeID row => { db with accounts := db.accounts.put nodeID row }
  | .userStatus global legacy =>
    { db with user := { db.user with globalStatus := global, legacyStatus := legacy } }
  | .fault operationID row => { db with faults := db.faults.put operationID row }
  | .reconciliation id row => { db with reconciliations := db.reconciliations.put id row }
  | .job jobID row => { db with jobs := db.jobs.put jobID row }

inductive Act
  | createLoginHandoff (p : CreateLoginHandoffParams)
  | consumeLoginHandoff (p : ConsumeLoginHandoffParams)
  | renewActivityLease (fence : LeaseFence) (now : Time) (ttl : Duration)
  | updateActivityLeaseTelemetry (p : ActivityLeaseTelemetry)
  | endActivityLease (fence : LeaseFence) (now : Time)
  | reconcileProtectionStates (now : Time) (conflictID : UUID)
  | confirmReplicaTakeover (p : ConfirmReplicaTakeoverParams)
  | reportUserDataFault (p : ReportUserDataFaultParams)
  | createSnapshotWorkflow (p : CreateSnapshotWorkflowParams)
  | claimAndCreateStorageRepair (p : CreateStorageRepairParams)
  | adoptStaleSnapshotWorkflow (workflowID : UUID) (now : Time)
  | prepareRecoveredSnapshotCompletion (workflowID : UUID)
  | resetRecoveredSnapshotWorkflow (workflowID : UUID) (now : Time)
  | scheduleSnapshotRetry (workflowID : UUID) (now : Time) (delay : Duration)
  | resumeSnapshotRetry (workflowID : UUID) (now : Time)
  | deferSnapshotWorkflow (workflowID : UUID) (now : Time) (delay : Duration)
  | clearSnapshotWorkflowDeferral (workflowID : UUID)
  | rotateSnapshotCapability (workflowID capabilityID : UUID) (tokenHash : Digest)
      (expiresAt now : Time)
  | startSnapshotWorkflow (workflowID : UUID)
  | startRestoreWorkflow (workflowID : UUID)
  | setSnapshotWorkflowProgress (workflowID snapshotID : UUID) (nodeID : NodeID)
      (toState : WorkflowState)
  | completeSnapshotWorkflow (p : CompleteSnapshotWorkflowParams)
  | failSnapshotWorkflow (workflowID : UUID) (now : Time)
  | cancelSnapshotWorkflow (workflowID : UUID)
  | abortBackupJobAndSnapshotWorkflow (jobID : ℤ)
  | createRestoreWorkflow (p : CreateRestoreWorkflowParams)
  | resetRestoreTransferForRetry (workflowID : UUID)
  | completeRestoreWorkflow (p : CompleteRestoreWorkflowParams)
  | failRestoreWorkflow (workflowID : UUID) (now : Time)
  | startNodeRetirement (retirementID itemID : UUID) (nodeID : NodeID) (hasOtherItems : Bool)
  | cancelNodeRetirement (nodeID : NodeID) (toActive : Bool)
  | claimNodeRetirement (retirementID : UUID)
  | retryNodeRetirementItem (itemID : UUID) (state : RetirementItemState) (clearWorkflow : Bool)
  | completeNodeRetirementHomeMigration (itemID workflowID : UUID) (now : Time)
  | completeNodeRetirementReplicaItem (itemID : UUID)
  | revokeNodeAccess (nodeID : NodeID) (now : Time)
  | claimConflictEvidence (conflictID : UUID) (nodeID : NodeID)
  | retryConflictEvidence (conflictID : UUID) (nodeID : NodeID) (exhausted : Bool)
  | completeConflictEvidence (conflictID : UUID) (nodeID : NodeID)
  | createConflictResolution (p : CreateConflictResolutionParams)
  | adoptStaleConflictResolution (workflowID : UUID) (hadRelay : Bool) (now : Time)
  | deferConflictResolution (workflowID : UUID) (now : Time) (delay : Duration)
  | setResolutionTransfer (operationID : UUID) (nodeID : NodeID) (consumed : Bool)
  | markConflictResolutionPublishing (workflowID : UUID)
  | completeConflictResolution (p : CompleteConflictResolutionParams)
  | failConflictResolution (workflowID : UUID)
  | restartConflictResolution (operationID : UUID)
  | recordIndependentSyncFact (reconciliationID : UUID) (nodeID : NodeID) (handle : String)
      (marker : UUID) (generation : ℤ)
  | settleIndependentConflicts
  | linkImportCandidate (nodeID : NodeID) (handle : String) (relink : Bool) (now : Time)
  | completeAccountImportClaim (nodeID : NodeID) (handle : String) (now : Time)
  | scheduleReplicaCleanup (taskID : UUID) (nodeID : NodeID) (snapshot : UUID) (kind : CopyKind)
  | claimReplicaCleanup (taskID : UUID)
  | completeReplicaCleanup (taskID : UUID)
  | retryReplicaCleanup (taskID : UUID)
  | failReplicaCleanup (taskID : UUID)
  | failReplicaIntegrity (nodeID : NodeID) (corrupt : Bool)
  | promoteControllerEpoch (now : Time)
  | environment (w : EnvironmentWrite)

def Db.hasType (db : Db) (workflowID : UUID) (type : WorkflowType) : Bool :=
  (db.workflows.get? workflowID).any fun w => w.workflowType = type

/-- The transaction of an act.  Where a store function trusts its caller to name a workflow of the
right type, or the workflow's own target, the check is the caller's. -/
def Act.transaction (db : Db) : Act → Except StoreError Db
  | .createLoginHandoff p => (Store.createLoginHandoff p db).map (·.2)
  | .consumeLoginHandoff p => Store.consumeLoginHandoff p db
  | .renewActivityLease fence now ttl => Store.renewActivityLease fence now ttl db
  | .updateActivityLeaseTelemetry p => Store.updateActivityLeaseTelemetry p db
  | .endActivityLease fence now => Store.endActivityLease fence now db
  | .reconcileProtectionStates now conflictID => Store.reconcileProtectionStates now conflictID db
  | .confirmReplicaTakeover p => Store.confirmReplicaTakeover p db
  | .reportUserDataFault p => Store.reportUserDataFault p db
  | .createSnapshotWorkflow p => Store.createSnapshotWorkflow p db
  | .claimAndCreateStorageRepair p => Store.claimAndCreateStorageRepair p db
  | .adoptStaleSnapshotWorkflow workflowID now => Store.adoptStaleSnapshotWorkflow workflowID now db
  | .prepareRecoveredSnapshotCompletion workflowID =>
    Store.prepareRecoveredSnapshotCompletion workflowID db
  | .resetRecoveredSnapshotWorkflow workflowID now =>
    Store.resetRecoveredSnapshotWorkflow workflowID now db
  | .scheduleSnapshotRetry workflowID now delay =>
    Store.scheduleSnapshotRetry workflowID now delay db
  | .resumeSnapshotRetry workflowID now => Store.resumeSnapshotRetry workflowID now db
  | .deferSnapshotWorkflow workflowID now delay =>
    Store.deferSnapshotWorkflow workflowID now delay db
  | .clearSnapshotWorkflowDeferral workflowID => Store.clearSnapshotWorkflowDeferral workflowID db
  | .rotateSnapshotCapability workflowID capabilityID tokenHash expiresAt now =>
    Store.rotateSnapshotCapability workflowID capabilityID tokenHash expiresAt now db
  | .startSnapshotWorkflow workflowID =>
    Store.setSnapshotWorkflowState workflowID .scheduled .quiescing db
  | .startRestoreWorkflow workflowID =>
    Store.setSnapshotWorkflowState workflowID .scheduled .transferring db
  | .setSnapshotWorkflowProgress workflowID snapshotID nodeID toState =>
    Store.setSnapshotWorkflowProgress workflowID snapshotID nodeID toState db
  | .completeSnapshotWorkflow p =>
    if (db.workflows.get? p.workflowID).any fun w =>
        w.workflowType = .snapshot && w.targetNodeID = p.targetNodeID then
      Store.completeSnapshotWorkflow p db
    else .error .invalidInput
  | .failSnapshotWorkflow workflowID now =>
    if db.hasType workflowID .snapshot then Store.failSnapshotWorkflow workflowID now db
    else .error .invalidInput
  | .cancelSnapshotWorkflow workflowID =>
    if db.hasType workflowID .snapshot then Store.cancelSnapshotWorkflow workflowID db
    else .error .invalidInput
  | .abortBackupJobAndSnapshotWorkflow jobID => Store.abortBackupJobAndSnapshotWorkflow jobID db
  | .createRestoreWorkflow p => Store.createRestoreWorkflow p db
  | .resetRestoreTransferForRetry workflowID => Store.resetRestoreTransferForRetry workflowID db
  | .completeRestoreWorkflow p => Store.completeRestoreWorkflow p db
  | .failRestoreWorkflow workflowID now => Store.failRestoreWorkflow workflowID now db
  | .startNodeRetirement retirementID itemID nodeID hasOtherItems =>
    Store.startNodeRetirement retirementID itemID nodeID hasOtherItems db
  | .cancelNodeRetirement nodeID toActive => Store.cancelNodeRetirement nodeID toActive db
  | .claimNodeRetirement retirementID => Store.claimNodeRetirement retirementID db
  | .retryNodeRetirementItem itemID state clearWorkflow =>
    Store.retryNodeRetirementItem itemID state clearWorkflow db
  | .completeNodeRetirementHomeMigration itemID workflowID now =>
    Store.completeNodeRetirementHomeMigration itemID workflowID now db
  | .completeNodeRetirementReplicaItem itemID => Store.completeNodeRetirementReplicaItem itemID db
  | .revokeNodeAccess nodeID now => Store.revokeNodeAccess nodeID now db
  | .claimConflictEvidence conflictID nodeID => Store.claimConflictEvidence conflictID nodeID db
  | .retryConflictEvidence conflictID nodeID exhausted =>
    Store.retryConflictEvidence conflictID nodeID exhausted db
  | .completeConflictEvidence conflictID nodeID =>
    Store.completeConflictEvidence conflictID nodeID db
  | .createConflictResolution p => Store.createConflictResolution p db
  | .adoptStaleConflictResolution workflowID hadRelay now =>
    Store.adoptStaleConflictResolution workflowID hadRelay now db
  | .deferConflictResolution workflowID now delay =>
    Store.deferConflictResolution workflowID now delay db
  | .setResolutionTransfer operationID nodeID consumed =>
    Store.setResolutionTransfer operationID nodeID consumed db
  | .markConflictResolutionPublishing workflowID =>
    Store.markConflictResolutionPublishing workflowID db
  | .completeConflictResolution p => Store.completeConflictResolution p db
  | .failConflictResolution workflowID => Store.failConflictResolution workflowID db
  | .restartConflictResolution operationID => Store.restartConflictResolution operationID db
  | .recordIndependentSyncFact reconciliationID nodeID handle marker generation =>
    Store.recordIndependentSyncFact reconciliationID nodeID handle marker generation db
  | .settleIndependentConflicts => .ok (Store.settleIndependentConflicts db)
  | .linkImportCandidate nodeID handle relink now =>
    Store.linkImportCandidate nodeID handle relink now db
  | .completeAccountImportClaim nodeID handle now =>
    Store.completeAccountImportClaim nodeID handle now db
  | .scheduleReplicaCleanup taskID nodeID snapshot kind =>
    Store.scheduleReplicaCleanup taskID nodeID snapshot kind db
  | .claimReplicaCleanup taskID => Store.claimReplicaCleanup taskID db
  | .completeReplicaCleanup taskID => Store.completeReplicaCleanup taskID db
  | .retryReplicaCleanup taskID => Store.retryReplicaCleanup taskID db
  | .failReplicaCleanup taskID => Store.failReplicaCleanup taskID db
  | .failReplicaIntegrity nodeID corrupt => Store.failReplicaIntegrity nodeID corrupt db
  | .promoteControllerEpoch now => Store.promoteControllerEpoch now db
  | .environment w => .ok (w.apply db)

def step (db : Db) (act : Act) : Option Db := (act.transaction db).toOption

lemma step_eq_some {db db' : Db} {act : Act} :
    step db act = some db' ↔ act.transaction db = .ok db' :=
  Transaction.toOption_eq_some

/-- The time with which a transaction decides about the writer lease; the others never write it. -/
def Act.leaseTime : Act → Option Time
  | .createLoginHandoff p => some p.now
  | .consumeLoginHandoff p => some p.now
  | .renewActivityLease _ now _ => some now
  | .updateActivityLeaseTelemetry p => some p.now
  | .endActivityLease _ now => some now
  | .reconcileProtectionStates now _ => some now
  | .confirmReplicaTakeover p => some p.now
  | .reportUserDataFault p => some p.now
  | .createSnapshotWorkflow p => some p.now
  | .completeRestoreWorkflow p => some p.now
  | .completeNodeRetirementHomeMigration _ _ now => some now
  | .completeConflictResolution p => some p.now
  | .linkImportCandidate _ _ _ now => some now
  | _ => none

def Act.requests (act : Act) (node : NodeID) : Prop :=
  ∃ p, act = .createLoginHandoff p ∧ p.requestedNodeID = node

/-! ## Where a user starts -/

/-- A user for whom nothing has happened yet: no lease was ever taken and no operation was ever
recorded. -/
@[mk_iff]
structure Fresh (db : Db) : Prop where
  lease : db.lease = none
  leaseOperations : db.leaseOperations = ∅
  tickets : db.tickets = ∅
  copies : db.copies = ∅
  workflows : db.workflows = ∅
  manifests : db.manifests = ∅
  capabilities : db.capabilities = ∅
  jobs : db.jobs = ∅
  takeovers : db.takeovers = ∅
  restores : db.restores = ∅
  conflicts : db.conflicts = ∅
  resolutions : db.resolutions = ∅
  protection : db.protection = none
  faults : db.faults = ∅
  reconciliations : db.reconciliations = ∅
  cleanups : db.cleanups = ∅
  retirementItems : db.retirementItems = ∅

/-- A user who has just been registered on `home`: an active account and a ready home replica
there, and nothing else. -/
@[mk_iff]
structure Registered (db : Db) (home : NodeID) : Prop extends Fresh db where
  isHome : db.user.homeNodeID = some home
  isActive : db.user.isActive
  account : db.accountActive home
  onlyAccount : ∀ n a, db.accounts.get? n = some a → n = home
  replica : ∃ r, db.replicas.get? home = some r ∧ r.kind = .home ∧ r.state = .ready
  onlyReplica : ∀ n r, db.replicas.get? n = some r → n = home

instance (db : Db) : Decidable (Fresh db) := decidable_of_iff _ (fresh_iff db).symm

instance (db : Db) (home : NodeID) : Decidable (Registered db home) :=
  decidable_of_iff _ (registered_iff db home).symm

/-- A compute node that serves under generation `1`. -/
def sampleCompute : Node where
  role := .compute
  status := .online
  connectivityState := .online
  operationalState := .active
  compatibilityState := .compatible
  capacityState := .opened
  controlMode := .managed
  desiredControlMode := .managed
  controllerGeneration := 1
  activeIndependentSessions := 0
  isBackupTarget := false
  hasCredential := true
  baseURL := "https://compute"
  transferURL := "https://transfer"

/-- A storage node that serves under generation `1`. -/
def sampleStorage : Node :=
  { sampleCompute with role := .storage, isBackupTarget := true, baseURL := "https://storage" }

/-- A user who is registered on node `1`, next to another compute node `2` and a storage node
`3`. -/
def sampleDb : Db where
  activeGeneration := some 1
  nodes := ((put ∅ 1 sampleCompute).put 2 sampleCompute).put 3 sampleStorage
  retirements := ∅
  user :=
    { uuid := 7, hasOAuthIdentity := true, username := "user", globalStatus := .active
      legacyStatus := .active, homeNodeID := some 1 }
  lease := none
  leaseOperations := ∅
  tickets := ∅
  accounts := put ∅ 1
    { localHandle := "user", status := .active, accountVersion := 1, hasPasswordMaterial := true }
  replicas := put ∅ 1 { kind := .home, state := .ready, dataVersion := 1, lastSyncAt := none }
  copies := ∅
  workflows := ∅
  manifests := ∅
  capabilities := ∅
  jobs := ∅
  takeovers := ∅
  restores := ∅
  conflicts := ∅
  resolutions := ∅
  protection := none
  faults := ∅
  reconciliations := ∅
  cleanups := ∅
  retirementItems := ∅

def sampleLogin (operationID : UUID) (requestedNodeID : NodeID) (now : Time) :
    CreateLoginHandoffParams where
  operationID := operationID
  jti := operationID
  secretHash := 0
  requestedNodeID := requestedNodeID
  sessionID := operationID
  issuer := "controller"
  subject := 7
  keyID := "key"
  ticketTTL := 60
  leaseTTL := 600
  existingWriterOnly := false
  now := now

/-- A snapshot of that user up to its publication: a backup job, its workflow with all identities
taken from `id`, the account that a standby needs on the target, and every report of the nodes. -/
def sampleTransfer (id : UUID) (source target : NodeID) (kind : CopyKind) (now : Time) : List Act :=
  [ .environment (.job (id.toNat : ℤ)
      { srcNodeID := source, dstNodeID := target, status := .pending, workflowID := none }),
    .createSnapshotWorkflow
      { workflowID := id, operationID := id, snapshotID := id, capabilityID := id
        capabilityHash := id.setWidth 256, capabilityExpires := now + 100
        sourceNodeID := source, targetNodeID := target, destinationKind := kind, relay := false
        request := .ordinary (id.toNat : ℤ), now := now } ] ++
  (if kind = .hotStandby then
    [ .environment (.account target
        { localHandle := "user", status := .active, accountVersion := 1
          hasPasswordMaterial := true }) ]
  else []) ++
  [ .startSnapshotWorkflow id, .setSnapshotWorkflowProgress id id source .drained,
    .setSnapshotWorkflowProgress id id source .snapshotting,
    .setSnapshotWorkflowProgress id id source .transferring,
    .setSnapshotWorkflowProgress id id target .verifying,
    .setSnapshotWorkflowProgress id id target .publishing ]

def sampleCompletion (id : UUID) (target : NodeID) (kind : CopyKind) (now : Time) : Act :=
  .completeSnapshotWorkflow
    { workflowID := id, snapshotID := id, capabilityHash := id.setWidth 256
      targetNodeID := target, replicaKind := kind, replicaOrigin := .configured
      manifestSHA256 := 1, cleanupID := id, now := now }

def sampleTakeover (operationID : UUID) (target : NodeID) (publishedAt now : Time) :
    ConfirmReplicaTakeoverParams where
  operationID := operationID
  requestDigest := 0
  targetNodeID := target
  expectedRecoveryAt := publishedAt
  now := now

/-- The capture of the data on `base` and `other`, and the user's decision for `base`, up to the
transfer of the other copy. -/
def sampleDecision (base other : NodeID) (now : Time) : List Act :=
  [ .reconcileProtectionStates now 90,
    .claimConflictEvidence 90 base, .completeConflictEvidence 90 base,
    .claimConflictEvidence 90 other, .completeConflictEvidence 90 other,
    .createConflictResolution
      { operationID := 92, requestDigest := 0, workflowID := 93, conflictID := 90
        resultSnapshotID := 94, expectedConflictVersion := 4, baseNodeID := base
        transfers := [other], now := now + 1 },
    .setResolutionTransfer 92 other true ]

def sampleResolution (base other : NodeID) (now : Time) : List Act :=
  sampleDecision base other now ++ [.markConflictResolutionPublishing 93]

def sampleResolved (now : Time) : CompleteConflictResolutionParams where
  workflowID := 93
  operationID := 92
  conflictID := 90
  resultSnapshotID := 94
  entriesSHA256 := 1
  now := now

lemma sampleDb_registered : Registered sampleDb 1 := by decide +kernel

end StControl.Store
