import Mathlib.Data.Int.Basic
import StControl.Foundations.Table

/-!
# The controller's tables

The controller keeps its facts in a relational database.  This module fixes the part of it that
decides who may write a user's data and which copy of them counts: the controller epoch, the
nodes, and, for one user, the identity row, the writer lease, the login tickets, the node
accounts, the replica rows (`user_replicas`, the compatibility read model), the replica copies
(`replica_copies`, the normalised facts), the workflows with their manifests and capabilities,
and the operation records of takeovers, restores, conflicts, faults, reconciliations, clean-ups
and node retirements.

Every statement the store issues against these tables is keyed by one user, so `Db` is the slice
of the database that belongs to one user together with the rows that all users share; a sweep
over all users acts on each slice by itself.  A table with a primary key is a `Table`, which
cannot hold two rows under one key; `user_activity_leases` and `user_protection_states` have the
user as their key and are optional rows.

Columns that no modelled statement reads back (audit texts, `updated_at`, sizes and digests that
are only displayed) are left out.  UUID columns hold 128-bit values and digest columns 256-bit
values, so the length and syntax checks that guard them in the source are built into the types.
-/

namespace StControl.Store

/-- A node identity (`nodes.id`). -/
abbrev NodeID := ℤ

abbrev UUID := BitVec 128

abbrev Digest := BitVec 256

abbrev Time := ℤ

abbrev Duration := ℤ

/-! ## Nodes -/

/-- `nodes.role`. -/
inductive NodeRole
  | compute | storage
  deriving DecidableEq

/-- `nodes.status`. -/
inductive NodeStatus
  | pending | online | offline
  deriving DecidableEq

/-- `nodes.connectivity_state`. -/
inductive ConnectivityState
  | unknown | online | offline
  deriving DecidableEq

/-- `nodes.operational_state`. -/
inductive OperationalState
  | pending | active | maintenance | draining | retiring | degraded | failed | decommissioned
  | retired
  deriving DecidableEq

/-- `nodes.compatibility_state` and `replica_copies.compatibility_state`. -/
inductive CompatibilityState
  | unknown | compatible | incompatible
  deriving DecidableEq

/-- `nodes.capacity_state`. -/
inductive CapacityState
  | unknown | opened | busy | full
  deriving DecidableEq

/-- `nodes.control_mode` and `nodes.desired_control_mode`. -/
inductive ControlMode
  | managed | controllerUnreachable | independent | independentDraining
  deriving DecidableEq

/-- A row of `nodes`; `hasCredential` says that an unrevoked, unexpired agent credential exists, and
`agentVersion` is what `parseControllerAgentVersion` reads of the agent's version. -/
structure Node where
  role : NodeRole
  status : NodeStatus
  connectivityState : ConnectivityState
  operationalState : OperationalState
  compatibilityState : CompatibilityState
  capacityState : CapacityState
  (controlMode desiredControlMode : ControlMode)
  controllerGeneration : ℤ
  activeIndependentSessions : ℕ
  (isBackupTarget hasCredential : Bool)
  (baseURL transferURL : String)
  agentVersion : Option (List ℕ) := none
  deriving DecidableEq

def Node.serving (n : Node) : Bool :=
  n.connectivityState = .online && n.operationalState = .active &&
    n.compatibilityState = .compatible

def Node.managed (n : Node) : Bool :=
  n.controlMode = .managed && n.desiredControlMode = .managed

def Node.takesData (n : Node) : Bool :=
  n.capacityState = .opened || n.capacityState = .busy

/-! ## The user, the writer lease and the login tickets -/

/-- `global_users.status` and `users.status`. -/
inductive UserStatus
  | active | disabled | conflict | recovering | deleted
  deriving DecidableEq

/-- The joined rows of `global_users` and `users`; `hasOAuthIdentity` says that an active
`auth_identities` row of a known provider exists. -/
structure User where
  uuid : UUID
  hasOAuthIdentity : Bool
  username : String
  (globalStatus legacyStatus : UserStatus)
  homeNodeID : Option NodeID
  deriving DecidableEq

def User.isActive (u : User) : Bool := u.globalStatus = .active && u.legacyStatus = .active

/-- `user_activity_leases.state`. -/
inductive LeaseState
  | active | quiescing | drained | ended | conflict | independent
  deriving DecidableEq

/-- `ActivityLease`: the durable single-writer lease of the user. -/
structure ActivityLease where
  writerNodeID : NodeID
  sessionID : UUID
  activityEpoch : ℤ
  state : LeaseState
  (leaseExpiresAt lastPageHeartbeatAt lastRequestAt : Time)
  (inFlightReads inFlightWrites controllerGeneration : ℤ)
  deriving DecidableEq

/-- `activity_lease_operations.outcome`, as far as the store writes it. -/
inductive LeaseOutcome
  | acquired | existing | renewed
  deriving DecidableEq

/-- A row of `activity_lease_operations`. -/
structure LeaseOperation where
  requestedNodeID : NodeID
  requestedSessionID : UUID
  outcome : LeaseOutcome
  resultWriterNodeID : NodeID
  resultSessionID : UUID
  resultActivityEpoch : ℤ
  deriving DecidableEq

/-- A row of `control_tickets` with `ticket_type='user_login'`. -/
structure ControlTicket where
  operationID : UUID
  secretHash : Digest
  (issuer audience : String)
  subject : UUID
  targetNodeID : NodeID
  sessionID : UUID
  activityEpoch : ℤ
  keyID : String
  controllerGeneration : ℤ
  (issuedAt notBefore expiresAt : Time)
  (consumedAt revokedAt : Option Time)
  deriving DecidableEq

/-- `node_accounts.status`. -/
inductive AccountStatus
  | pending | active | disabled | conflict | stale | error
  deriving DecidableEq

/-- A row of `node_accounts`; `hasPasswordMaterial` says that hash and salt are both present. -/
structure NodeAccount where
  localHandle : String
  status : AccountStatus
  accountVersion : ℤ
  hasPasswordMaterial : Bool
  deriving DecidableEq

/-! ## Replicas and snapshots -/

/-- `user_replicas.kind`. -/
inductive ReplicaKind
  | home | hotStandby | archive
  deriving DecidableEq

/-- `user_replicas.state`. -/
inductive ReplicaState
  | empty | syncing | ready | stale | conflict | corrupt | deleting | error
  deriving DecidableEq

/-- A row of `user_replicas`. -/
structure UserReplica where
  kind : ReplicaKind
  state : ReplicaState
  dataVersion : ℤ
  lastSyncAt : Option Time
  deriving DecidableEq

/-- `replica_copies.replica_kind`. -/
inductive CopyKind
  | active | archive | hotStandby
  deriving DecidableEq

/-- `replica_copies.state`. -/
inductive CopyState
  | empty | receiving | verifying | ready | stale | conflict | unprotected | corrupt | deleting
  | error
  deriving DecidableEq

/-- `replica_copies.origin`. -/
inductive CopyOrigin
  | primary | configured | temporaryFailureProtection | migration | recovery | automaticRepair
  deriving DecidableEq

/-- A row of `replica_copies`. -/
structure ReplicaCopy where
  snapshotID : Option UUID
  replicaKind : CopyKind
  state : CopyState
  origin : CopyOrigin
  isAuthoritative : Bool
  compatibilityState : CompatibilityState
  publishedAt : Option Time
  deriving DecidableEq

/-- `workflows.workflow_type`, for the three types that move a user's data. -/
inductive WorkflowType
  | snapshot | restore | conflictResolution
  deriving DecidableEq

/-- `workflows.state`. -/
inductive WorkflowState
  | scheduled | quiescing | drained | snapshotting | transferring | verifying | publishing
  | retryWait | cancelled | failed | succeeded
  deriving DecidableEq

/-- `state NOT IN ('cancelled','failed','succeeded')`. -/
def WorkflowState.live : WorkflowState → Bool
  | .cancelled | .failed | .succeeded => false
  | _ => true

/-- `workflows.error_code`, as far as a statement reads it back. -/
inductive WorkflowErrorCode
  | controllerGenerationRecovery | nodeNotReady | other
  deriving DecidableEq

/-- Which of the three branches of `CreateSnapshotWorkflow` made a snapshot workflow.  The table
does not store it in the workflow row: a reconciliation or retirement item that refers to the
workflow does. -/
inductive SnapshotMode
  | ordinary | independentReconciliation | retirement
  deriving DecidableEq

/-- A row of `workflows`, with the branch that created it. -/
structure Workflow where
  operationID : UUID
  workflowType : WorkflowType
  mode : SnapshotMode
  state : WorkflowState
  resumeState : Option WorkflowState
  (sourceNodeID targetNodeID : NodeID)
  (activityEpoch controllerGeneration attempt generationRecoveries : ℤ)
  nextAttemptAt : Option Time
  errorCode : Option WorkflowErrorCode
  relay : Bool := false
  deriving DecidableEq

/-- `snapshot_manifests.state`. -/
inductive ManifestState
  | building | immutable | invalid | deleted
  deriving DecidableEq

/-- A row of `snapshot_manifests`. -/
structure SnapshotManifest where
  workflowID : UUID
  sourceNodeID : NodeID
  activityEpoch : ℤ
  manifestSHA256 : Digest
  state : ManifestState
  deriving DecidableEq

/-- `snapshot_transfer_capabilities.state`. -/
inductive CapabilityState
  | prepared | consumed | revoked | expired
  deriving DecidableEq

/-- A row of `snapshot_transfer_capabilities`. -/
structure TransferCapability where
  (workflowID snapshotID : UUID)
  tokenHash : Digest
  state : CapabilityState
  controllerGeneration : ℤ
  expiresAt : Time
  deriving DecidableEq

/-- `backup_jobs.status`. -/
inductive BackupJobStatus
  | pending | running | verifying | done | failed | aborted
  deriving DecidableEq

/-- A row of `backup_jobs`. -/
structure BackupJob where
  (srcNodeID dstNodeID : NodeID)
  status : BackupJobStatus
  workflowID : Option UUID
  deriving DecidableEq

/-! ## Operation records -/

/-- A row of `replica_takeover_operations`, under its operation identity. -/
structure TakeoverOperation where
  requestDigest : Digest
  (sourceNodeID targetNodeID : NodeID)
  snapshotID : UUID
  previousActivityEpoch : Option ℤ
  controllerGeneration : ℤ
  completedAt : Time
  deriving DecidableEq

/-- A row of `restore_operations`, under its operation identity. -/
structure RestoreOperation where
  requestDigest : Digest
  workflowID : UUID
  (sourceNodeID targetNodeID : NodeID)
  (sourceSnapshotID restoreSnapshotID : UUID)
  sourcePublishedAt : Time
  completedAt : Option Time
  deriving DecidableEq

/-- `replica_conflicts.state`. -/
inductive ConflictState
  | detected | inspecting | awaitingDecision | resolving | resolved | failed
  deriving DecidableEq

/-- `replica_conflict_sources.evidence_state`. -/
inductive EvidenceState
  | pending | capturing | ready | retryWait | failed
  deriving DecidableEq

/-- A row of `replica_conflicts` with its `replica_conflict_sources`, one for each node. -/
structure ReplicaConflict where
  state : ConflictState
  (version protectionVersion : ℤ)
  sourcesCaptured : Bool
  sources : Table NodeID EvidenceState
  deriving DecidableEq

/-- A row of `conflict_resolution_operations` with its `conflict_resolution_transfers`, one for
each source that is not the base. -/
structure ResolutionOperation where
  requestDigest : Digest
  (workflowID conflictID : UUID)
  baseNodeID : NodeID
  resultSnapshotID : UUID
  transfers : Table NodeID CapabilityState
  completedAt : Option Time
  deriving DecidableEq

/-- `user_protection_states.state`. -/
inductive ProtectionStatus
  | isProtected | temporary | unprotected | takeoverAvailable | restoreRequired | unavailable
  | conflict
  deriving DecidableEq

/-- A row of `user_protection_states`. -/
structure ProtectionState where
  state : ProtectionStatus
  reasonCode : String
  (authoritativeNodeID recoveryNodeID : Option NodeID)
  latestRecoverySnapshotID : Option UUID
  latestRecoveryAt : Option Time
  version : ℤ
  deriving DecidableEq

/-- `user_data_faults.state`. -/
inductive FaultState
  | reported | freezing | retryWait | recoveryAvailable | recoveryUnavailable | resolved
  deriving DecidableEq

/-- `user_data_faults.reason_code`. -/
inductive FaultReason
  | authoritativeIntegrityMismatch | userDirectoryMissing | userDirectoryUnreadable
  | userDatabaseCorrupt
  deriving DecidableEq

/-- A row of `user_data_faults`, under its operation identity; `released` says that
`release_state` is `released` or `superseded`. -/
structure UserDataFault where
  requestDigest : Digest
  nodeID : NodeID
  reasonCode : FaultReason
  reportedByAdminID : ℤ
  state : FaultState
  released : Bool
  (activityEpoch controllerGeneration : ℤ)
  deriving DecidableEq

/-- `independent_user_reconciliations.state`. -/
inductive ReconciliationState
  | unmapped | pending | snapshotting | completing | completionRetry | conflict | retryWait
  | succeeded | superseded | failed
  deriving DecidableEq

/-- A row of `independent_user_reconciliations`. -/
structure IndependentReconciliation where
  nodeID : NodeID
  localHandle : String
  marker : UUID
  state : ReconciliationState
  workflowID : Option UUID
  (attempt controllerGeneration : ℤ)
  deriving DecidableEq

/-- `replica_cleanup_tasks.state`. -/
inductive CleanupState
  | pending | running | retryWait | succeeded | cancelled | failed
  deriving DecidableEq

/-- A row of `replica_cleanup_tasks`. -/
structure CleanupTask where
  nodeID : NodeID
  snapshotID : UUID
  replicaKind : CopyKind
  state : CleanupState
  controllerGeneration : ℤ
  deriving DecidableEq

/-- `node_retirement_operations.state`. -/
inductive RetirementState
  | scheduled | migrating | retryWait | verifying | blocked | decommissioned | cancelled | failed
  deriving DecidableEq

/-- A row of `node_retirement_operations`. -/
structure NodeRetirement where
  nodeID : NodeID
  state : RetirementState
  controllerGeneration : ℤ
  deriving DecidableEq

/-- `node_retirement_items.item_kind`. -/
inductive RetirementItemKind
  | authoritativeHome | archiveReplica | redundantReplica | accountMetadata
  deriving DecidableEq

/-- `node_retirement_items.state`. -/
inductive RetirementItemState
  | pending | waitingOffline | provisioning | snapshotting | promoting | verifying | retryWait
  | blocked | failed | succeeded | superseded
  deriving DecidableEq

/-- A row of `node_retirement_items`. -/
structure RetirementItem where
  retirementID : UUID
  sourceNodeID : NodeID
  targetNodeID : Option NodeID
  itemKind : RetirementItemKind
  state : RetirementItemState
  workflowID : Option UUID
  deriving DecidableEq

/-! ## The database -/

/-- The tables: `activeGeneration`, `nodes` and `retirements` are shared by all users, the rest
are the rows of one user. -/
structure Db where
  /-- The generation of the `controller_epochs` row in state `active`, if there is one. -/
  activeGeneration : Option ℤ
  nodes : Table NodeID Node
  retirements : Table UUID NodeRetirement
  user : User
  lease : Option ActivityLease
  leaseOperations : Table UUID LeaseOperation
  tickets : Table UUID ControlTicket
  accounts : Table NodeID NodeAccount
  replicas : Table NodeID UserReplica
  copies : Table NodeID ReplicaCopy
  workflows : Table UUID Workflow
  manifests : Table UUID SnapshotManifest
  capabilities : Table UUID TransferCapability
  jobs : Table ℤ BackupJob
  takeovers : Table UUID TakeoverOperation
  restores : Table UUID RestoreOperation
  conflicts : Table UUID ReplicaConflict
  resolutions : Table UUID ResolutionOperation
  protection : Option ProtectionState
  faults : Table UUID UserDataFault
  reconciliations : Table UUID IndependentReconciliation
  cleanups : Table UUID CleanupTask
  retirementItems : Table UUID RetirementItem
  deriving DecidableEq

inductive StoreError
  | invalidInput | operationReplay | constraintViolation | notFound | noActiveGeneration
  | leaseOperationConflict | existingWriterRequired | staleControllerLease | activityLeaseMismatch
  | loginHandoffUnavailable | snapshotUserActive | snapshotWorkflowConflict | snapshotUnavailable
  | snapshotCapabilityInvalid | replicaTakeoverUnavailable | replicaTakeoverConflict
  | replicaTakeoverLeaseActive | restoreUnavailable | restoreConflict | restoreAccountUnavailable
  | conflictResolutionUnavailable | conflictResolutionConflict | userDataFaultUnavailable
  | userDataFaultConflict | retirementConflict | replicaCleanupConflict
  | independentReconciliationConflict | importConflict
  deriving DecidableEq

end StControl.Store
