import StControl.Store.System

/-!
# What the transactions write

For some of the tables, the transactions that write them are few.  The lists below name them, and
`tables_kept` says that all others leave the table as it is.  An argument about such a table is then
about the listed transactions only.
-/

namespace StControl.Store

open Transaction

def Act.writesJobs : Act → Bool
  | .createSnapshotWorkflow _ | .claimAndCreateStorageRepair _ | .resetRecoveredSnapshotWorkflow ..
  | .completeSnapshotWorkflow _ | .failSnapshotWorkflow .. | .abortBackupJobAndSnapshotWorkflow _
  | .environment (.job ..) => true
  | _ => false

def Act.writesReconciliations : Act → Bool
  | .createSnapshotWorkflow _ | .recordIndependentSyncFact .. | .settleIndependentConflicts
  | .environment (.reconciliation ..) => true
  | _ => false

def Act.writesCopies : Act → Bool
  | .confirmReplicaTakeover _ | .reportUserDataFault _ | .completeSnapshotWorkflow _
  | .completeRestoreWorkflow _ | .completeNodeRetirementHomeMigration ..
  | .completeNodeRetirementReplicaItem _ | .completeConflictResolution _ | .linkImportCandidate ..
  | .recordIndependentSyncFact .. | .settleIndependentConflicts | .claimReplicaCleanup _
  | .completeReplicaCleanup _ | .failReplicaCleanup _ | .failReplicaIntegrity .. => true
  | _ => false

def Act.writesCleanups : Act → Bool
  | .completeSnapshotWorkflow _ | .scheduleReplicaCleanup .. | .claimReplicaCleanup _
  | .completeReplicaCleanup _ | .retryReplicaCleanup _ | .failReplicaCleanup _ => true
  | _ => false

def Act.writesAccounts : Act → Bool
  | .confirmReplicaTakeover _ | .createSnapshotWorkflow _ | .createRestoreWorkflow _
  | .completeRestoreWorkflow _ | .failRestoreWorkflow .. | .completeNodeRetirementHomeMigration ..
  | .completeNodeRetirementReplicaItem _ | .completeConflictResolution _ | .linkImportCandidate ..
  | .completeAccountImportClaim .. | .environment (.account ..) => true
  | _ => false

def Act.writesWorkflows : Act → Bool
  | .createLoginHandoff _ | .consumeLoginHandoff _ | .renewActivityLease ..
  | .updateActivityLeaseTelemetry _ | .endActivityLease .. | .reconcileProtectionStates ..
  | .confirmReplicaTakeover _ | .reportUserDataFault _ | .startNodeRetirement ..
  | .cancelNodeRetirement .. | .claimNodeRetirement _ | .retryNodeRetirementItem ..
  | .completeNodeRetirementHomeMigration .. | .completeNodeRetirementReplicaItem _
  | .revokeNodeAccess .. | .claimConflictEvidence .. | .retryConflictEvidence ..
  | .completeConflictEvidence .. | .linkImportCandidate .. | .completeAccountImportClaim ..
  | .scheduleReplicaCleanup .. | .claimReplicaCleanup _ | .completeReplicaCleanup _
  | .retryReplicaCleanup _ | .failReplicaCleanup _ | .failReplicaIntegrity ..
  | .promoteControllerEpoch _ | .environment _ => false
  | _ => true

def Act.writesFaults : Act → Bool
  | .confirmReplicaTakeover _ | .reportUserDataFault _ | .completeRestoreWorkflow _
  | .environment (.fault ..) => true
  | _ => false

def Act.writesNodes : Act → Bool
  | .startNodeRetirement .. | .cancelNodeRetirement .. | .claimNodeRetirement _
  | .retryNodeRetirementItem .. | .completeNodeRetirementHomeMigration ..
  | .completeNodeRetirementReplicaItem _ | .promoteControllerEpoch _ | .environment
    (.node ..) => true
  | _ => false

variable {db : Db} {act : Act}

structure TablesKept (act : Act) (db db' : Db) : Prop where
  username : db'.user.username = db.user.username
  jobs : act.writesJobs = false → db'.jobs = db.jobs
  reconciliations : act.writesReconciliations = false → db'.reconciliations = db.reconciliations
  copies : act.writesCopies = false → db'.copies = db.copies
  cleanups : act.writesCleanups = false → db'.cleanups = db.cleanups
  accounts : act.writesAccounts = false → db'.accounts = db.accounts
  workflows : act.writesWorkflows = false → db'.workflows = db.workflows
  faults : act.writesFaults = false → db'.faults = db.faults
  nodes : act.writesNodes = false → db'.nodes = db.nodes ∧ db'.retirements = db.retirements ∧
    db'.activeGeneration = db.activeGeneration

/-- **A transaction writes only what it is listed for.** -/
theorem tables_kept : Ensures (act.transaction db) (TablesKept act db) := by
  cases act
  case' environment w =>
    refine ensures_ok.mpr ?_
    cases w
  case' createLoginHandoff p =>
    refine ensures_map.mpr (createLoginHandoff_commit.mono ?_)
    rintro r (⟨-, hr⟩ | ⟨_, _, _, _, -, -, -, -, hr⟩) <;> rw [hr]
  case' confirmReplicaTakeover p =>
    refine confirmReplicaTakeover_commit.mono ?_
    rintro db' (rfl | ⟨_, _, _, -, rfl⟩)
  case' reportUserDataFault p =>
    refine reportUserDataFault_commit.mono ?_
    rintro db' (rfl | ⟨_, _, -, rfl⟩)
  case' createSnapshotWorkflow p =>
    refine createSnapshotWorkflow_commit.mono ?_
    rintro db' ⟨_, _, -, rfl⟩
  case' claimAndCreateStorageRepair p =>
    refine claimAndCreateStorageRepair_commit.mono ?_
    rintro db' ⟨_, -, rfl⟩
  case' createRestoreWorkflow p =>
    refine createRestoreWorkflow_commit.mono ?_
    rintro db' (rfl | ⟨_, _, _, _, _, -, rfl⟩)
  case' createConflictResolution p =>
    refine createConflictResolution_commit.mono ?_
    rintro db' (rfl | ⟨_, _, -, rfl⟩)
  case' completeSnapshotWorkflow p =>
    refine ensures_ite.mpr ⟨fun _ => completeSnapshotWorkflow_commit.mono ?_, fun _ => by simp⟩
    rintro db' ⟨w, -, ⟨-, rfl⟩ | ⟨-, rfl⟩⟩
  case' completeRestoreWorkflow p =>
    refine completeRestoreWorkflow_commit.mono ?_
    rintro db' (⟨rfl, -⟩ | ⟨_, _, _, _, -, rfl⟩)
  case' completeNodeRetirementHomeMigration =>
    refine completeNodeRetirementHomeMigration_commit.mono ?_
    rintro db' (⟨rfl, -⟩ | ⟨_, _, _, _, -, rfl⟩)
  case' completeConflictResolution p =>
    refine completeConflictResolution_commit.mono ?_
    rintro db' (rfl | ⟨w, _, -, rfl⟩)
  case' restartConflictResolution operationID =>
    refine restartConflictResolution_commit.mono ?_
    rintro db' ⟨_, _, _, _, _, -, rfl⟩
  case' startNodeRetirement =>
    refine startNodeRetirement_commit.mono ?_
    rintro db' ⟨_, _, -, -, -, -, -, -, rfl⟩
  case' completeAccountImportClaim =>
    refine completeAccountImportClaim_commit.mono ?_
    rintro db' ⟨_, -, ⟨-, rfl⟩ | ⟨-, rfl⟩⟩
  case' linkImportCandidate =>
    refine linkImportCandidate_commit.mono ?_
    rintro db' ⟨_, ⟨-, rfl⟩ | ⟨-, rfl⟩⟩
  case' completeReplicaCleanup =>
    refine completeReplicaCleanup_commit.mono ?_
    rintro db' ⟨_, rfl | rfl | ⟨-, rfl⟩⟩
  all_goals try
    simp only [Act.transaction, adoptStaleSnapshotWorkflow, adoptStaleConflictResolution,
      resumeSnapshotRetry, deferSnapshotWorkflow, deferConflictResolution,
      clearSnapshotWorkflowDeferral, prepareRecoveredSnapshotCompletion,
      resetRecoveredSnapshotWorkflow, rotateSnapshotCapability, setSnapshotWorkflowState,
      setSnapshotWorkflowProgress, scheduleSnapshotRetry, reconcileProtectionStates,
      abortBackupJobAndSnapshotWorkflow, completeNodeRetirementReplicaItem, scheduleReplicaCleanup,
      failSnapshotWorkflow, cancelSnapshotWorkflow, resetRestoreTransferForRetry,
      failRestoreWorkflow, setResolutionTransfer, failReplicaIntegrity, settleIndependentConflicts,
      recordIndependentSyncFact, failReplicaCleanup, markConflictResolutionPublishing,
      failConflictResolution, consumeLoginHandoff, renewActivityLease, updateActivityLeaseTelemetry,
      endActivityLease, cancelNodeRetirement, claimNodeRetirement, retryNodeRetirementItem,
      revokeNodeAccess, claimConflictEvidence, retryConflictEvidence, completeConflictEvidence,
      claimReplicaCleanup, retryReplicaCleanup, promoteControllerEpoch, ensures_ite, ensures_steps,
      ensures_ok, ensures_error]
  repeat' first
    | simp only [ensures_steps]
    | split
    | apply And.intro
    | intro _
  all_goals first
    | refine ⟨rfl, ?_, ?_, ?_, ?_, ?_, ?_, ?_, ?_⟩
    | trivial
  -- A listed table is excluded, another one is as it was.
  all_goals intro hw
  all_goals first
    | (cases hw; done)
    | rfl
    | exact ⟨rfl, rfl, rfl⟩

end StControl.Store
