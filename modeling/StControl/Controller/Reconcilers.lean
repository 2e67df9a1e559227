import StControl.Controller.Executor

/-!
# The reconcilers

A controller that has just started, or that has just been promoted, knows of its workflows only what
the tables say.  Its reconcilers adopt workflows of an earlier generation, list those that are due,
and execute them.  This module gives one whole execution of a snapshot, a restore and a conflict
resolution as a function of what the agents answer; `reconcilerStep` collects what the reconcilers
can do, and `interleaved_workflows_kept` says what their runs keep, whatever commits in between.

The transfer mode of a workflow is the one it was created with.  A workflow has at most one prepared
capability, and that is its latest one: the read of an execution finds the latest capability
prepared exactly if there is a prepared one. -/

namespace StControl.Controller

open Store Run Transaction Option

variable {id : UUID} {manifest : Digest}

/-! ## Nodes, capabilities and completions -/

def snapshotNodeReady (node : Node) : Bool := node.serving && node.managed

/-- `snapshotSourceReady`; the mode stands for the trigger of the backup job. -/
def snapshotSourceReady (node : Node) : SnapshotMode → Bool
  | .ordinary => snapshotNodeReady node
  | .independentReconciliation =>
    node.serving && node.role = .compute && node.controlMode = .independentDraining &&
      node.desiredControlMode = .independentDraining
  | .retirement =>
    node.connectivityState = .online && node.compatibilityState = .compatible &&
      node.role = .compute &&
      (node.operationalState = .draining || node.operationalState = .retiring) && node.managed

/-- The identity that a rotation of a capability draws, and the hash of the secret derived from
it. -/
structure FreshCapability where
  capabilityID : UUID
  tokenHash : Digest
  deriving DecidableEq

def preparedCapability (db : Db) (workflowID : UUID) : Option TransferCapability :=
  (db.capabilities.find? fun _ c => c.workflowID = workflowID && c.state = .prepared).map (·.2)

def capabilityDue (db : Db) (workflowID : UUID) (latest : Time) : Bool :=
  (preparedCapability db workflowID).all fun capability => capability.expiresAt ≤ latest

def workflowSnapshot (db : Db) (workflowID : UUID) : Option UUID :=
  (db.manifests.find? fun _ m => m.workflowID = workflowID).map (·.1)

def destinationKind (target : Node) : CopyKind :=
  if target.role = .compute then .hotStandby else .archive

/-- The data of a snapshot can reach its target: over the relay, or at the target's own address. -/
def RetryConfig.dataPath (c : RetryConfig) (w : Workflow) (target : Node) : Bool :=
  if w.relay then c.relayAvailable else target.transferURL ≠ ""

/-! ## Snapshots -/

structure SnapshotAnswers where
  /-- The account on the target was provisioned. -/
  provisioned : Bool
  /-- The answer to a question for the receipt: none at all, that there is no receipt, or the digest
  of the published manifest. -/
  receipt : Option (Option Digest)
  capability : FreshCapability
  /-- The target has answered that it is prepared. -/
  prepared : Bool
  /-- The progress that the nodes report while the transfer runs. -/
  progress : List (NodeID × WorkflowState)
  /-- The digest of the manifest that the transfer has published. -/
  transferred : Option Digest
  origin : CopyOrigin
  cleanupID : UUID

section

variable (c : RetryConfig) (a : SnapshotAnswers) (e : Execution) (w : Workflow) (target : Node)
  (now : Time)

def completeSnapshotExecution (manifest : Digest) (db : Db) : Db :=
  match workflowSnapshot db e.workflowID, preparedCapability db e.workflowID with
  | some snapshotID, some capability => perform db (.completeSnapshotWorkflow {
      workflowID := e.workflowID, snapshotID, capabilityHash := capability.tokenHash
      targetNodeID := w.targetNodeID, replicaKind := destinationKind target
      replicaOrigin := a.origin, manifestSHA256 := manifest, cleanupID := a.cleanupID
      now })
  | _, _ => db

/-- `recoverSnapshotAfterControllerGeneration`: a receipt of the target is taken, no answer leaves
everything as it is, and otherwise the transfer starts afresh. -/
def recoverSnapshot (db : Db) : Db :=
  if w.state = .transferring ∨ w.state = .verifying ∨ w.state = .publishing then
    match a.receipt with
    | none => db
    | some none => perform db (.resetRecoveredSnapshotWorkflow e.workflowID now)
    | some (some manifest) => completeSnapshotExecution a e w target now manifest
        (perform db (.prepareRecoveredSnapshotCompletion e.workflowID))
  else perform db (.resetRecoveredSnapshotWorkflow e.workflowID now)

/-- `GetWorkflowTargetAccountProvision` and `provisionSnapshotTargetAccount`: the rows once the
account on the target is active, or `none`. -/
def provisionTarget (provisioned : Bool) (db : Db) : Option Db :=
  match db.accounts.get? w.targetNodeID with
  | none => none
  | some account =>
    if account.status = .active then some db
    else if account.status = .pending ∧ provisioned then
      some (perform db (.environment (.account w.targetNodeID { account with status := .active })))
    else none

def reportProgress (progress : List (NodeID × WorkflowState)) (db : Db) : Db :=
  match workflowSnapshot db e.workflowID with
  | none => db
  | some snapshotID => progress.foldl (fun db report =>
      perform db (.setSnapshotWorkflowProgress e.workflowID snapshotID report.1 report.2)) db

/-- `UpdateBackupJobStatus` to running, whatever the status was. -/
def jobRunning (db : Db) : Db :=
  match e.jobID.bind fun jobID => (db.jobs.get? jobID).map fun job => (jobID, job) with
  | none => db
  | some (jobID, job) => perform db (.environment (.job jobID { job with status := .running }))

def transferSnapshot (db : Db) : Db :=
  if a.prepared then
    let transferred := reportProgress e a.progress (jobRunning e db)
    match a.transferred with
    | some manifest => completeSnapshotExecution a e w target now manifest transferred
    | none =>
      match a.receipt.join, (transferred.workflows.get? e.workflowID).map (·.state) with
      | some manifest, some WorkflowState.publishing =>
        completeSnapshotExecution a e w target now manifest transferred
      | _, _ => retryWorkflow c e now transferred
  else retryWorkflow c e now db

/-- The execution from the state of the workflow on: a scheduled workflow starts, a published one is
asked for its receipt, and the others need a capability. -/
def carryOutSnapshot (db : Db) : Db :=
  let state := if w.state = .scheduled then .quiescing else w.state
  let started := if w.state = .scheduled then perform db (.startSnapshotWorkflow e.workflowID)
    else db
  if state = .publishing then
    match a.receipt.join with
    | some manifest => completeSnapshotExecution a e w target now manifest started
    | none => retryWorkflow c e now started
  else if capabilityDue started e.workflowID (now + 120 * c.second) then
    if state = .quiescing then
      match step started (.rotateSnapshotCapability e.workflowID a.capability.capabilityID
          a.capability.tokenHash (now + 28800 * c.second) now) with
      | some rotated => transferSnapshot c a e w target now rotated
      | none => retryWorkflow c e now started
    else retryWorkflow c e now started
  else transferSnapshot c a e w target now started

end

/-- `executeSnapshotWorkflow`. -/
def executeSnapshot (c : RetryConfig) (workflowID : UUID) (a : SnapshotAnswers) (now : Time)
    (db : Db) : Option Db := do
  let claimed ← claimWorkflow workflowID now db
  let e ← loadExecution workflowID claimed
  let w ← claimed.workflows.get? workflowID
  if w.workflowType ≠ .snapshot then none
  else
    match claimed.nodes.get? w.sourceNodeID, claimed.nodes.get? w.targetNodeID with
    | some source, some target =>
      if c.dataPath w target = false then some (retryWorkflow c e now claimed)
      else if snapshotNodeReady target = false then
        some (perform claimed (.deferSnapshotWorkflow workflowID now (30 * c.second)))
      else if w.errorCode = some .controllerGenerationRecovery then
        some (recoverSnapshot a e w target now claimed)
      else if snapshotSourceReady source w.mode = false then
        some (perform claimed (.deferSnapshotWorkflow workflowID now (30 * c.second)))
      else
        let cleared := if w.errorCode = some .nodeNotReady then
          perform claimed (.clearSnapshotWorkflowDeferral workflowID) else claimed
        if target.role = .compute then
          match provisionTarget w a.provisioned cleared with
          | some provisioned => some (carryOutSnapshot c a e w target now provisioned)
          | none => some (retryWorkflow c e now cleared)
        else some (carryOutSnapshot c a e w target now cleared)
    | _, _ => some (retryWorkflow c e now claimed)

/-! ## Restores -/

structure RestoreAnswers where
  provisioned : Bool
  receipt : Option Digest
  capability : FreshCapability
  prepared : Bool
  progress : List (NodeID × WorkflowState)
  transferred : Option Digest
  /-- The command of the failed step is recorded as failed, cancelled or expired. -/
  definitive : Bool
  nextCapability : FreshCapability

section

variable (c : RetryConfig) (a : RestoreAnswers) (e : Execution) (w : Workflow) (now : Time)

def completeRestoreExecution (manifest : Digest) (db : Db) : Db :=
  match workflowSnapshot db e.workflowID, preparedCapability db e.workflowID with
  | some restoreSnapshotID, some capability => perform db (.completeRestoreWorkflow {
      workflowID := e.workflowID, restoreSnapshotID, capabilityHash := capability.tokenHash
      manifestSHA256 := manifest
      now })
  | _, _ => db

def rotateRestoreCapability (fresh : FreshCapability) (db : Db) : Option Db :=
  step db (.rotateSnapshotCapability e.workflowID fresh.capabilityID fresh.tokenHash
    (now + 900 * c.second) now)

/-- The commands of a restore whose capability is good.  Where a rotation after a definitive failure
is refused, the execution returns. -/
def transferRestore (db : Db) : Db :=
  if a.prepared then
    let started := if w.state = .scheduled then perform db (.startRestoreWorkflow e.workflowID)
      else db
    let transferred := reportProgress e a.progress started
    match a.transferred with
    | some manifest => completeRestoreExecution e now manifest transferred
    | none =>
      let state := (transferred.workflows.get? e.workflowID).map (·.state)
      match a.receipt, state with
      | some manifest, some WorkflowState.publishing => completeRestoreExecution e now manifest
        transferred
      | _, _ =>
        if a.definitive ∧ (state = some .transferring ∨ state = some .verifying) then
          match step transferred (.resetRestoreTransferForRetry e.workflowID) with
          | none => transferred
          | some reset =>
            match rotateRestoreCapability c e now a.nextCapability reset with
            | none => reset
            | some rotated => retryWorkflow c e now rotated
        else retryWorkflow c e now transferred
  else if a.definitive then
    match rotateRestoreCapability c e now a.nextCapability db with
    | none => db
    | some rotated => retryWorkflow c e now rotated
  else retryWorkflow c e now db

def carryOutRestore (db : Db) : Db :=
  match provisionTarget w a.provisioned db with
  | none => retryWorkflow c e now db
  | some provisioned =>
    if capabilityDue provisioned e.workflowID now then
      match rotateRestoreCapability c e now a.capability provisioned with
      | none => retryWorkflow c e now provisioned
      | some rotated => transferRestore c a e w now rotated
    else transferRestore c a e w now provisioned

end

/-- `executeRestoreWorkflow`. -/
def executeRestore (c : RetryConfig) (workflowID : UUID) (a : RestoreAnswers) (now : Time)
    (db : Db) : Option Db := do
  let claimed ← claimWorkflow workflowID now db
  let e ← loadExecution workflowID claimed
  let w ← claimed.workflows.get? workflowID
  if w.workflowType ≠ .restore then none
  else if (claimed.nodes.get? w.sourceNodeID).any (fun n => n.role = .storage) &&
      (claimed.nodes.get? w.targetNodeID).any
        (fun n => n.role = .compute && n.transferURL ≠ "") then
    if w.state = .publishing then
      match a.receipt with
      | some manifest => some (completeRestoreExecution e now manifest claimed)
      | none => some (retryWorkflow c e now claimed)
    else some (carryOutRestore c a e w now claimed)
  else some (retryWorkflow c e now claimed)

/-! ## Conflict resolutions -/

structure ResolutionAnswers where
  /-- The evidence of the node arrives at the base. -/
  transferred : NodeID → Bool
  /-- The base has prepared the result and taken every decision. -/
  prepared : Bool
  /-- The digest of the entries that the base has published. -/
  published : Option Digest

def pendingSources (operation : ResolutionOperation) : List NodeID :=
  operation.transfers.fold [] fun nodes node transfer =>
    if transfer = .consumed then nodes else nodes ++ [node]

lemma mem_pendingSources {operation : ResolutionOperation} {node : NodeID} :
    node ∈ pendingSources operation ↔
      ∃ transfer, operation.transfers.get? node = some transfer ∧ transfer ≠ .consumed := by
  have hmem := Table.mem_fold_append (t := operation.transfers) (k := node)
    (p := fun _ transfer => decide (transfer = .consumed))
  simp only [decide_eq_true_eq, decide_eq_false_iff_not] at hmem
  exact hmem

def minimumConflictRelayAgentVersion : List ℕ := [0, 4, 6]

/-- The agent can send its evidence to the base: over the relay, where the base has no address, only
an agent that is new enough. -/
def delivers (n base : Node) : Bool :=
  base.transferURL ≠ "" || n.agentVersion.any fun v => !decide
  (v < minimumConflictRelayAgentVersion)

def transferPrepared (db : Db) (operationID : UUID) (node : NodeID) : Bool :=
  (db.resolutions.get? operationID).any fun o => o.transfers.get? node = some .prepared

/-- `transferConflictResolutionSource`: the rows, and whether the evidence has arrived.  A transfer
that is not prepared is rotated first; one that has failed is rotated again, which leaves it
prepared. -/
def transferSource (operationID : UUID) (node : NodeID) (arrived : Bool) (db : Db) : Db × Bool :=
  match (if transferPrepared db operationID node then some db
    else step db (.setResolutionTransfer operationID node false)) with
  | none => (db, false)
  | some rotated =>
    if arrived then
      match step rotated (.setResolutionTransfer operationID node true) with
      | some db' => (db', true)
      | none => (rotated, false)
    else (rotated, false)

/-- Transfer the evidence of one source after the other, up to the first failure; the rows, and
whether all of it has arrived. -/
def transferEvidence (operationID : UUID) (transferred : NodeID → Bool) :
    List NodeID → Db → Db × Bool
  | [], db => (db, true)
  | node :: nodes, db =>
    match transferSource operationID node (transferred node) db with
    | (db', true) => transferEvidence operationID transferred nodes db'
    | (db', false) => (db', false)

/-- `executeConflictResolution`. -/
def executeResolution (c : RetryConfig) (workflowID : UUID) (a : ResolutionAnswers) (now : Time)
    (db : Db) : Option Db := do
  let claimed ← claimWorkflow workflowID now db
  let e ← loadExecution workflowID claimed
  let w ← claimed.workflows.get? workflowID
  let (operationID, operation) ← claimed.resolutionOf workflowID
  if w.workflowType ≠ .conflictResolution then none
  else
    match claimed.nodes.get? operation.baseNodeID with
    | none => some (retryWorkflow c e now claimed)
    | some base =>
      if base.role ≠ .compute ∨ (base.transferURL = "" && !c.relayAvailable) then
        some (retryWorkflow c e now claimed)
      else if snapshotNodeReady base = false ∨ ((pendingSources operation).all fun node =>
          (claimed.nodes.get? node).any fun n => snapshotNodeReady n && delivers n base) =
          false then
        some (perform claimed (.deferConflictResolution workflowID now (60 * c.second)))
      else
        let (received, complete) :=
          transferEvidence operationID a.transferred (pendingSources operation) claimed
        if complete = false ∨ a.prepared = false then some (retryWorkflow c e now received)
        else
          match step received (.markConflictResolutionPublishing workflowID) with
          | none => some received
          | some publishing =>
            match a.published with
            | none => some (retryWorkflow c e now publishing)
            | some entries => some (perform publishing (.completeConflictResolution {
                workflowID, operationID
                conflictID := operation.conflictID, resultSnapshotID := operation.resultSnapshotID
                entriesSHA256 := entries
                now }))

/-! ## All of them -/

inductive ReconcilerAct
  | adoptSnapshot (workflowID : UUID) (now : Time)
  | adoptResolution (workflowID : UUID) (hadRelay : Bool) (now : Time)
  | executeSnapshot (workflowID : UUID) (a : SnapshotAnswers) (now : Time)
  | executeRestore (workflowID : UUID) (a : RestoreAnswers) (now : Time)
  | executeResolution (workflowID : UUID) (a : ResolutionAnswers) (now : Time)

def reconcilerStep (c : RetryConfig) (db : Db) : ReconcilerAct → Option Db
  | .adoptSnapshot workflowID now => step db (.adoptStaleSnapshotWorkflow workflowID now)
  | .adoptResolution workflowID hadRelay now =>
    step db (.adoptStaleConflictResolution workflowID hadRelay now)
  | .executeSnapshot workflowID a now => Controller.executeSnapshot c workflowID a now db
  | .executeRestore workflowID a now => Controller.executeRestore c workflowID a now db
  | .executeResolution workflowID a now => Controller.executeResolution c workflowID a now db

def ReconcilerAct.answered (db : Db) : ReconcilerAct → Bool
  | .executeRestore workflowID a _ =>
    (db.workflows.get? workflowID).all (fun w => w.state ≠ .publishing) || a.receipt.isSome
  | _ => true

/-! ## Reconciler steps as store transactions -/

def Act.inExecution : Act → Bool
  | .adoptStaleSnapshotWorkflow .. | .adoptStaleConflictResolution .. | .resumeSnapshotRetry ..
  | .deferSnapshotWorkflow .. | .deferConflictResolution .. | .clearSnapshotWorkflowDeferral ..
  | .prepareRecoveredSnapshotCompletion .. | .resetRecoveredSnapshotWorkflow ..
  | .rotateSnapshotCapability .. | .startSnapshotWorkflow .. | .startRestoreWorkflow ..
  | .setSnapshotWorkflowProgress .. | .completeSnapshotWorkflow .. | .scheduleSnapshotRetry ..
  | .failSnapshotWorkflow .. | .cancelSnapshotWorkflow .. | .resetRestoreTransferForRetry ..
  | .completeRestoreWorkflow .. | .failRestoreWorkflow .. | .setResolutionTransfer ..
  | .markConflictResolutionPublishing .. | .completeConflictResolution ..
  | .failConflictResolution .. | .environment (.account ..) | .environment (.job ..) => true
  | _ => false

def Executes (db db' : Db) : Prop :=
  ∃ acts, (∀ act ∈ acts, Act.inExecution act) ∧ run step db acts = some db'

section

variable {c : RetryConfig} {e : Execution} {w : Workflow} {now : Time} {db db' db'' : Db}

lemma Executes.refl (db : Db) : Executes db db :=
  ⟨[], fun _ hact => absurd hact List.not_mem_nil, run_nil db⟩

lemma Executes.trans (h : Executes db db') (h' : Executes db' db'') : Executes db db'' := by
  obtain ⟨acts, hacts, hrun⟩ := h
  obtain ⟨acts', hacts', hrun'⟩ := h'
  refine ⟨acts ++ acts', fun act hact => ?_, run_append_eq_some.mpr ⟨db', hrun, hrun'⟩⟩
  exact (List.mem_append.mp hact).elim (hacts act) (hacts' act)

lemma Executes.of_step {act : Act} (hact : Act.inExecution act)
    (hstep : step db act = some db') : Executes db db' := by
  refine ⟨[act], fun a ha => ?_, run_cons_eq_some.mpr ⟨db', hstep, run_nil db'⟩⟩
  rwa [List.mem_singleton.mp ha]

lemma Executes.perform {act : Act} (hact : Act.inExecution act) : Executes db (perform db act) := by
  rcases perform_eq db act with h | h
  · rw [h]
    exact .refl db
  · exact .of_step hact h

lemma executes_retryWorkflow : Executes db (retryWorkflow c e now db) := by
  unfold retryWorkflow
  split
  · exact .perform rfl
  split
  · exact .refl db
  next scheduled hscheduled =>
    have hstep : Executes db scheduled := .of_step rfl hscheduled
    split
    · refine hstep.trans (.perform ?_)
      unfold Execution.failure
      split
      · split <;> rfl
      · rfl
      · rfl
    · exact hstep

lemma executes_claimWorkflow (h : claimWorkflow id now db = some db') : Executes db db' := by
  obtain rfl | hstep := (of_claimWorkflow h).2
  · exact .refl _
  · exact .of_step rfl hstep

lemma executes_provisionTarget {provisioned : Bool}
    (h : provisionTarget w provisioned db = some db') : Executes db db' := by
  unfold provisionTarget at h
  split at h
  · cases h
  split at h
  · exact some.inj h ▸ .refl db
  · split at h
    · exact some.inj h ▸ .perform rfl
    · cases h

lemma executes_reportProgress (e : Execution) (progress : List (NodeID × WorkflowState)) (db : Db) :
    Executes db (reportProgress e progress db) := by
  unfold reportProgress
  cases workflowSnapshot db e.workflowID with
  | none => exact .refl db
  | some snapshotID =>
    induction progress generalizing db with
    | nil => exact .refl db
    | cons report progress ih =>
      have hreported : Executes db (perform db (.setSnapshotWorkflowProgress e.workflowID snapshotID
          report.1 report.2)) := .perform rfl
      exact hreported.trans (ih _)

lemma executes_jobRunning (e : Execution) (db : Db) : Executes db (jobRunning e db) := by
  unfold jobRunning
  split
  · exact .refl db
  · exact .perform rfl

section

variable {a : SnapshotAnswers} {target : Node}

lemma executes_completeSnapshotExecution :
    Executes db (completeSnapshotExecution a e w target now manifest db) := by
  unfold completeSnapshotExecution
  split
  · exact .perform rfl
  · exact .refl db

lemma executes_recoverSnapshot : Executes db (recoverSnapshot a e w target now db) := by
  unfold recoverSnapshot
  split
  · split
    · exact .refl db
    · exact .perform rfl
    · have hprepared : Executes db
        (perform db (.prepareRecoveredSnapshotCompletion e.workflowID)) :=
        .perform rfl
      exact hprepared.trans executes_completeSnapshotExecution
  · exact .perform rfl

lemma executes_transferSnapshot : Executes db (transferSnapshot c a e w target now db) := by
  unfold transferSnapshot
  split
  · have htransferred : Executes db (reportProgress e a.progress (jobRunning e db)) :=
      (executes_jobRunning e db).trans (executes_reportProgress e a.progress _)
    refine htransferred.trans ?_
    dsimp only
    split
    · exact executes_completeSnapshotExecution
    · split
      · exact executes_completeSnapshotExecution
      · exact executes_retryWorkflow
  · exact executes_retryWorkflow

lemma executes_carryOutSnapshot : Executes db (carryOutSnapshot c a e w target now db) := by
  unfold carryOutSnapshot
  have hstarted : Executes db (if w.state = .scheduled then
      perform db (.startSnapshotWorkflow e.workflowID) else db) := by
    split
    · exact .perform rfl
    · exact .refl db
  refine hstarted.trans ?_
  dsimp only
  generalize (if w.state = .scheduled then perform db (.startSnapshotWorkflow e.workflowID)
    else db) = started
  generalize (if w.state = .scheduled then WorkflowState.quiescing else w.state) = state
  split
  · split
    · exact executes_completeSnapshotExecution
    · exact executes_retryWorkflow
  split
  · split
    · split
      next rotated hrotated => exact .trans (.of_step rfl hrotated) executes_transferSnapshot
      · exact executes_retryWorkflow
    · exact executes_retryWorkflow
  · exact executes_transferSnapshot

lemma executes_executeSnapshot (h : executeSnapshot c id a now db = some db') :
    Executes db db' := by
  simp only [executeSnapshot, bind_eq_bind, bind_eq_some_iff] at h
  obtain ⟨claimed, hclaimed, e, -, w, -, h⟩ := h
  refine (executes_claimWorkflow hclaimed).trans ?_
  obtain ⟨-, h⟩ := ite_none_left_eq_some.mp h
  split at h
  next source target _ _ =>
    split at h
    case isTrue => exact some.inj h ▸ executes_retryWorkflow
    split at h
    case isTrue => exact some.inj h ▸ .perform rfl
    split at h
    case isTrue => exact some.inj h ▸ executes_recoverSnapshot
    split at h
    case isTrue => exact some.inj h ▸ .perform rfl
    have hcleared : Executes claimed (if w.errorCode = some .nodeNotReady then
        perform claimed (.clearSnapshotWorkflowDeferral id) else claimed) := by
      split
      · exact .perform rfl
      · exact .refl claimed
    refine hcleared.trans ?_
    split at h
    · split at h
      next provisioned hprovisioned =>
        exact some.inj h ▸ (executes_provisionTarget hprovisioned).trans
          executes_carryOutSnapshot
      · exact some.inj h ▸ executes_retryWorkflow
    · exact some.inj h ▸ executes_carryOutSnapshot
  · exact some.inj h ▸ executes_retryWorkflow

end

section

variable {a : RestoreAnswers}

lemma executes_completeRestoreExecution :
    Executes db (completeRestoreExecution e now manifest db) := by
  unfold completeRestoreExecution
  split
  · exact .perform rfl
  · exact .refl db

lemma executes_transferRestore : Executes db (transferRestore c a e w now db) := by
  unfold transferRestore
  split
  · have hstarted : Executes db (if w.state = .scheduled then
        perform db (.startRestoreWorkflow e.workflowID) else db) := by
      split
      · exact .perform rfl
      · exact .refl db
    refine .trans (hstarted.trans (executes_reportProgress e a.progress _)) ?_
    dsimp only
    generalize reportProgress e a.progress _ = transferred
    split
    · exact executes_completeRestoreExecution
    split
    · exact executes_completeRestoreExecution
    split
    · split
      · exact .refl _
      next reset hreset =>
        refine .trans (.of_step rfl hreset) ?_
        split
        · exact .refl _
        next rotated hrotated => exact .trans (.of_step rfl hrotated) executes_retryWorkflow
    · exact executes_retryWorkflow
  · split
    · split
      · exact .refl db
      next rotated hrotated => exact .trans (.of_step rfl hrotated) executes_retryWorkflow
    · exact executes_retryWorkflow

lemma executes_carryOutRestore : Executes db (carryOutRestore c a e w now db) := by
  unfold carryOutRestore
  split
  · exact executes_retryWorkflow
  next provisioned hprovisioned =>
    refine (executes_provisionTarget hprovisioned).trans ?_
    split
    · split
      · exact executes_retryWorkflow
      next rotated hrotated => exact .trans (.of_step rfl hrotated) executes_transferRestore
    · exact executes_transferRestore

lemma executes_executeRestore (h : executeRestore c id a now db = some db') : Executes db db' := by
  simp only [executeRestore, bind_eq_bind, bind_eq_some_iff] at h
  obtain ⟨claimed, hclaimed, e, -, w, -, h⟩ := h
  refine (executes_claimWorkflow hclaimed).trans ?_
  obtain ⟨-, h⟩ := ite_none_left_eq_some.mp h
  split at h
  · split at h
    · split at h
      · exact some.inj h ▸ executes_completeRestoreExecution
      · exact some.inj h ▸ executes_retryWorkflow
    · exact some.inj h ▸ executes_carryOutRestore
  · exact some.inj h ▸ executes_retryWorkflow

end

lemma executes_transferSource (operationID : UUID) (node : NodeID) (arrived : Bool) (db : Db) :
    Executes db (transferSource operationID node arrived db).1 := by
  unfold transferSource
  split
  · exact .refl db
  next rotated hrotated =>
    have hfirst : Executes db rotated := by
      split at hrotated
      · exact some.inj hrotated ▸ .refl db
      · exact .of_step rfl hrotated
    split
    · split
      next db' hstep => exact hfirst.trans (.of_step rfl hstep)
      · exact hfirst
    · exact hfirst

lemma executes_transferEvidence (operationID : UUID) (transferred : NodeID → Bool)
    (nodes : List NodeID) (db : Db) :
    Executes db (transferEvidence operationID transferred nodes db).1 := by
  induction nodes generalizing db with
  | nil => exact .refl db
  | cons node nodes ih =>
    have hsource := executes_transferSource operationID node (transferred node) db
    unfold transferEvidence
    split
    next db' heq =>
      rw [heq] at hsource
      exact hsource.trans (ih db')
    next db' heq =>
      rwa [heq] at hsource

lemma executes_executeResolution {a : ResolutionAnswers}
    (h : executeResolution c id a now db = some db') : Executes db db' := by
  simp only [executeResolution, bind_eq_bind, bind_eq_some_iff] at h
  obtain ⟨claimed, hclaimed, e, -, w, -, ⟨operationID, operation⟩, -, h⟩ := h
  refine (executes_claimWorkflow hclaimed).trans ?_
  obtain ⟨-, h⟩ := ite_none_left_eq_some.mp h
  split at h
  · exact some.inj h ▸ executes_retryWorkflow
  next base _ =>
    split at h
    case isTrue => exact some.inj h ▸ executes_retryWorkflow
    split at h
    case isTrue => exact some.inj h ▸ .perform rfl
    refine (executes_transferEvidence operationID a.transferred (pendingSources operation)
      claimed).trans ?_
    split at h
    case isTrue => exact some.inj h ▸ executes_retryWorkflow
    split at h
    · exact some.inj h ▸ .refl _
    next publishing hpublishing =>
      refine .trans (.of_step rfl hpublishing) ?_
      split at h
      · exact some.inj h ▸ executes_retryWorkflow
      · exact some.inj h ▸ .perform rfl

/-- **Every step of a reconciler is a run of store transactions.** -/
theorem executes_reconcilerStep {act : ReconcilerAct} (h : reconcilerStep c db act = some db') :
    Executes db db' := by
  cases act with
  | adoptSnapshot | adoptResolution => exact .of_step rfl h
  | executeSnapshot => exact executes_executeSnapshot h
  | executeRestore => exact executes_executeRestore h
  | executeResolution => exact executes_executeResolution h

/-! ## Runs of the reconcilers -/

/-- An execution or another transaction.  The execution is a single step: it is between executions,
not within one, that the other transactions commit. -/
def interleavedStep (c : RetryConfig) (db : Db) : ReconcilerAct ⊕ Act → Option Db :=
  Sum.elim (reconcilerStep c db) (step db)

variable {before later : List (ReconcilerAct ⊕ Act)}

lemma run_interleaved (hrun : run (interleavedStep c) db later = some db') :
    ∃ acts, run step db acts = some db' := by
  refine run_rel (R := fun s s' => ∃ acts, run step s acts = some s')
    (fun _ => ⟨[], rfl⟩) ?_ ?_ hrun
  · rintro s t u ⟨acts, hacts⟩ ⟨acts', hacts'⟩
    exact ⟨acts ++ acts', run_append_eq_some.mpr ⟨t, hacts, hacts'⟩⟩
  · rintro s (act | act) s' hstep
    · obtain ⟨acts, -, hacts⟩ := executes_reconcilerStep hstep
      exact ⟨acts, hacts⟩
    · exact ⟨[act], run_cons_eq_some.mpr ⟨s', hstep, rfl⟩⟩

/-- **Workflows under the reconcilers.**  Whatever the agents answer and whatever commits between
the executions, at most one workflow is live, every operation has its workflow, and a workflow keeps
what was fixed at its creation and, once it has succeeded, its success. -/
theorem interleaved_workflows_kept {db₀ : Db} (hfresh : Fresh db₀)
    (hbefore : run (interleavedStep c) db₀ before = some db)
    (hlater : run (interleavedStep c) db later = some db') :
    db'.WellLinked ∧ ∀ id w, db.workflows.get? id = some w →
      ∃ w', db'.workflows.get? id = some w' ∧ w.Kept w' := by
  obtain ⟨_, hacts⟩ := run_interleaved hbefore
  obtain ⟨_, hacts'⟩ := run_interleaved hlater
  refine ⟨run_wellLinked (run_wellLinked hfresh.wellLinked hacts) hacts', fun id w hw => ?_⟩
  refine run_invariant (P := fun s => ∃ w', s.workflows.get? id = some w' ∧ w.Kept w') ?_
    ⟨w, hw, (Workflow.Continues.refl w).toKept⟩ hacts'
  rintro s act s' ⟨v, hv, h⟩ hstep
  obtain ⟨w', hw', h'⟩ := (step_committed hstep).workflow_kept hv
  exact ⟨w', hw', h'.operation.trans h.operation, h'.type.trans h.type, h'.mode.trans h.mode,
    h'.source.trans h.source, h'.target.trans h.target, h'.epoch.trans h.epoch,
    h'.succeeded ∘ h.succeeded, h'.resumes ∘ h.resumes⟩

theorem adopted_workflow_kept :
    ∃ db db' w w', run (interleavedStep ⟨3, 1, by decide, false⟩) sampleDb
      (((sampleTransfer 50 1 3 .archive 10).take 2 ++ [Act.promoteControllerEpoch 20]).map .inr) =
        some db ∧
    run (interleavedStep ⟨3, 1, by decide, false⟩) db [.inl (.adoptSnapshot 50 30)] = some db' ∧
    db'.WellLinked ∧ db.workflows.get? 50 = some w ∧ db'.workflows.get? 50 = some w' ∧
    w.Kept w' := by
  obtain ⟨db, db', w, hbefore, hlater, hw⟩ : ∃ db db' w,
      run (interleavedStep ⟨3, 1, by decide, false⟩) sampleDb (((sampleTransfer 50 1 3 .archive
        10).take 2 ++ [Act.promoteControllerEpoch 20]).map .inr) = some db ∧
      run (interleavedStep ⟨3, 1, by decide, false⟩) db [.inl (.adoptSnapshot 50 30)] = some db' ∧
      db.workflows.get? 50 = some w := ⟨_, _, _, rfl, rfl, rfl⟩
  obtain ⟨hlinked, hkept⟩ := interleaved_workflows_kept sampleDb_registered.toFresh hbefore hlater
  obtain ⟨w', hw'⟩ := hkept 50 w hw
  exact ⟨db, db', w, w', hbefore, hlater, hlinked, hw, hw'⟩

end

end StControl.Controller
