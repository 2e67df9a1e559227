import StControl.Store.Frames

/-!
# What one step does

`Committed db act db'` lists, once and for all, what a committed transaction can have done to the
facts that the properties of whole runs are about: it stayed within the frame, it only wrote nodes
and retirements, it only rewrote the lease of a session, or it was one of the decisive
transactions, and then its guards held and the tables are what its statements make of them.
`step_committed` proves that the list is complete.

From it follow the summaries for the single facts.  A step keeps every workflow and creates at
most one (`Committed.workflows`), at most one workflow is live (`Committed.oneLive`); a step
continues every resolution and every restore and creates at most one (`Committed.resolutions`,
`Committed.restores`); it rewrites the lease in one of the ways of `LeaseChange`
(`Committed.lease`) and the home in one of the ways of `HomeChange` (`Committed.home`).  That
every resolution and every restore belongs to a workflow of its own type is an invariant of all
steps (`Db.ResolutionsLinked`, `Db.RestoresLinked`).
-/

namespace StControl.Store

open Transaction Option Table

variable {db db' : Db} {act : Act}
variable {id : UUID} {p : CompleteConflictResolutionParams} {node : NodeID}

/-! ## The lease under the session transactions -/

variable {requests : NodeID → Prop} {reports : Prop} {rebases : ActivityLease → NodeID → Prop}
  {now : Time} {conflictID : UUID} {w : Workflow}

lemma consumeLoginHandoff_lease {p : ConsumeLoginHandoffParams} (hreport : reports) :
    Ensures (consumeLoginHandoff p db) fun db' =>
      LeaseChange p.now requests reports rebases db.lease db'.lease := by
  simp only [consumeLoginHandoff, ensures_steps]
  rintro - ticket - - - node - - - account - - lease hlease ⟨-, hactive, -⟩
  rw [hlease]
  exact .touched hreport ⟨rfl, rfl, rfl⟩ hactive hactive

lemma reconcileProtectionStates_row :
    Ensures (reconcileProtectionStates now conflictID db) fun db' =>
      db'.lease = db.lease ∨ db'.lease = updateLease db.lease (fun l => l.state ≠ .conflict)
        fun l => { l with state := .conflict, leaseExpiresAt := now } := by
  simp only [reconcileProtectionStates, ensures_require_bind]
  intro _
  split
  · rw [ensures_pure]
    exact .inl rfl
  · rw [ensures_ite, ensures_pure, ensures_pure]
    exact ⟨fun _ => .inr rfl, fun _ => .inl rfl⟩

lemma reconcileProtectionStates_lease :
    Ensures (reconcileProtectionStates now conflictID db) fun db' =>
      LeaseChange now requests reports rebases db.lease db'.lease := by
  refine reconcileProtectionStates_row.mono fun db' hrow => ?_
  obtain hsame | hfrozen := hrow
  · rw [hsame]
    exact .unchanged _
  · rw [hfrozen]
    exact updateLease_closed fun _ => ⟨⟨rfl, rfl, rfl⟩, rfl, rfl, id⟩

lemma reconcileProtectionStates_held :
    Ensures (reconcileProtectionStates now conflictID db) fun db' =>
      ∀ l, db'.lease = some l → l.state.holding → db.lease = some l := by
  refine reconcileProtectionStates_row.mono fun db' hrow l hl hholds => ?_
  obtain hsame | hfrozen := hrow
  · exact hsame ▸ hl
  · exact updateLease_held (fun _ => rfl) (hfrozen ▸ hl) hholds

lemma session_lease (hact : act.session) : Ensures (act.transaction db) fun db' =>
      ∃ now, act.leaseTime = some now ∧
        LeaseChange now act.requests (act.session) rebases db.lease db'.lease := by
  have hactive : ∀ (f : LeaseFence) (l : ActivityLease),
      (l.matchesFence f && decide (l.state = .active)) → l.state = .active := by
    intro f l h
    simpa using (Bool.and_eq_true_iff.mp h).2
  cases act with
  | createLoginHandoff p =>
    refine ensures_map.mpr (createLoginHandoff_commit.mono ?_)
    rintro r (⟨-, hr⟩ | ⟨generation, lease, outcome, node, hdecision, -, -, -, hr⟩)
    · exact ⟨p.now, rfl, by rw [hr]; exact .unchanged _⟩
    · exact ⟨p.now, rfl, by rw [hr]; exact decideLease_change ⟨p, rfl, rfl⟩ hdecision.decided⟩
  | consumeLoginHandoff p => exact (consumeLoginHandoff_lease rfl).mono fun _ h => ⟨p.now, rfl, h⟩
  | renewActivityLease fence now ttl =>
    refine ensures_require_bind.mpr fun _ => ensures_pure.mpr ⟨now, rfl, ?_⟩
    exact updateLease_touched rfl (hactive fence) (fun _ => ⟨rfl, rfl, rfl⟩) fun _ => rfl
  | updateActivityLeaseTelemetry p =>
    refine ensures_require_bind.mpr fun _ => ensures_pure.mpr ⟨p.now, rfl, ?_⟩
    exact updateLease_touched rfl (hactive p.fence) (fun _ => ⟨rfl, rfl, rfl⟩) fun _ => rfl
  | endActivityLease fence now =>
    refine ensures_pure.mpr ⟨now, rfl, ?_⟩
    exact updateLease_closed fun _ => ⟨⟨rfl, rfl, rfl⟩, rfl, rfl, id⟩
  | reconcileProtectionStates now conflictID =>
    exact reconcileProtectionStates_lease.mono fun _ h => ⟨now, rfl, h⟩
  | _ => cases hact

/-! ## The list of all steps -/

/-- A resolution with base `n` is about to be published for the epoch of the lease. -/
def Db.resolves (db : Db) (l : ActivityLease) (n : NodeID) : Prop :=
  ∃ id o w, db.resolutions.get? id = some o ∧ o.baseNodeID = n ∧
    db.workflows.get? o.workflowID = some w ∧ w.state = .publishing ∧
    w.activityEpoch = l.activityEpoch

def Act.resolves (act : Act) (db : Db) (l : ActivityLease) (n : NodeID) : Prop :=
  (∃ p, act = .completeConflictResolution p) ∧ db.resolves l n

inductive Committed (db : Db) : Act → Db → Prop
  | frame {act : Act} {db' : Db} (h : Frame db db') : Committed db act db'
  | lifecycle {act : Act} {db' : Db} (isLifecycle : act.lifecycle) (h : LeaseFrame db db') :
      Committed db act db'
  | session {act : Act} {db' : Db} {now : Time} (isSession : act.session)
      (time : act.leaseTime = some now) (h : SessionFrame db db')
      (lease : LeaseChange now act.requests (act.session) (act.resolves db) db.lease
        db'.lease) :
      Committed db act db'
  | takeover {p : ConfirmReplicaTakeoverParams} {source : NodeID} {point : RecoveryPoint}
      {generation : ℤ} (h : TakeoverCommit p db source point generation) :
      Committed db (.confirmReplicaTakeover p) (promoteStandby p source point generation db)
  | faultReported {p : ReportUserDataFaultParams} {home : NodeID} {generation : ℤ}
      (isHome : db.user.homeNodeID = some home) :
      Committed db (.reportUserDataFault p) (closeFaultyHome p home generation db)
  | snapshotCreated {p : CreateSnapshotWorkflowParams} {generation : ℤ}
      {accounts : Table NodeID NodeAccount} (h : SnapshotCommit p db generation accounts) :
      Committed db (.createSnapshotWorkflow p) (insertSnapshotWorkflow p generation accounts db)
  | repairCreated {p : CreateStorageRepairParams} {generation : ℤ}
      (h : RepairCommit p db generation) :
      Committed db (.claimAndCreateStorageRepair p)
        (insertSnapshotWorkflow p.snapshotParams generation db.accounts { db with
            jobs := db.jobs.put p.jobID
              { srcNodeID := p.sourceNodeID, dstNodeID := p.targetNodeID, status := .pending
                workflowID := none } })
  | restoreCreated {p : CreateRestoreWorkflowParams} {home : NodeID} {archive : RecoveryPoint}
      {manifest : SnapshotManifest} {generation : ℤ} {accounts : Table NodeID NodeAccount}
      (h : RestoreCreation p db home archive manifest generation accounts) :
      Committed db (.createRestoreWorkflow p)
        (insertRestoreWorkflow p archive manifest.activityEpoch generation accounts db)
  | restored {p : CompleteRestoreWorkflowParams} {w : Workflow} {operationID : UUID}
      {operation : RestoreOperation} {home : NodeID}
      (h : RestoreCommit p db w operationID operation home) :
      Committed db (.completeRestoreWorkflow p) (promoteRestored p operationID operation home db)
  | migrated {itemID workflowID : UUID} {now : Time} {item : RetirementItem}
      {operation : NodeRetirement} {w : Workflow} {target : NodeID}
      (h : MigrationCommit itemID workflowID now db item operation w target) :
      Committed db (.completeNodeRetirementHomeMigration itemID workflowID now)
        (migrateHome itemID operation.nodeID target now db)
  | resolutionCreated {p : CreateConflictResolutionParams} {conflict : ReplicaConflict}
      {generation : ℤ} (h : ResolutionCreation p db conflict generation) :
      Committed db (.createConflictResolution p)
        (insertConflictResolution p conflict generation db)
  | resolved {p : CompleteConflictResolutionParams} {w : Workflow}
      {operation : ResolutionOperation} (h : ResolutionCommit p db w operation) :
      Committed db (.completeConflictResolution p) (resolveConflict p w operation db)
  | restarted {operationID : UUID} {operation : ResolutionOperation} {w : Workflow}
      {conflict : ReplicaConflict} {manifest : SnapshotManifest} {generation : ℤ}
      (h : RestartCommit operationID db operation w) :
      Committed db (.restartConflictResolution operationID)
        (reviveResolution operation w conflict manifest generation db)
  | imported {nodeID : NodeID} {handle : String} {relink : Bool} {now : Time}
      {account : NodeAccount} (alone : db.otherData nodeID = false) :
      Committed db (.linkImportCandidate nodeID handle relink now)
        (linkAccount nodeID (db.chosenHome nodeID) account now db)
  | importFrozen {nodeID : NodeID} {handle : String} {relink : Bool} {now : Time}
      {account : NodeAccount} :
      Committed db (.linkImportCandidate nodeID handle relink now)
        (freezeImportedReplicas (db.chosenHome nodeID) now
          (linkAccount nodeID (db.chosenHome nodeID) account now db))
  | homeClaimed {nodeID : NodeID} {handle : String} {now : Time} {account : NodeAccount}
      (fresh : db.accounts.get? nodeID = none) (homeless : db.user.homeNodeID = none) :
      Committed db (.completeAccountImportClaim nodeID handle now)
        (linkAccount nodeID nodeID account now db)
  | claimed {nodeID : NodeID} {handle : String} {now : Time} {account : NodeAccount}
      (fresh : db.accounts.get? nodeID = none) (hasHome : db.user.homeNodeID.isSome) :
      Committed db (.completeAccountImportClaim nodeID handle now)
        (claimAccount nodeID account now db)
  | cleaned {taskID : UUID} {task : CleanupTask} (notHome : db.user.homeNodeID ≠ some task.nodeID) :
      Committed db (.completeReplicaCleanup taskID) (deleteReplica taskID task db)

lemma Committed.of_eq (h : db' = db) : Committed db act db' := .frame (h ▸ Frame.refl db)

/-- **The list is complete.** -/
theorem step_committed (h : step db act = some db') : Committed db act db' := by
  have hcommit := step_eq_some.mp h
  by_cases hback : act.background
  · exact .frame (background_frame hback db' hcommit)
  by_cases hlife : act.lifecycle
  · exact .lifecycle hlife (lifecycle_frame hlife db' hcommit)
  by_cases hsession : act.session
  · obtain ⟨now, htime, hlease⟩ := session_lease hsession db' hcommit
    exact .session hsession htime (session_frame hsession db' hcommit) hlease
  cases act with
  | confirmReplicaTakeover p =>
    obtain heq | ⟨source, point, generation, hp, rfl⟩ := confirmReplicaTakeover_commit db' hcommit
    · exact .of_eq heq
    · exact .takeover hp
  | reportUserDataFault p =>
    obtain heq | ⟨home, generation, hhome, rfl⟩ := reportUserDataFault_commit db' hcommit
    · exact .of_eq heq
    · exact .faultReported hhome
  | createSnapshotWorkflow p =>
    obtain ⟨generation, accounts, hp, rfl⟩ := createSnapshotWorkflow_commit db' hcommit
    exact .snapshotCreated hp
  | claimAndCreateStorageRepair p =>
    obtain ⟨generation, hp, rfl⟩ := claimAndCreateStorageRepair_commit db' hcommit
    exact .repairCreated hp
  | createRestoreWorkflow p =>
    obtain heq | ⟨home, archive, manifest, generation, accounts, hp, rfl⟩ :=
      createRestoreWorkflow_commit db' hcommit
    · exact .of_eq heq
    · exact .restoreCreated hp
  | completeRestoreWorkflow p =>
    obtain ⟨heq, -⟩ | ⟨w, operationID, operation, home, hp, rfl⟩ :=
      completeRestoreWorkflow_commit db' hcommit
    · exact .of_eq heq
    · exact .restored hp
  | completeNodeRetirementHomeMigration itemID workflowID now =>
    obtain ⟨heq, -⟩ | ⟨item, operation, w, target, hp, rfl⟩ :=
      completeNodeRetirementHomeMigration_commit db' hcommit
    · exact .of_eq heq
    · exact .migrated hp
  | createConflictResolution p =>
    obtain heq | ⟨conflict, generation, hp, rfl⟩ := createConflictResolution_commit db' hcommit
    · exact .of_eq heq
    · exact .resolutionCreated hp
  | completeConflictResolution p =>
    obtain heq | ⟨w, operation, hp, rfl⟩ := completeConflictResolution_commit db' hcommit
    · exact .of_eq heq
    · exact .resolved hp
  | restartConflictResolution operationID =>
    obtain ⟨operation, w, conflict, manifest, generation, hp, rfl⟩ :=
      restartConflictResolution_commit db' hcommit
    exact .restarted hp
  | linkImportCandidate nodeID handle relink now =>
    obtain ⟨account, ⟨-, rfl⟩ | ⟨halone, rfl⟩⟩ := linkImportCandidate_commit db' hcommit
    · exact .importFrozen
    · exact .imported halone
  | completeAccountImportClaim nodeID handle now =>
    obtain ⟨account, hfresh, ⟨hhome, rfl⟩ | ⟨hhome, rfl⟩⟩ :=
      completeAccountImportClaim_commit db' hcommit
    · exact .homeClaimed hfresh hhome
    · exact .claimed hfresh hhome
  | completeReplicaCleanup taskID =>
    obtain ⟨task, heq | rfl | ⟨hhome, rfl⟩⟩ := completeReplicaCleanup_commit db' hcommit
    · exact .of_eq heq
    · exact .frame { Frame.refl db with }
    · exact .cleaned hhome
  | _ => first | exact absurd rfl hback | exact absurd rfl hlife | exact absurd rfl hsession

/-! ## Workflows -/

inductive WorkflowCreated (db : Db) : Act → UUID → Workflow → Prop
  | snapshot {p : CreateSnapshotWorkflowParams} {generation : ℤ}
      {accounts : Table NodeID NodeAccount} (h : SnapshotCommit p db generation accounts) :
      WorkflowCreated db (.createSnapshotWorkflow p) p.workflowID
        (newWorkflow p.operationID .snapshot p.request.mode p.sourceNodeID p.targetNodeID
          db.leaseEpoch generation p.relay)
  | repair {p : CreateStorageRepairParams} {generation : ℤ} (h : RepairCommit p db generation) :
      WorkflowCreated db (.claimAndCreateStorageRepair p) p.workflowID
        (newWorkflow p.operationID .snapshot .ordinary p.sourceNodeID p.targetNodeID
          db.leaseEpoch generation p.relay)
  | restore {p : CreateRestoreWorkflowParams} {home : NodeID} {archive : RecoveryPoint}
      {manifest : SnapshotManifest} {generation : ℤ} {accounts : Table NodeID NodeAccount}
      (h : RestoreCreation p db home archive manifest generation accounts) :
      WorkflowCreated db (.createRestoreWorkflow p) p.workflowID
        (newWorkflow p.operationID .restore .ordinary archive.nodeID p.targetNodeID
          manifest.activityEpoch generation)
  | resolution {p : CreateConflictResolutionParams} {conflict : ReplicaConflict} {generation : ℤ}
      (h : ResolutionCreation p db conflict generation) :
      WorkflowCreated db (.createConflictResolution p) p.workflowID
        (newWorkflow p.operationID .conflictResolution .ordinary p.baseNodeID p.baseNodeID
          db.leaseEpoch generation)

lemma WorkflowCreated.accepted (h : WorkflowCreated db act id w) :
    db.workflows.get? id = none ∧ db.liveWorkflow = false := by
  have haccepts : ∃ operationID, db.acceptsWorkflow id operationID := by
    cases h with
    | snapshot h | repair h | restore h | resolution h => exact ⟨_, h.accepts⟩
  obtain ⟨operationID, haccepts⟩ := haccepts
  simp only [Db.acceptsWorkflow, Bool.and_eq_true, Bool.not_eq_true',
    isNone_iff_eq_none]
    at haccepts
  exact ⟨haccepts.1.1, haccepts.2⟩

inductive WorkflowStep (db : Db) (act : Act) (t' : Table UUID Workflow) : Prop
  | continued (h : WorkflowsContinue db.workflows t')
  | created (id : UUID) (w : Workflow) (h : WorkflowCreated db act id w)
      (table : t' = db.workflows.put id w)
  | restarted (operationID : UUID) (operation : ResolutionOperation) (w w' : Workflow)
      (h : RestartCommit operationID db operation w) (kept : w.Kept w')
      (table : t' = db.workflows.put operation.workflowID w')

abbrev WorkflowsKept (t t' : Table UUID Workflow) : Prop :=
  Rel (fun _ => Workflow.Kept) t t'

/-! ## One live workflow -/

def Db.OneLive (db : Db) : Prop :=
  ∀ id id' w w', db.workflows.get? id = some w → db.workflows.get? id' = some w' →
    w.state.live → w'.state.live → id = id'

lemma oneLive_put (hidle : db.liveWorkflow = false)
    (htable : db'.workflows = db.workflows.put id w) :
    db'.OneLive := by
  have honly : ∀ k v, db'.workflows.get? k = some v → v.state.live → k = id := by
    intro k v hv hlive
    rw [htable] at hv
    obtain ⟨hk, -⟩ | hv := of_get?_put hv
    · exact hk
    · simp [any_eq_false.mp hidle k v hv] at hlive
  intro k k' v v' hv hv' hlive hlive'
  rw [honly k v hv hlive, honly k' v' hv' hlive']

/-! ## Resolutions -/

def Db.ResolutionsLinked (db : Db) : Prop :=
  ∀ id o, db.resolutions.get? id = some o → ∃ w, db.workflows.get? o.workflowID = some w ∧
    w.workflowType = .conflictResolution ∧ w.targetNodeID = o.baseNodeID

lemma ResolutionsContinue.refl (t : Table UUID ResolutionOperation) : ResolutionsContinue t t :=
  Table.Rel.refl (fun _ => ResolutionOperation.Continues.refl) t

/-! ## Restores -/

def Db.RestoresLinked (db : Db) : Prop :=
  ∀ id o, db.restores.get? id = some o → ∃ w, db.workflows.get? o.workflowID = some w ∧
    w.workflowType = .restore

lemma RestoresContinue.refl (t : Table UUID RestoreOperation) : RestoresContinue t t :=
  Table.Rel.refl (fun _ => RestoreOperation.Continues.refl) t

structure Db.WellLinked (db : Db) : Prop where
  oneLive : db.OneLive
  resolutions : db.ResolutionsLinked
  restores : db.RestoresLinked

/-! ## The lease and the home -/

lemma resolveConflict_lease {operation : ResolutionOperation}
    (h : ResolutionCommit p db w operation) :
    LeaseChange p.now requests reports (Act.resolves (.completeConflictResolution p) db) db.lease
      (resolveConflict p w operation db).lease := by
  unfold resolveConflict updateLease
  cases db.lease with
  | none => exact .unchanged _
  | some l =>
    by_cases hepoch : l.activityEpoch = w.activityEpoch
    · simp only [map_some, hepoch, decide_true, if_true]
      refine .rebased ⟨⟨p, rfl⟩, p.operationID, operation, w, h.hasOperation, rfl, ?_, h.publishing,
        hepoch.symm⟩ rfl rfl rfl
      rw [h.linked, h.workflow]
    · simpa [hepoch] using LeaseChange.unchanged _

inductive HomeChange (db : Db) : Act → Option NodeID → Prop
  | kept {act : Act} : HomeChange db act db.user.homeNodeID
  | founded {act : Act} {home : NodeID} (homeless : db.user.homeNodeID = none) :
      HomeChange db act (some home)
  | takenOver {p : ConfirmReplicaTakeoverParams} {source : NodeID} {point : RecoveryPoint}
      {generation : ℤ} (h : TakeoverCommit p db source point generation) :
      HomeChange db (.confirmReplicaTakeover p) (some p.targetNodeID)
  | restored {p : CompleteRestoreWorkflowParams} {w : Workflow} {operationID : UUID}
      {operation : RestoreOperation} {home : NodeID}
      (h : RestoreCommit p db w operationID operation home) :
      HomeChange db (.completeRestoreWorkflow p) (some operation.targetNodeID)
  | migrated {itemID workflowID : UUID} {now : Time} {item : RetirementItem}
      {operation : NodeRetirement} {w : Workflow} {target : NodeID}
      (h : MigrationCommit itemID workflowID now db item operation w target) :
      HomeChange db (.completeNodeRetirementHomeMigration itemID workflowID now) (some target)
  | resolved {p : CompleteConflictResolutionParams} {w : Workflow}
      {operation : ResolutionOperation} (h : ResolutionCommit p db w operation) :
      HomeChange db (.completeConflictResolution p) (some operation.baseNodeID)

lemma Db.chosenHome_eq {nodeID home : NodeID} (h : db.user.homeNodeID = some home) :
    db.chosenHome nodeID = home := by
  rw [Db.chosenHome, h, getD_some]

lemma chosenHome_change (act : Act) (nodeID : NodeID) :
    HomeChange db act (some (db.chosenHome nodeID)) := by
  cases hhome : db.user.homeNodeID with
  | none => exact .founded hhome
  | some home =>
    rw [Db.chosenHome_eq hhome, ← hhome]
    exact .kept

/-! ## What a step does -/

namespace Committed

variable (h : Committed db act db')
include h

lemma workflowStep : WorkflowStep db act db'.workflows := by
  cases h with
  | frame h | lifecycle _ h | session _ _ h _ => exact .continued h.workflows
  | snapshotCreated h => exact .created _ _ (.snapshot h) rfl
  | repairCreated h => exact .created _ _ (.repair h) rfl
  | restoreCreated h => exact .created _ _ (.restore h) rfl
  | resolutionCreated h => exact .created _ _ (.resolution h) rfl
  | @restored p w _ _ _ h =>
    have hlive : w.state.live := by rw [h.publishing]; rfl
    exact .continued (workflowsContinue_modify h.workflow (.moved hlive (by omega) (.inl rfl)))
  | @resolved p w _ h =>
    have hlive : w.state.live := by rw [h.publishing]; rfl
    exact .continued (workflowsContinue_put h.workflow (.moved hlive (by omega) (.inl rfl)))
  | @restarted operationID operation w _ _ _ h =>
    refine .restarted operationID operation w _ h ?_ rfl
    refine ⟨rfl, rfl, rfl, rfl, rfl, rfl, fun hs => ?_, fun _ => rfl⟩
    simp [h.failed] at hs
  | takeover | faultReported | migrated | imported | importFrozen | homeClaimed | claimed
  | cleaned => exact .continued (.refl _)

/-- **What a step does to the workflows.** -/
theorem workflows : WorkflowsKept db.workflows db'.workflows ∨
      ∃ id w, WorkflowCreated db act id w ∧ db'.workflows = db.workflows.put id w := by
  rcases h.workflowStep with hcontinue | ⟨id, w, hcreated, htable⟩ |
    ⟨_, _, w, w', hp, hkept, htable⟩
  · exact .inl (hcontinue.mono fun _ _ _ => Workflow.Continues.toKept)
  · exact .inr ⟨id, w, hcreated, htable⟩
  · rw [htable]
    exact .inl (rel_put (fun _ w => (Workflow.Continues.refl w).toKept) hp.workflow hkept)

lemma workflow_kept (hw : db.workflows.get? id = some w) :
    ∃ w', db'.workflows.get? id = some w' ∧ w.Kept w' := by
  rcases h.workflows with hkept | ⟨id', w', hcreated, htable⟩
  · exact hkept.after hw
  · have hne : id ≠ id' := by
      rintro rfl
      simp [hcreated.accepted.1] at hw
    exact ⟨w, by rw [htable, get?_put_of_ne hne, hw], (Workflow.Continues.refl w).toKept⟩

lemma oneLive (hone : db.OneLive) : db'.OneLive := by
  rcases h.workflowStep with hcontinue | ⟨id, w, hcreated, htable⟩ | ⟨_, _, w, w', hp, -, htable⟩
  · intro id id' w w' hw hw' hlive hlive'
    obtain ⟨v, hv, hvw⟩ := hcontinue.before hw
    obtain ⟨v', hv', hvw'⟩ := hcontinue.before hw'
    exact hone id id' v v' hv hv' (hvw.live hlive) (hvw'.live hlive')
  · exact oneLive_put hcreated.accepted.2 htable
  · exact oneLive_put hp.idle htable

/-- **What a step does to the resolutions.** -/
theorem resolutions :
    ResolutionsContinue db.resolutions db'.resolutions ∨
      ∃ p conflict generation, ResolutionCreation p db conflict generation ∧
        db' = insertConflictResolution p conflict generation db := by
  cases h with
  | frame h | lifecycle _ h | session _ _ h _ => exact .inl h.resolutions
  | resolutionCreated h => exact .inr ⟨_, _, _, h, rfl⟩
  | resolved h =>
    exact .inl (rel_put (fun _ => ResolutionOperation.Continues.refl) h.hasOperation ⟨rfl, rfl⟩)
  | takeover | faultReported | snapshotCreated | repairCreated | restoreCreated | restored
  | migrated | restarted | imported | importFrozen | homeClaimed | claimed | cleaned =>
    exact .inl (.refl _)

lemma resolutionsLinked (hlinked : db.ResolutionsLinked) : db'.ResolutionsLinked := by
  -- an old resolution keeps its workflow, a new one comes with it
  have hold : ∀ id o, db.resolutions.get? id = some o → ∃ w',
      db'.workflows.get? o.workflowID = some w' ∧ w'.workflowType = .conflictResolution ∧
        w'.targetNodeID = o.baseNodeID := by
    intro id o ho
    obtain ⟨w, hw, htype, htarget⟩ := hlinked id o ho
    obtain ⟨w', hw', hkept⟩ := h.workflow_kept hw
    exact ⟨w', hw', hkept.type.trans htype, hkept.target.trans htarget⟩
  intro id o' ho'
  rcases h.resolutions with hr | ⟨p, conflict, generation, hp, rfl⟩
  · obtain ⟨o, ho, hoo'⟩ := hr.before ho'
    rw [hoo'.workflow, hoo'.base]
    exact hold id o ho
  · refine forall_put hold ?_ id o' ho'
    exact ⟨_, get?_put_self .., rfl, rfl⟩

/-- **What a step does to the restores.** -/
theorem restores : RestoresContinue db.restores db'.restores ∨
      ∃ p home archive manifest generation accounts,
        RestoreCreation p db home archive manifest generation accounts ∧
        db' = insertRestoreWorkflow p archive manifest.activityEpoch generation accounts db := by
  cases h with
  | frame h | lifecycle _ h | session _ _ h _ => exact .inl h.restores
  | restoreCreated h => exact .inr ⟨_, _, _, _, _, _, h, rfl⟩
  | restored h =>
    have hrow := (of_find?_eq_some h.ofWorkflow).1
    exact .inl (rel_put (fun _ => RestoreOperation.Continues.refl) hrow ⟨rfl, rfl, rfl, rfl, rfl⟩)
  | takeover | faultReported | snapshotCreated | repairCreated | resolutionCreated | resolved
  | migrated | restarted | imported | importFrozen | homeClaimed | claimed | cleaned =>
    exact .inl (.refl _)

lemma restoresLinked (hlinked : db.RestoresLinked) : db'.RestoresLinked := by
  have hold : ∀ id o, db.restores.get? id = some o → ∃ w',
      db'.workflows.get? o.workflowID = some w' ∧ w'.workflowType = .restore := by
    intro id o ho
    obtain ⟨w, hw, htype⟩ := hlinked id o ho
    obtain ⟨w', hw', hkept⟩ := h.workflow_kept hw
    exact ⟨w', hw', hkept.type.trans htype⟩
  intro id o' ho'
  rcases h.restores with hr | ⟨p, home, archive, manifest, generation, accounts, hp, rfl⟩
  · obtain ⟨o, ho, hoo'⟩ := hr.before ho'
    rw [hoo'.workflow]
    exact hold id o ho
  · refine forall_put hold ?_ id o' ho'
    exact ⟨_, get?_put_self .., rfl⟩

lemma wellLinked (hlinked : db.WellLinked) : db'.WellLinked where
  oneLive := h.oneLive hlinked.oneLive
  resolutions := h.resolutionsLinked hlinked.resolutions
  restores := h.restoresLinked hlinked.restores

lemma live_before (hlinked : db.ResolutionsLinked) {w' : Workflow}
    (hw : db.workflows.get? id = some w) (htype : w.workflowType ≠ .conflictResolution)
    (hw' : db'.workflows.get? id = some w') (hlive : w'.state.live) : w.state.live := by
  rcases h.workflowStep with hcontinue | ⟨k, v, hcreated, htable⟩ | ⟨k, o, v, v', hp, -, htable⟩
  · obtain ⟨u, hu, huw'⟩ := hcontinue.before hw'
    rw [hw] at hu
    exact some.inj hu ▸ huw'.live hlive
  · have hne : id ≠ k := by
      rintro rfl
      simp [hcreated.accepted.1] at hw
    rw [htable, get?_put_of_ne hne, hw] at hw'
    exact some.inj hw' ▸ hlive
  · have hne : id ≠ o.workflowID := by
      rintro rfl
      obtain ⟨u, hu, hresolution, -⟩ := hlinked k o hp.hasOperation
      rw [hw] at hu
      exact htype (some.inj hu ▸ hresolution)
    rw [htable, get?_put_of_ne hne, hw] at hw'
    exact some.inj hw' ▸ hlive

/-- **What a step does to the lease.**  A transaction without a lease time leaves the row alone. -/
theorem lease : db'.lease = db.lease ∨
      ∃ now, act.leaseTime = some now ∧
        LeaseChange now act.requests (act.session = true) (act.resolves db) db.lease db'.lease := by
  cases h with
  | frame h | lifecycle _ h => exact .inl h.lease
  | @session act db' now _ time _ lease => exact .inr ⟨now, time, lease⟩
  | @takeover p =>
    exact .inr ⟨p.now, rfl, map_closed fun _ => ⟨⟨rfl, rfl, rfl⟩, rfl, rfl, id⟩⟩
  | @faultReported p =>
    exact .inr ⟨p.now, rfl, updateLease_closed fun _ => ⟨⟨rfl, rfl, rfl⟩, rfl, rfl, fun _ => rfl⟩⟩
  | @snapshotCreated p =>
    refine .inr ⟨p.now, rfl, ?_⟩
    dsimp only [insertSnapshotWorkflow]
    cases p.request with
    | ordinary | retirement => exact .unchanged _
    | independent => exact map_closed fun _ => ⟨⟨rfl, rfl, rfl⟩, rfl, rfl, fun _ => rfl⟩
  | @restored p => exact .inr ⟨p.now, rfl, map_closed fun _ => ⟨⟨rfl, rfl, rfl⟩, rfl, rfl, id⟩⟩
  | @migrated itemID workflowID now =>
    exact .inr ⟨now, rfl, map_closed fun _ => ⟨⟨rfl, rfl, rfl⟩, rfl, rfl, id⟩⟩
  | @resolved p _ _ h => exact .inr ⟨p.now, rfl, resolveConflict_lease h⟩
  | @importFrozen nodeID handle relink now =>
    exact .inr ⟨now, rfl, updateLease_closed fun _ => ⟨⟨rfl, rfl, rfl⟩, rfl, rfl, id⟩⟩
  | repairCreated | restoreCreated | resolutionCreated | restarted | imported | homeClaimed
  | claimed | cleaned => exact .inl rfl

lemma lease_held (hsession : act.session = false) {l : ActivityLease} (hl : db'.lease = some l)
    (hholds : l.state.holding) : db.lease = some l := by
  rcases h.lease with hsame | ⟨now, -, hchange⟩
  · exact hsame ▸ hl
  have hlogin : ∀ n, ¬ act.requests n := by
    rintro n ⟨p, rfl, -⟩
    cases hsession
  rw [hl] at hchange
  generalize db.lease = o at hchange ⊢
  cases hchange with
  | unchanged => rfl
  | touched report =>
    simp [hsession] at report
  | closed closes =>
    simp [closes.after] at hholds
  | renewed requested | acquired requested => exact absurd requested (hlogin _)
  | rebased _ _ _ after =>
    rw [after] at hholds
    cases hholds

/-- **What a step does to the home.** -/
theorem home : HomeChange db act db'.user.homeNodeID := by
  cases h with
  | frame h | lifecycle _ h | session _ _ h _ => exact h.home ▸ .kept
  | takeover h => exact .takenOver h
  | restored h => exact .restored h
  | migrated h => exact .migrated h
  | resolved h => exact .resolved h
  | imported | importFrozen => exact chosenHome_change _ _
  | homeClaimed _ homeless => exact .founded homeless
  | faultReported | snapshotCreated | repairCreated | restoreCreated | resolutionCreated
  | restarted | claimed | cleaned => exact .kept

end Committed

/-! ## What holds in every run -/

lemma Fresh.wellLinked (h : Fresh db) : db.WellLinked where
  oneLive := by
    intro id id' w w' hw
    simp [h.workflows, get?_empty] at hw
  resolutions := by
    intro id o ho
    simp [h.resolutions, get?_empty] at ho
  restores := by
    intro id o ho
    simp [h.restores, get?_empty] at ho

/-- **Operations and workflows belong together, in every run.** -/
theorem run_wellLinked {acts : List Act} (hlinked : db.WellLinked)
    (hrun : Run.run step db acts = some db') : db'.WellLinked :=
  Run.run_invariant (P := Db.WellLinked)
    (fun _ _ _ hlinked hstep => (step_committed hstep).wellLinked hlinked) hlinked hrun

section

variable (hlinked : db.WellLinked) (hw : db.workflows.get? id = some w) (hlive : w.state.live)
  {v : Workflow}
include hlinked hw hlive

lemma no_restore_of_live (htype : w.workflowType ≠ .restore) {p : CompleteRestoreWorkflowParams}
    {operationID : UUID} {o : RestoreOperation} {home : NodeID}
    (h : RestoreCommit p db v operationID o home) : False := by
  have hvlive : v.state.live := by rw [h.publishing]; rfl
  have hsame := hlinked.oneLive _ _ w v hw h.workflow hlive hvlive
  obtain ⟨hrow, hworkflow⟩ := of_find?_eq_some h.ofWorkflow
  obtain ⟨u, hu, hrestore⟩ := hlinked.restores operationID o hrow
  rw [of_decide_eq_true hworkflow, ← hsame, hw] at hu
  exact htype (some.inj hu ▸ hrestore)

lemma no_resolution_of_live (htype : w.workflowType ≠ .conflictResolution) {o : ResolutionOperation}
    (h : ResolutionCommit p db v o) : False := by
  have hvlive : v.state.live := by rw [h.publishing]; rfl
  have hsame := hlinked.oneLive _ _ w v hw h.workflow hlive hvlive
  obtain ⟨u, hu, hresolution, -⟩ := hlinked.resolutions _ o h.hasOperation
  rw [h.linked, ← hsame, hw] at hu
  exact htype (some.inj hu ▸ hresolution)

end

lemma recoveryPoint_serving {kind : CopyKind} {role : NodeRole} {point : RecoveryPoint}
    (h : db.recoveryPoint kind role node = some point) :
    ∃ n, db.nodes.get? node = some n ∧ n.serving := by
  simp only [Db.recoveryPoint, bind_eq_bind, bind_eq_some_iff] at h
  obtain ⟨n, hn, copy, -, snapshot, -, published, -, manifest, -, h⟩ := h
  split at h
  next hcond =>
    simp only [Bool.and_eq_true] at hcond
    exact ⟨n, hn, hcond.1.1.1.1.2⟩
  · cases h

lemma HomeChange.serving (h : HomeChange db act (some node)) :
    db.user.homeNodeID = some node ∨ db.user.homeNodeID = none ∨
      (∃ n, db.nodes.get? node = some n ∧ n.serving) ∨
      ∃ p w operation, act = .completeConflictResolution p ∧ ResolutionCommit p db w operation ∧
        operation.baseNodeID = node := by
  generalize hhome : some node = o at h
  cases h with
  | kept => exact .inl rfl
  | founded homeless => exact .inr (.inl homeless)
  | takenOver h =>
    cases hhome
    exact .inr (.inr (.inl (recoveryPoint_serving h.hasPoint)))
  | restored h =>
    cases hhome
    exact .inr (.inr (.inl h.serving))
  | migrated h =>
    cases hhome
    have hready := h.ready
    simp only [Db.migrationReady, Bool.and_eq_true, any_eq_true] at hready
    obtain ⟨-, n, hn, ⟨-, hserving⟩, -⟩ := hready
    exact .inr (.inr (.inl ⟨n, hn, hserving⟩))
  | @resolved p w operation h =>
    cases hhome
    exact .inr (.inr (.inr ⟨p, w, operation, rfl, h, rfl⟩))

end StControl.Store
