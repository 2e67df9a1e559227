import StControl.Store.Transitions
import StControl.Store.Writes

/-!
# Live snapshot workflows

A snapshot workflow ends by one of seven transactions: it completes, fails or is cancelled, a
recovery gives it up because its job was aborted, the job itself is aborted, or a report about
writes in independent mode cancels it.  `liveKept_of_act` says that all the other transactions leave
every live snapshot workflow live.  The one transaction that takes the next state from the row
itself is the end of a wait, so it is also shown that what a row resumes in is live
(`resumesLive_kept`). -/

namespace StControl.Store

open Transaction Run Option Table Act

variable {db db' : Db} {act : Act}
variable {id operationID : UUID}

/-! ## Where a workflow resumes -/

def ResumesLive (t : Table UUID Workflow) : Prop :=
  ∀ id w, t.get? id = some w → w.resumeState.all (·.live)

variable {t : Table UUID Workflow} {w w' : Workflow} {p : UUID → Workflow → Bool}
  {f : Workflow → Workflow}

lemma ResumesLive.put (h : ResumesLive t) (hw : w.resumeState.all (·.live)) :
    ResumesLive (t.put id w) := by
  intro k v hv
  obtain ⟨-, rfl⟩ | hv := of_get?_put hv
  · exact hw
  · exact h k v hv

lemma resumesLive_kept (h : ResumesLive db.workflows) (hstep : step db act = some db') :
    ResumesLive db'.workflows := by
  rcases (step_committed hstep).workflows with hkept | ⟨id, w, hcreated, htable⟩
  · intro k v hv
    obtain ⟨w, hw, hlater⟩ := hkept.before hv
    exact hlater.resumes (h k w hw)
  · rw [htable]
    exact h.put (by cases hcreated <;> rfl)

/-! ## What stays live -/

lemma Workflow.progressRule_toState_live {toState fromState : WorkflowState} {actor : NodeID}
    (h : w.progressRule toState = some (fromState, actor)) : toState.live := by
  cases toState with
  | drained | snapshotting | transferring | verifying | publishing => rfl
  | _ => cases h

def LiveKept (t t' : Table UUID Workflow) : Prop :=
  ∀ id w, t.get? id = some w → w.workflowType = .snapshot → w.state.live →
    ∃ w', t'.get? id = some w' ∧ w'.state.live

lemma LiveKept.refl (t : Table UUID Workflow) : LiveKept t t := fun _ w hw _ hlive => ⟨w, hw, hlive⟩

lemma liveKept_put (h : ∀ w, t.get? id = some w → w.workflowType = .snapshot → w.state.live →
      w'.state.live) : LiveKept t (t.put id w') := by
  intro k v hv htype hlive
  rw [get?_put]
  split
  next hk => exact ⟨w', rfl, h v (hk ▸ hv) htype hlive⟩
  · exact ⟨v, hv, hlive⟩

lemma liveKept_put_same (hw : t.get? id = some w) (hstate : w'.state = w.state) :
    LiveKept t (t.put id w') := by
  refine liveKept_put fun v hv _ hlive => ?_
  rw [hw] at hv
  rwa [hstate, some.inj hv]

lemma liveKept_put_other (hw : t.get? id = some w) (htype : w.workflowType ≠ .snapshot) :
    LiveKept t (t.put id w') := by
  refine liveKept_put fun v hv hsnapshot _ => ?_
  rw [hw] at hv
  exact absurd (some.inj hv ▸ hsnapshot) htype

lemma liveKept_put_new (hnew : t.get? id = none) : LiveKept t (t.put id w') := by
  refine liveKept_put fun v hv _ _ => ?_
  simp [hnew] at hv

lemma liveKept_update (h : ∀ id w, t.get? id = some w → w.workflowType = .snapshot →
    p id w = false) :
    LiveKept t (t.update p f) := by
  intro k v hv htype hlive
  refine ⟨v, ?_, hlive⟩
  rw [get?_update, hv, map_some, h k v hv htype]
  rfl

lemma liveKept_update_other (hw : t.get? id = some w) (htype : w.workflowType ≠ .snapshot)
    (hp : ∀ k v, p k v → k = id) : LiveKept t (t.update p f) := by
  refine liveKept_update fun k v hv hsnapshot => ?_
  by_contra hmeets
  obtain rfl := hp k v ((Bool.not_eq_false _).mp hmeets)
  rw [hw] at hv
  exact htype (some.inj hv ▸ hsnapshot)

lemma restore_type (hlinked : db.RestoresLinked) {operation : RestoreOperation}
    (hw : db.workflows.get? id = some w)
    (hoperation : db.restoreOperation id = some (operationID, operation)) :
    w.workflowType ≠ .snapshot := by
  obtain ⟨hrow, hid⟩ := of_find?_eq_some hoperation
  obtain ⟨v, hv, htype⟩ := hlinked operationID operation hrow
  rw [of_decide_eq_true hid, hw] at hv
  rw [some.inj hv, htype]
  decide

lemma resolution_type (hlinked : db.ResolutionsLinked) {operation : ResolutionOperation}
    (hw : db.workflows.get? id = some w) (hrow : db.resolutions.get? operationID = some operation)
    (hid : operation.workflowID = id) : w.workflowType ≠ .snapshot := by
  obtain ⟨v, hv, htype, -⟩ := hlinked operationID operation hrow
  rw [hid, hw] at hv
  rw [some.inj hv, htype]
  decide

def Act.settlesBackups : Act → Bool
  | .resetRecoveredSnapshotWorkflow .. | .completeSnapshotWorkflow _ | .failSnapshotWorkflow ..
  | .cancelSnapshotWorkflow _ | .abortBackupJobAndSnapshotWorkflow _
  | .recordIndependentSyncFact .. | .settleIndependentConflicts => true
  | _ => false

lemma liveKept_of_act (hact : act.settlesBackups = false) (hlinked : db.WellLinked)
    (hresumes : ResumesLive db.workflows) :
    Ensures (act.transaction db) (fun db' => LiveKept db.workflows db'.workflows) := by
  by_cases hwrites : act.writesWorkflows = false
  · exact tables_kept.mono fun _ hkept => hkept.workflows hwrites ▸ .refl _
  cases act with
  | createSnapshotWorkflow p =>
    refine createSnapshotWorkflow_commit.mono ?_
    rintro db' ⟨_, _, hp, rfl⟩
    exact liveKept_put_new (WorkflowCreated.snapshot hp).accepted.1
  | claimAndCreateStorageRepair p =>
    refine claimAndCreateStorageRepair_commit.mono ?_
    rintro db' ⟨_, hp, rfl⟩
    exact liveKept_put_new (WorkflowCreated.repair hp).accepted.1
  | createRestoreWorkflow p =>
    refine createRestoreWorkflow_commit.mono ?_
    rintro db' (rfl | ⟨_, _, _, _, _, hp, rfl⟩)
    · exact .refl _
    · exact liveKept_put_new (WorkflowCreated.restore hp).accepted.1
  | createConflictResolution p =>
    refine createConflictResolution_commit.mono ?_
    rintro db' (rfl | ⟨_, _, hp, rfl⟩)
    · exact .refl _
    · exact liveKept_put_new (WorkflowCreated.resolution hp).accepted.1
  | completeRestoreWorkflow p =>
    refine completeRestoreWorkflow_commit.mono ?_
    rintro db' (⟨rfl, -⟩ | ⟨_, _, _, _, hp, rfl⟩)
    · exact .refl _
    · exact liveKept_update_other hp.workflow
        (restore_type hlinked.restores hp.workflow hp.ofWorkflow) fun k v hk =>
          of_decide_eq_true hk
  | completeConflictResolution p =>
    refine completeConflictResolution_commit.mono ?_
    rintro db' (rfl | ⟨w, _, hp, rfl⟩)
    · exact .refl _
    · exact liveKept_put_other hp.workflow
        (resolution_type hlinked.resolutions hp.workflow hp.hasOperation hp.linked)
  | failRestoreWorkflow =>
    simp only [transaction, failRestoreWorkflow, ensures_steps, ensures_ite]
    rintro w hw ⟨operationID, operation⟩ hoperation
    refine ⟨fun _ => .refl _, fun _ _ => ?_⟩
    exact liveKept_update_other hw (restore_type hlinked.restores hw hoperation) fun k v hk =>
      of_decide_eq_true (Bool.and_eq_true_iff.mp hk).1
  | failConflictResolution =>
    simp only [transaction, failConflictResolution, ensures_steps]
    rintro w hw ⟨operationID, operation⟩ hoperation -
    obtain ⟨hrow, hid⟩ := of_find?_eq_some hoperation
    exact liveKept_update_other hw
      (resolution_type hlinked.resolutions hw hrow (of_decide_eq_true hid)) fun k v hk =>
        of_decide_eq_true (Bool.and_eq_true_iff.mp hk).1
  | restartConflictResolution operationID =>
    refine restartConflictResolution_commit.mono ?_
    rintro db' ⟨_, _, _, _, _, -, rfl⟩
    exact liveKept_put fun _ _ _ _ => rfl
  | resumeSnapshotRetry =>
    simp only [transaction, resumeSnapshotRetry, ensures_steps]
    intro w hw _ resumed hresumed
    refine liveKept_put fun _ _ _ _ => ?_
    have hlive := hresumes _ w hw
    rwa [hresumed] at hlive
  | setSnapshotWorkflowProgress =>
    simp only [transaction, setSnapshotWorkflowProgress, ensures_steps, ensures_ite]
    rintro w hw - - ⟨fromState, actor⟩ hrule -
    refine ⟨fun _ => .refl _, fun _ _ => liveKept_put fun _ _ _ _ => ?_⟩
    exact Workflow.progressRule_toState_live hrule
  | _ =>
    first
    | exact absurd rfl hwrites
    | (cases hact; done)
    | simp only [transaction, adoptStaleSnapshotWorkflow, adoptStaleConflictResolution,
      deferSnapshotWorkflow, deferConflictResolution, clearSnapshotWorkflowDeferral,
      prepareRecoveredSnapshotCompletion, rotateSnapshotCapability, setSnapshotWorkflowState,
      scheduleSnapshotRetry, resetRestoreTransferForRetry, setResolutionTransfer,
      markConflictResolutionPublishing, ensures_ite, ensures_steps]
      repeat' first
        | trivial
        | exact .refl _
        | exact liveKept_put fun _ _ _ _ => rfl
        | (apply liveKept_put_same; assumption; rfl)
        | intro _
        | constructor

end StControl.Store
