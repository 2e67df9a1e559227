import StControl.Store.LiveSnapshots

/-!
# Backup jobs and their workflows

A backup is recorded twice: as a row of `backup_jobs`, which the login handler and the scan for
offline backups read, and as the snapshot workflow that does the work.  The two rows are written
together by a retirement, a storage repair, a completion, a failure and an abort; the other backups
insert the job first and link the workflow to it in a second transaction.

`JobsAttended creating db` says that the two belong together: a job that has not ended has a live
workflow, or it is one of those in `creating`, whose workflow is still to come.
`JobsAttended.after_act` proves that the transactions of the store keep this and that a job that has
ended stays so, with one exception: a report about writes in independent mode cancels workflows and
leaves their jobs as they are, so it must spare the jobs that have not ended (`sparesBackups`).
-/

namespace StControl.Store

open Transaction Run Option Table IndependentReconciliation

variable {db db' : Db} {act : Act}
variable {p : CreateSnapshotWorkflowParams} {jobs t t' : Table ℤ BackupJob} {id : UUID}
  {workflows : Table UUID Workflow} {ended : WorkflowState}

/-! ## What happens to jobs -/

lemma jobs_kept (hact : act.writesJobs = false) :
    Ensures (act.transaction db) (fun db' => db'.jobs = db.jobs) :=
  tables_kept.mono fun _ hkept => hkept.jobs hact

def SnapshotRequest.jobID : SnapshotRequest → ℤ
  | .ordinary jobID | .retirement _ jobID | .independent _ _ jobID => jobID

def SnapshotRequest.isRetirement : SnapshotRequest → Bool
  | .retirement .. => true
  | _ => false

lemma get?_linkJob (request : SnapshotRequest) (hrequest : request.isRetirement = false)
    {job : BackupJob} (hjob : jobs.get? request.jobID = some job) (k : ℤ) :
    (request.linkJob jobs p).get? k = if k = request.jobID then
      some { job with workflowID := some p.workflowID } else jobs.get? k := by
  cases request with
  | retirement => cases hrequest
  | ordinary jobID | independent _ _ jobID =>
    unfold SnapshotRequest.linkJob
    dsimp only [SnapshotRequest.jobID] at hjob ⊢
    rw [get?_modify, hjob]
    rfl

/-! ## Jobs that somebody attends to -/

def JobsEnd (t t' : Table ℤ BackupJob) : Prop :=
  ∀ jobID job, t.get? jobID = some job → ∃ job', t'.get? jobID = some job' ∧
    (job.status.terminal → job'.status.terminal) ∧
    ∀ id, job.workflowID = some id → job'.workflowID = some id

/-- A job that has not ended has a live snapshot workflow, or it has no workflow yet and is one of
those that are being created. -/
structure JobsAttended (creating : ℤ → Prop) (db : Db) : Prop where
  linked : db.WellLinked
  resumes : ResumesLive db.workflows
  workflow : ∀ jobID job id, db.jobs.get? jobID = some job → job.workflowID = some id →
    ∃ w, db.workflows.get? id = some w ∧ w.workflowType = .snapshot ∧
      (job.status.terminal = false → w.state.live) ∧
      (job.status = .failed → w.state.live = false)
  unique : ∀ jobID jobID' job job' id, db.jobs.get? jobID = some job →
    db.jobs.get? jobID' = some job' → job.workflowID = some id → job'.workflowID = some id →
    jobID = jobID'
  unlinked : ∀ jobID job, db.jobs.get? jobID = some job → job.workflowID = none →
    job.status.terminal = false → creating jobID
  waiting : ∀ jobID, creating jobID → ∃ job, db.jobs.get? jobID = some job ∧
    job.workflowID = none ∧ job.status ≠ .failed

variable {creating creating' : ℤ → Prop} {jobID : ℤ} {job : BackupJob}

lemma JobsEnd.refl (t : Table ℤ BackupJob) : JobsEnd t t :=
  fun _ job hjob => ⟨job, hjob, id, fun _ => id⟩

lemma JobsEnd.trans {t'' : Table ℤ BackupJob} (h : JobsEnd t t') (h' : JobsEnd t' t'') :
    JobsEnd t t'' := by
  intro k job hjob
  obtain ⟨job', hjob', hended, hlink⟩ := h k job hjob
  obtain ⟨job'', hjob'', hended', hlink'⟩ := h' k job' hjob'
  exact ⟨job'', hjob'', fun ht => hended' (hended ht), fun id hid => hlink' id (hlink id hid)⟩

lemma JobsEnd.put_job (hjobs : ∀ k, t'.get? k = if k = jobID then some job else t.get? k)
    (hold : ∀ old, t.get? jobID = some old → (old.status.terminal → job.status.terminal) ∧
      ∀ id, old.workflowID = some id → job.workflowID = some id) : JobsEnd t t' := by
  intro k j hj
  rw [hjobs]
  split
  next hk => exact ⟨job, rfl, hold j (hk ▸ hj)⟩
  · exact ⟨j, hj, id, fun _ => id⟩

/-! ## Cancellations of reconciliations -/

/-- The reconciliations after the first statement of `recordIndependentSyncFactsTx`. -/
def supersededBy (nodeID : NodeID) (handle : String) (marker : UUID)
    (reconciliations : Table UUID IndependentReconciliation) :
    Table UUID IndependentReconciliation :=
  reconciliations.update
    (fun _ r => r.nodeID = nodeID && r.localHandle = handle && r.marker ≠ marker && r.state.isOpen)
    fun r => { r with state := .superseded }

def IndependentReconciliation.outdatedOn (nodeID : NodeID) (handle : String)
    (r : IndependentReconciliation) : Bool :=
  r.nodeID = nodeID && r.localHandle = handle && r.state = .superseded

def recordedFact (reconciliationID : UUID) (nodeID : NodeID) (handle : String) (marker : UUID)
    (generation : ℤ) (db : Db) : Table UUID IndependentReconciliation :=
  let superseded := supersededBy nodeID handle marker db.reconciliations
  if superseded.any fun _ r => r.nodeID = nodeID && r.localHandle = handle &&
      r.marker = marker then superseded
  else superseded.put reconciliationID
    { nodeID, localHandle := handle, marker
      state := if db.user.homeNodeID = some nodeID then .pending else .conflict
      workflowID := none, attempt := 0, controllerGeneration := generation }

def collided (reconciliations : Table UUID IndependentReconciliation) :
    Table UUID IndependentReconciliation :=
  if independentCollision reconciliations then
    reconciliations.update (fun _ r => r.state.isOpen) fun r => { r with state := .conflict }
  else reconciliations

def IndependentReconciliation.inConflict (r : IndependentReconciliation) : Bool :=
  r.state = .conflict

def Db.servesOpenJob (db : Db) (reconciliations : Table UUID IndependentReconciliation)
    (p : IndependentReconciliation → Bool) : Bool :=
  db.jobs.any fun _ job => !job.status.terminal && job.workflowID.any fun id =>
    reconciliations.any fun _ r => r.workflowID = some id && p r

/-- The transaction cancels no reconciliation whose snapshot belongs to a job that has not ended. -/
def sparesBackups (db : Db) : Act → Bool
  | .recordIndependentSyncFact reconciliationID nodeID handle marker generation =>
    !db.servesOpenJob (supersededBy nodeID handle marker db.reconciliations)
        (outdatedOn nodeID handle) &&
      !db.servesOpenJob (collided (recordedFact reconciliationID nodeID handle marker
        generation db))
        inConflict
  | .settleIndependentConflicts => !db.servesOpenJob (collided db.reconciliations) inConflict
  | _ => true

lemma recordIndependentSyncFact_workflows {reconciliationID : UUID} {nodeID : NodeID}
    {handle : String} {marker : UUID} {generation : ℤ} :
    Ensures (recordIndependentSyncFact reconciliationID nodeID handle marker generation db)
      fun db' => db'.workflows = cancelReconciliationWorkflows
        (collided (recordedFact reconciliationID nodeID handle marker generation db)) inConflict
        (cancelReconciliationWorkflows (supersededBy nodeID handle marker db.reconciliations)
          (outdatedOn nodeID handle) db.workflows) := by
  simp only [recordIndependentSyncFact, ensures_steps]
  intros
  rfl

lemma get?_cancelReconciliationWorkflows {reconciliations : Table UUID IndependentReconciliation}
    {p : IndependentReconciliation → Bool} (hspared : db.servesOpenJob reconciliations p = false)
    (hjob : db.jobs.get? jobID = some job) (hid : job.workflowID = some id)
    (hopen : job.status.terminal = false) (workflows : Table UUID Workflow) :
    (cancelReconciliationWorkflows reconciliations p workflows).get? id = workflows.get? id := by
  have hnone := any_eq_false.mp hspared jobID job hjob
  rw [hopen, hid] at hnone
  rw [cancelReconciliationWorkflows, get?_update]
  conv_rhs => rw [← map_id' (x := workflows.get? id)]
  refine map_congr fun w _ => ?_
  rw [show (reconciliations.any fun _ r => r.workflowID = some id && p r) = false from hnone,
    Bool.and_false]
  rfl

def Act.ofBackups : Act → Bool
  | .createSnapshotWorkflow p => !p.request.isRetirement
  | .cancelSnapshotWorkflow _ | .environment (.job ..) => true
  | _ => false

lemma get?_endWorkflow_of_ne {k : UUID} (hne : k ≠ id) :
    (endWorkflow workflows id ended).get? k = workflows.get? k := by
  rw [endWorkflow, get?_update]
  conv_rhs => rw [← map_id' (x := workflows.get? k)]
  refine map_congr fun w _ => ?_
  rw [decide_eq_false hne, Bool.false_and]
  rfl

lemma not_live_of_endWorkflow {w' : Workflow} (hended : ended.live = false)
    (hw' : (endWorkflow workflows id ended).get? id = some w') : w'.state.live = false := by
  rw [endWorkflow, get?_update] at hw'
  obtain ⟨w, -, rfl⟩ := map_eq_some_iff.mp hw'
  split
  · exact hended
  next hcond =>
    simp only [decide_true, Bool.true_and] at hcond
    exact (Bool.not_eq_true _).mp hcond

lemma get?_setUnfinished {status : BackupJobStatus} (k : ℤ) :
    (jobs.update (fun _ j => j.workflowID = some id && j.status ≠ .done && j.status ≠ .aborted)
      fun j => { j with status := status }).get? k = (jobs.get? k).map fun j =>
        if j.workflowID = some id then { j with
          status := if j.status ≠ .done ∧ j.status ≠ .aborted then status else j.status }
        else j := by
  rw [get?_update]
  refine map_congr fun j _ => ?_
  by_cases hlink : j.workflowID = some id
  · by_cases hstatus : j.status ≠ .done ∧ j.status ≠ .aborted
    · simp [hlink, hstatus]
    · rw [if_pos hlink, if_neg hstatus, if_neg (by simpa [hlink] using hstatus)]
  · simp [hlink]

/-! ## Kinds of steps -/

namespace JobsAttended

variable (h : JobsAttended creating db)
include h

lemma congr (hiff : ∀ k, creating k ↔ creating' k) : JobsAttended creating' db := by
  obtain rfl : creating = creating' := funext fun k => propext (hiff k)
  exact h

lemma forget (hsub : ∀ k, creating' k → creating k) (hended : ∀ k job, creating k → ¬ creating' k →
      db.jobs.get? k = some job → job.status.terminal) : JobsAttended creating' db :=
  { h with
    unlinked := by
      intro k j hj hnone hopen
      by_contra hforgotten
      simp [hended k j (h.unlinked k j hj hnone hopen) hforgotten hj] at hopen
    waiting := fun k hk => h.waiting k (hsub k hk) }

section

variable (hstep : step db act = some db')
include hstep

lemma workflow_after (hjob : db.jobs.get? jobID = some job) (hid : job.workflowID = some id) :
    ∃ w w', db.workflows.get? id = some w ∧ w.workflowType = .snapshot ∧
      db'.workflows.get? id = some w' ∧ w'.workflowType = .snapshot ∧
      (job.status.terminal = false → w.state.live) ∧
      (job.status = .failed → w'.state.live = false) := by
  obtain ⟨w, hw, htype, hopen, hfailed⟩ := h.workflow jobID job id hjob hid
  obtain ⟨w', hw', hkept⟩ := (step_committed hstep).workflow_kept hw
  have hnot : w.workflowType ≠ .conflictResolution := by rw [htype]; decide
  refine ⟨w, w', hw, htype, hw', hkept.type.trans htype, hopen, fun hstatus => ?_⟩
  have hback := (step_committed hstep).live_before h.linked.resolutions hw hnot hw'
  rw [hfailed hstatus] at hback
  exact (Bool.not_eq_true _).mp fun hlive => nomatch hback hlive

lemma of_statuses (f : ℤ → BackupJob → BackupJobStatus)
    (hjobs : ∀ k, db'.jobs.get? k = (db.jobs.get? k).map fun j => { j with status := f k j })
    (hlinked : ∀ k j id w', db.jobs.get? k = some j → j.workflowID = some id →
      db'.workflows.get? id = some w' → ((f k j).terminal = false → w'.state.live) ∧
        (f k j = .failed → w'.state.live = false))
    (hunlinked : ∀ k j, db.jobs.get? k = some j → j.workflowID = none →
      (f k j).terminal = false → creating' k)
    (hwaiting : ∀ k, creating' k → creating k ∧ ∀ j, db.jobs.get? k = some j → f k j ≠ .failed) :
    JobsAttended creating' db' where
  linked := (step_committed hstep).wellLinked h.linked
  resumes := resumesLive_kept h.resumes hstep
  workflow := by
    intro k job id hjob hid
    rw [hjobs] at hjob
    obtain ⟨j, hj, rfl⟩ := map_eq_some_iff.mp hjob
    obtain ⟨w, w', -, -, hw', htype, -⟩ := h.workflow_after hstep hj hid
    exact ⟨w', hw', htype, hlinked k j id w' hj hid hw'⟩
  unique := by
    intro k k' job job' id hjob hjob' hid hid'
    rw [hjobs] at hjob hjob'
    obtain ⟨j, hj, rfl⟩ := map_eq_some_iff.mp hjob
    obtain ⟨j', hj', rfl⟩ := map_eq_some_iff.mp hjob'
    exact h.unique k k' j j' id hj hj' hid hid'
  unlinked := by
    intro k job hjob hnone hopen
    rw [hjobs] at hjob
    obtain ⟨j, hj, rfl⟩ := map_eq_some_iff.mp hjob
    exact hunlinked k j hj hnone hopen
  waiting := by
    intro k hk
    obtain ⟨hcreating, hstatus⟩ := hwaiting k hk
    obtain ⟨j, hj, hnone, -⟩ := h.waiting k hcreating
    exact ⟨{ j with status := f k j }, by rw [hjobs, hj]; rfl, hnone, hstatus j hj⟩

lemma of_kept (hjobs : db'.jobs = db.jobs)
    (hlive : ∀ k j id w', db.jobs.get? k = some j → j.workflowID = some id →
      j.status.terminal = false → db'.workflows.get? id = some w' → w'.state.live) :
    JobsAttended creating db' := by
  refine h.of_statuses hstep (fun _ j => j.status) (fun k => ?_) (fun k j id w' hj hid hw' => ?_)
    h.unlinked fun k hk => ⟨hk, fun j hj => ?_⟩
  · rw [hjobs]
    exact map_id'.symm
  · obtain ⟨w, v, -, -, hv, -, -, hended⟩ := h.workflow_after hstep hj hid
    obtain rfl := mem_unique hv hw'
    exact ⟨fun hopen => hlive k j id v hj hid hopen hw', hended⟩
  · obtain ⟨j', hj', -, hstatus⟩ := h.waiting k hk
    rw [hj] at hj'
    exact some.inj hj' ▸ hstatus

lemma put_job (hjobs : ∀ k, db'.jobs.get? k = if k = jobID then some job else db.jobs.get? k)
    (hnew : ∀ id, job.workflowID = some id → db.workflows.get? id = none ∧
      ∃ w, db'.workflows.get? id = some w ∧ w.workflowType = .snapshot ∧ w.state.live)
    (hstatus : job.status ≠ .failed)
    (hkept : LiveKept db.workflows db'.workflows) (hself : creating' jobID ↔ job.workflowID = none)
    (hothers : ∀ k, k ≠ jobID → (creating' k ↔ creating k)) : JobsAttended creating' db' := by
  -- the workflow is new, so no other job is linked to it
  have hother : ∀ k j id, db.jobs.get? k = some j → j.workflowID = some id →
      job.workflowID ≠ some id := by
    intro k j id hj hlink hid
    obtain ⟨v, hv, -⟩ := h.workflow k j id hj hlink
    simp [(hnew id hid).1] at hv
  exact
    { linked := (step_committed hstep).wellLinked h.linked
      resumes := resumesLive_kept h.resumes hstep
      workflow := by
        intro k j id hj hid
        rw [hjobs] at hj
        split at hj
        · cases hj
          obtain ⟨-, w, hw, htype, hlive⟩ := hnew id hid
          exact ⟨w, hw, htype, fun _ => hlive, fun hfailed => absurd hfailed hstatus⟩
        obtain ⟨v, v', hv, htype, hv', htype', hopen, hfailed⟩ := h.workflow_after hstep hj hid
        refine ⟨v', hv', htype', fun hj' => ?_, hfailed⟩
        obtain ⟨u, hu, hlive⟩ := hkept id v hv htype (hopen hj')
        rw [hv'] at hu
        exact some.inj hu ▸ hlive
      unique := by
        intro k k' j j' id hj hj' hlink hlink'
        rw [hjobs] at hj hj'
        split at hj <;> split at hj'
        case isTrue.isTrue hk hk' => exact hk.trans hk'.symm
        case isTrue.isFalse =>
          cases hj
          exact absurd hlink (hother k' j' id hj' hlink')
        case isFalse.isTrue =>
          cases hj'
          exact absurd hlink' (hother k j id hj hlink)
        case isFalse.isFalse => exact h.unique k k' j j' id hj hj' hlink hlink'
      unlinked := by
        intro k j hj hnone hopen
        rw [hjobs] at hj
        split at hj
        next hk =>
          cases hj
          exact hk ▸ hself.mpr hnone
        next hk => exact (hothers k hk).mpr (h.unlinked k j hj hnone hopen)
      waiting := by
        intro k hk
        by_cases hkey : k = jobID
        · subst hkey
          exact ⟨job, by rw [hjobs, if_pos rfl], hself.mp hk, hstatus⟩
        · obtain ⟨j, hj, hrest⟩ := h.waiting k ((hothers k hkey).mp hk)
          exact ⟨j, by rw [hjobs, if_neg hkey, hj], hrest⟩ }

lemma of_workflow (id : UUID) (g : BackupJob → BackupJobStatus)
    (hothers : ∀ k, k ≠ id → db'.workflows.get? k = db.workflows.get? k)
    (hjobs : ∀ k, db'.jobs.get? k = (db.jobs.get? k).map fun j =>
      if j.workflowID = some id then { j with status := g j } else j)
    (hself : ∀ k j w w', db.jobs.get? k = some j → j.workflowID = some id →
      db.workflows.get? id = some w → db'.workflows.get? id = some w' →
      ((g j).terminal = false → w'.state.live) ∧ (g j = .failed → w'.state.live = false) ∧
        (j.status.terminal → (g j).terminal)) :
    JobsAttended creating db' ∧ JobsEnd db.jobs db'.jobs := by
  constructor
  · refine h.of_statuses hstep (fun _ j => if j.workflowID = some id then g j else j.status)
      (fun k => ?_) (fun k j id' w' hj hlink hw' => ?_) (fun k j hj hnone hopen => ?_)
      fun k hk => ⟨hk, fun j hj => ?_⟩
    · rw [hjobs]
      refine map_congr fun j _ => ?_
      split <;> rfl
    · by_cases hid : id' = id
      · subst hid
        obtain ⟨w, -, hw, -⟩ := h.workflow_after hstep hj hlink
        rw [if_pos hlink]
        obtain ⟨hlive, hfailed, -⟩ := hself k j w w' hj hlink hw hw'
        exact ⟨hlive, hfailed⟩
      · rw [if_neg fun hsome => hid (some.inj (hlink.symm.trans hsome))]
        obtain ⟨w, hw, -, hlive, hfailed⟩ := h.workflow k j id' hj hlink
        rw [hothers id' hid, hw] at hw'
        exact some.inj hw' ▸ ⟨hlive, hfailed⟩
    · rw [if_neg (by rw [hnone]; nofun)] at hopen
      exact h.unlinked k j hj hnone hopen
    · obtain ⟨j', hj', hnone, hstatus⟩ := h.waiting k hk
      obtain rfl := mem_unique hj' hj
      rwa [if_neg (by rw [hnone]; nofun)]
  · intro k j hj
    refine ⟨if j.workflowID = some id then { j with status := g j } else j,
      by rw [hjobs, hj]; rfl, ?_, ?_⟩
    · intro hended
      split
      next hlink =>
        obtain ⟨w, w', hw, -, hw', -⟩ := h.workflow_after hstep hj hlink
        exact (hself k j w w' hj hlink hw hw').2.2 hended
      · exact hended
    · intro id' hlink
      split <;> exact hlink

lemma setStatus (status : BackupJobStatus) (hjob : db.jobs.get? jobID = some job)
    (hworkflows : db'.workflows = db.workflows)
    (hjobs : db'.jobs = db.jobs.put jobID { job with status }) (hlinked : ∀ id w, job.workflowID =
      some id → db.workflows.get? id = some w → (status.terminal = false → w.state.live) ∧ (status =
      .failed → w.state.live = false)) (hended : job.status.terminal → status.terminal)
    (hunlinked : job.workflowID = none → status.terminal = false → creating' jobID)
    (hothers : ∀ k, k ≠ jobID → (creating' k ↔ creating k))
    (hself : creating' jobID → creating jobID ∧ status ≠ .failed) :
    JobsAttended creating' db' ∧ JobsEnd db.jobs db'.jobs := by
  constructor
  · refine h.of_statuses hstep (fun k j => if k = jobID then status else j.status) (fun k => ?_)
      (fun k j id w' hj hlink hw' => ?_) (fun k j hj hj' hstatus => ?_) fun k hk => ?_
    · rw [hjobs, get?_put]
      split
      next hk => rw [hk, hjob]; rfl
      · exact map_id'.symm
    · rw [hworkflows] at hw'
      split
      next hk =>
        obtain rfl := mem_unique hjob (hk ▸ hj)
        exact hlinked id w' hlink hw'
      · obtain ⟨w, hw, -, hlive, hfailed⟩ := h.workflow k j id hj hlink
        obtain rfl := mem_unique hw hw'
        exact ⟨hlive, hfailed⟩
    · split at hstatus
      next hk =>
        obtain rfl := mem_unique hjob (hk ▸ hj)
        exact hk ▸ hunlinked hj' hstatus
      next hk => exact (hothers k hk).mpr (h.unlinked k j hj hj' hstatus)
    · by_cases hkey : k = jobID
      · subst hkey
        refine ⟨(hself hk).1, fun j _ => ?_⟩
        rw [if_pos rfl]
        exact (hself hk).2
      · have hcreating := (hothers k hkey).mp hk
        refine ⟨hcreating, fun j hj => ?_⟩
        rw [if_neg hkey]
        obtain ⟨j', hj', -, hstatus⟩ := h.waiting k hcreating
        exact mem_unique hj' hj ▸ hstatus
  · rw [hjobs]
    refine .put_job (fun k => get?_put _ _ _ _) fun old hold => ?_
    obtain rfl := mem_unique hold hjob
    exact ⟨hended, fun _ => id⟩

lemma keep (hjobs : db'.jobs = db.jobs) (hkept : LiveKept db.workflows db'.workflows) :
    JobsAttended creating db' ∧ JobsEnd db.jobs db'.jobs := by
  refine ⟨h.of_kept hstep hjobs fun k j id w' hj hid hopen hw' => ?_, hjobs ▸ .refl _⟩
  obtain ⟨w, hw, htype, hlive, -⟩ := h.workflow k j id hj hid
  obtain ⟨v, hv, hvlive⟩ := hkept id w hw htype (hlive hopen)
  rw [hw'] at hv
  exact some.inj hv ▸ hvlive

lemma spare (hjobs : db'.jobs = db.jobs) (hspared : ∀ k j id, db.jobs.get? k = some j → j.workflowID
      = some id → j.status.terminal = false → db'.workflows.get? id = db.workflows.get? id) :
    JobsAttended creating db' ∧ JobsEnd db.jobs db'.jobs := by
  refine ⟨h.of_kept hstep hjobs fun k j id w' hj hid hopen hw' => ?_, hjobs ▸ .refl _⟩
  obtain ⟨w, hw, -, hlive, -⟩ := h.workflow k j id hj hid
  rw [hspared k j id hj hid hopen, hw] at hw'
  exact some.inj hw' ▸ hlive hopen

end

/-! ## Transactions about one backup -/

lemma fail {now : Time} (hstep : step db (.failSnapshotWorkflow id now) = some db') :
    JobsAttended creating db' ∧ JobsEnd db.jobs db'.jobs := by
  have hcommit := step_eq_some.mp hstep
  obtain ⟨-, hcommit⟩ := of_ite_error hcommit
  obtain ⟨w, -, hcommit⟩ := of_need hcommit
  obtain ⟨-, ⟨⟩⟩ := of_require hcommit
  refine h.of_workflow hstep id
    (fun j => if j.status ≠ .done ∧ j.status ≠ .aborted then .failed else j.status)
    (fun k hk => get?_endWorkflow_of_ne hk) get?_setUnfinished fun k j w w' hj hlink hw hw' => ?_
  have hterminal : (if j.status ≠ .done ∧ j.status ≠ .aborted then BackupJobStatus.failed
      else j.status).terminal := by
    cases j.status <;> rfl
  refine ⟨fun hopen => ?_, fun _ => not_live_of_endWorkflow rfl hw', fun _ => hterminal⟩
  simp [hterminal] at hopen

lemma complete {p : CompleteSnapshotWorkflowParams}
    (hstep : step db (.completeSnapshotWorkflow p) = some db') :
    JobsAttended creating db' ∧ JobsEnd db.jobs db'.jobs := by
  have hcommit := step_eq_some.mp hstep
  obtain ⟨-, hcommit⟩ := of_ite_error hcommit
  obtain ⟨w, hw, ⟨-, rfl⟩ | ⟨-, rfl⟩⟩ := completeSnapshotWorkflow_commit db' hcommit
  · exact ⟨h, .refl _⟩
  refine h.of_workflow hstep p.workflowID (fun _ => .done)
    (fun k hk => get?_modify_of_ne hk) (fun k => ?_) fun k j w w' hj hlink hw hw' => ?_
  · dsimp only [publishSnapshot]
    rw [get?_update]
    refine map_congr fun j _ => ?_
    simp only [decide_eq_true_eq]
  · exact ⟨nofun, nofun, fun _ => rfl⟩

lemma cancel (hended : ∀ k j, db.jobs.get? k = some j → j.workflowID = some id → j.status.terminal)
    (hstep : step db act = some db')
    (hworkflows : db'.workflows = endWorkflow db.workflows id .cancelled)
    (hjobs : db'.jobs = db.jobs) : JobsAttended creating db' ∧ JobsEnd db.jobs db'.jobs := by
  refine h.of_workflow hstep id (fun j => j.status) (fun k hk => ?_) (fun k => ?_)
    fun k j w w' hj hlink hw hw' => ?_
  · rw [hworkflows, get?_endWorkflow_of_ne hk]
  · rw [hjobs]
    simp only [ite_self, map_id']
  · rw [hworkflows] at hw'
    refine ⟨fun hopen => ?_, fun _ => not_live_of_endWorkflow rfl hw', fun ht => ht⟩
    simp [hended k j hj hlink] at hopen

lemma reset {now : Time} (hstep : step db (.resetRecoveredSnapshotWorkflow id now) = some db') :
    JobsAttended creating db' ∧ JobsEnd db.jobs db'.jobs := by
  have hcommit := step_eq_some.mp hstep
  obtain ⟨w, hw, hcommit⟩ := of_need hcommit
  obtain ⟨⟨jobID, job⟩, hjob, hcommit⟩ := of_need hcommit
  obtain ⟨⟨-, -, -, hlive⟩, hcommit⟩ := of_require hcommit
  obtain ⟨hjob, hlink⟩ := of_find?_eq_some hjob
  have hlink := of_decide_eq_true hlink
  split at hcommit
  next haborted =>
    cases hcommit
    refine h.cancel (fun k j hj hj' => ?_) hstep rfl rfl
    obtain rfl := h.unique k jobID j job id hj hjob hj' hlink
    obtain rfl := mem_unique hj hjob
    rw [haborted]
    rfl
  · cases hcommit
    refine h.of_workflow hstep id
      (fun j => if j.status ≠ .done ∧ j.status ≠ .aborted then .pending else j.status)
      (fun k hk => get?_put_of_ne hk) get?_setUnfinished fun k j v w' hj hj' hv hw' => ?_
    rw [get?_put_self] at hw'
    cases hw'
    -- a failed job would have an ended workflow
    have hfailed : j.status ≠ .failed := by
      intro hfailed
      obtain ⟨u, hu, -, -, hended⟩ := h.workflow k j id hj hj'
      obtain rfl := mem_unique hu hw
      rw [hlive] at hended
      exact absurd (hended hfailed) (by decide)
    refine ⟨fun _ => rfl, ?_, ?_⟩
    · split
      · nofun
      next hstatus =>
        intro hj''
        exact absurd hj'' hfailed
    · intro hterminal
      cases hs : j.status <;> simp_all [BackupJobStatus.terminal]

lemma abort (hstep : step db (.abortBackupJobAndSnapshotWorkflow jobID) = some db') :
    JobsAttended creating db' ∧ JobsEnd db.jobs db'.jobs := by
  have hcommit := step_eq_some.mp hstep
  obtain ⟨job, hjob, hcommit⟩ := of_need hcommit
  obtain ⟨hopen, hcommit⟩ := of_require hcommit
  split at hcommit
  next hnone =>
    cases hcommit
    exact h.setStatus hstep .aborted hjob rfl rfl (fun _ _ _ _ => ⟨nofun, nofun⟩) (fun _ => rfl)
      (fun _ => nofun) (fun k _ => Iff.rfl) fun hk => ⟨hk, nofun⟩
  next id hlink =>
    obtain ⟨-, ⟨⟩⟩ := of_require hcommit
    refine h.of_workflow hstep id (fun _ => .aborted) (fun k hk => get?_endWorkflow_of_ne hk)
      (fun k => ?_) fun k j w w' hj hj' hw hw' => ⟨nofun, nofun, fun _ => rfl⟩
    rw [get?_put]
    split
    next hk => rw [hk, hjob, map_some, if_pos hlink]
    next hk =>
      conv_lhs => rw [← map_id' (x := db.jobs.get? k)]
      refine map_congr fun j hj => ?_
      rw [if_neg fun hj' => hk (h.unique k jobID j job id hj hjob hj' hlink)]

lemma insert {w : Workflow} (hstep : step db act = some db')
    (hjobs : ∀ k, db'.jobs.get? k = if k = jobID then some job else db.jobs.get? k)
    (hid : job.workflowID = some id) (hstatus : job.status ≠ .failed)
    (hfresh : db.jobs.get? jobID = none) (hnew : db.workflows.get? id = none)
    (hw : db'.workflows.get? id = some w) (htype : w.workflowType = .snapshot)
    (hlive : w.state.live) (hkept : LiveKept db.workflows db'.workflows) :
    JobsAttended creating db' ∧ JobsEnd db.jobs db'.jobs := by
  constructor
  · refine h.put_job hstep hjobs (fun k hk => ?_) hstatus hkept (iff_of_false (fun hk => ?_) ?_)
      fun _ _ => Iff.rfl
    · obtain rfl := mem_unique hid hk
      exact ⟨hnew, w, hw, htype, hlive⟩
    · obtain ⟨j, hj, -⟩ := h.waiting jobID hk
      simp [hfresh] at hj
    · rw [hid]
      nofun
  · refine .put_job hjobs fun old hold => ?_
    simp [hfresh] at hold

/-! ## All of them -/

/-- **Jobs stay attended.**  A transaction that cancels no reconciliation under an open job keeps
every open job with its live workflow, and an ended job stays ended. -/
theorem after_act (hact : act.ofBackups = false) (hspares : sparesBackups db act)
    (hstep : step db act = some db') : JobsAttended creating db' ∧ JobsEnd db.jobs db'.jobs := by
  have hcommit := step_eq_some.mp hstep
  cases act with
  | cancelSnapshotWorkflow => cases hact
  | failSnapshotWorkflow => exact h.fail hstep
  | completeSnapshotWorkflow => exact h.complete hstep
  | resetRecoveredSnapshotWorkflow => exact h.reset hstep
  | abortBackupJobAndSnapshotWorkflow => exact h.abort hstep
  | createSnapshotWorkflow p =>
    have hkept := liveKept_of_act rfl h.linked h.resumes db' hcommit
    obtain ⟨generation, accounts, hp, rfl⟩ := createSnapshotWorkflow_commit db' hcommit
    have hfits := hp.fitsJob
    cases hrequest : p.request with
    | ordinary | independent =>
      rw [Act.ofBackups, hrequest] at hact
      cases hact
    | retirement itemID jobID =>
      rw [hrequest] at hfits
      let job : BackupJob :=
        { srcNodeID := p.sourceNodeID, dstNodeID := p.targetNodeID, status := .pending
          workflowID := some p.workflowID }
      have hjobs : ∀ k, (insertSnapshotWorkflow p generation accounts db).jobs.get? k =
          if k = jobID then some job else db.jobs.get? k := by
        intro k
        dsimp only [insertSnapshotWorkflow]
        rw [hrequest]
        exact get?_put _ _ _ _
      exact h.insert hstep hjobs rfl nofun (isNone_iff_eq_none.mp hfits)
        (WorkflowCreated.snapshot hp).accepted.1 (get?_put_self ..) rfl rfl hkept
  | claimAndCreateStorageRepair p =>
    have hkept := liveKept_of_act rfl h.linked h.resumes db' hcommit
    obtain ⟨generation, hp, rfl⟩ := claimAndCreateStorageRepair_commit db' hcommit
    let job : BackupJob :=
      { srcNodeID := p.sourceNodeID, dstNodeID := p.targetNodeID, status := .pending
        workflowID := some p.workflowID }
    have hjobs : ∀ k, (SnapshotRequest.linkJob (.ordinary p.jobID)
        (db.jobs.put p.jobID { job with workflowID := none }) p.snapshotParams).get? k =
          if k = p.jobID then some job else db.jobs.get? k := by
      intro k
      refine (get?_linkJob (.ordinary p.jobID) rfl (get?_put_self ..) k).trans ?_
      by_cases hk : k = p.jobID
      · exact (if_pos hk).trans (if_pos hk).symm
      · exact (if_neg hk).trans ((get?_put_of_ne hk).trans (if_neg hk).symm)
    exact h.insert hstep hjobs rfl nofun hp.newJob (WorkflowCreated.repair hp).accepted.1
      (get?_put_self ..) rfl rfl hkept
  | recordIndependentSyncFact reconciliationID nodeID handle marker generation =>
    simp only [sparesBackups, Bool.and_eq_true, Bool.not_eq_true'] at hspares
    refine h.spare hstep (jobs_kept rfl db' hcommit) fun k j id hj hid hopen => ?_
    rw [recordIndependentSyncFact_workflows db' hcommit,
      get?_cancelReconciliationWorkflows hspares.2 hj hid hopen,
      get?_cancelReconciliationWorkflows hspares.1 hj hid hopen]
  | settleIndependentConflicts =>
    simp only [sparesBackups, Bool.not_eq_true'] at hspares
    refine h.spare hstep (jobs_kept rfl db' hcommit) fun k j id hj hid hopen => ?_
    obtain rfl := Except.ok.inj hcommit
    exact get?_cancelReconciliationWorkflows hspares hj hid hopen _
  | environment w =>
    cases w with
    | job => cases hact
    | _ =>
      exact h.keep hstep (jobs_kept rfl db' hcommit)
        (liveKept_of_act rfl h.linked h.resumes db' hcommit)
  | _ =>
    exact h.keep hstep (jobs_kept rfl db' hcommit)
      (liveKept_of_act rfl h.linked h.resumes db' hcommit)

end JobsAttended

end StControl.Store
