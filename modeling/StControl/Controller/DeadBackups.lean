import StControl.Store.BackupJobs
import StControl.Controller.BoundedRetries

/-!
# Backups that have ended and still stand in the way

A login to the home first looks for a backup of the user that is pending, running or verifying
(`FindRunningBackupForUserOnNode`), has the node abort it, and asks the store to record the abort;
if the store refuses, the login is refused.  The scan for offline backups skips a user for whom such
a job exists.  Both take the job for the truth, while the abort takes the workflow for it: it is
refused when the workflow of the job has ended.

`Backups` puts next to the store what the controller holds in memory: backups whose job is inserted
and whose workflow is still to come, and executions of snapshot workflows, which set the status of
their job without reading it again.  A crash forgets both.  `dead_backups_block` gives three runs
after which a job that nobody works on is in the way for good: an execution marks a job as running
that was aborted a moment before, a report about writes in independent mode cancels the workflow of
a job, and a crash falls between the two transactions of a creation.  `dead_backups_never_block`
shows that these are the only ways.
-/

namespace StControl.Controller

open Store Run Transaction Option Table

variable {key : ℕ} {refused : Bool} {id workflowID : UUID}

/-! ## The reads of the login handler and of the scan -/

/-- `FindRunningBackupForUserOnNode`: the latest of the jobs that have not ended. -/
def findRunningBackup (node : NodeID) (db : Db) : Option (ℤ × BackupJob) :=
  db.jobs.fold none fun best jobID job =>
    if job.srcNodeID = node && !job.status.terminal && best.all fun b => b.1 < jobID then
      some (jobID, job)
    else best

/-- The part of `handleLoginRedirect` that aborts a backup, on a node that answers the command. -/
def abortOnLogin (node : NodeID) (db : Db) : Except StoreError Db :=
  match findRunningBackup node db with
  | none => .ok db
  | some (jobID, _) => abortBackupJobAndSnapshotWorkflow jobID db

/-- `scheduleOfflineBackups` passes over the user. -/
def scanSkips (node : NodeID) (db : Db) : Bool := (findRunningBackup node db).isSome

lemma of_findRunningBackup {node : NodeID} {db : Db} {jobID : ℤ} {job : BackupJob}
    (h : findRunningBackup node db = some (jobID, job)) :
    db.jobs.get? jobID = some job ∧ job.srcNodeID = node ∧ job.status.terminal = false := by
  have hinv : ∀ b, findRunningBackup node db = some b →
      db.jobs.get? b.1 = some b.2 ∧ b.2.srcNodeID = node ∧ b.2.status.terminal = false := by
    refine fold_invariant_of_get? (P := fun best : Option (ℤ × BackupJob) =>
      ∀ b, best = some b → db.jobs.get? b.1 = some b.2 ∧ b.2.srcNodeID = node ∧
        b.2.status.terminal = false) (fun b hb => nomatch hb) ?_
    intro best k j hj hbest b hb
    split at hb
    next hcond =>
      cases hb
      simp only [Bool.and_eq_true, Bool.not_eq_true', decide_eq_true_eq] at hcond
      exact ⟨hj, hcond.1.1, hcond.1.2⟩
    · exact hbest b hb
  exact hinv (jobID, job) h

lemma isSome_findRunningBackup {node : NodeID} {db : Db} {jobID : ℤ} {job : BackupJob}
    (hjob : db.jobs.get? jobID = some job) (hnode : job.srcNodeID = node)
    (hopen : job.status.terminal = false) : scanSkips node db := by
  refine fold_establishes (P := fun best : Option (ℤ × BackupJob) => best.isSome) hjob
    (fun best => ?_) fun best k j hbest => ?_
  · split
    · rfl
    next hcond =>
      cases best with
      | none => exact absurd (by simp [hnode, hopen]) hcond
      | some b => rfl
  · split
    · rfl
    · exact hbest

/-! ## What the controller holds in memory -/

/-- A backup whose job is inserted: `createUserBackup` and `createIndependentReconciliationSnapshot`
before the call of `CreateSnapshotWorkflow`, or after the call was refused. -/
structure Creation where
  params : CreateSnapshotWorkflowParams
  refused : Bool

inductive ExecutionStage
  | loaded
  /-- The target has answered, and `CompleteSnapshotWorkflowStep` has recorded it. -/
  | prepared
  /-- `retrySnapshotWorkflow` or `failSnapshotWorkflow` has read that the job was aborted. -/
  | aborted
  deriving DecidableEq

/-- What `executeSnapshotWorkflow` has read of the workflow and its job. -/
structure JobExecution where
  workflowID : UUID
  jobID : ℤ
  stage : ExecutionStage
  deriving DecidableEq

structure Backups where
  db : Db
  creations : Table ℤ Creation
  executions : Table ℕ JobExecution

/-- `UpdateBackupJobStatus`, whatever the status was. -/
def updateBackupJobStatus (jobID : ℤ) (status : BackupJobStatus) (db : Db) : Db :=
  match db.jobs.get? jobID with
  | none => db
  | some job => perform db (.environment (.job jobID { job with status }))

/-- `CreateBackupJob`, with the nodes between which the backup goes. -/
def createBackupJob (p : CreateSnapshotWorkflowParams) (db : Db) : Db :=
  perform db (.environment (.job p.request.jobID
    { srcNodeID := p.sourceNodeID, dstNodeID := p.targetNodeID, status := .pending
      workflowID := none }))

inductive BackupAct
  /-- A transaction of the store that none of the following makes. -/
  | store (act : Act)
  | createJob (p : CreateSnapshotWorkflowParams)
  | createWorkflow (jobID : ℤ)
  /-- The job is marked as failed after its workflow was refused. -/
  | closeJob (jobID : ℤ)
  /-- The creation returns an error before that. -/
  | abandon (jobID : ℤ)
  | load (key : ℕ) (workflowID : UUID) (now : Time)
  | confirmPrepared (key : ℕ)
  | markRunning (key : ℕ)
  | readAborted (key : ℕ)
  | cancel (key : ℕ)
  | release (key : ℕ)
  | crash

def backupStep (s : Backups) : BackupAct → Option Backups
  | .store act => if act.ofBackups then none else (step s.db act).map ({ s with db := · })
  | .createJob p =>
    if p.request.isRetirement = false ∧ s.db.jobs.get? p.request.jobID = none then
      some { s with
        db := createBackupJob p s.db, creations := s.creations.put p.request.jobID ⟨p, false⟩ }
    else none
  | .createWorkflow jobID =>
    match s.creations.get? jobID with
    | some ⟨p, false⟩ =>
      match step s.db (.createSnapshotWorkflow p) with
      | some db => some { s with db, creations := s.creations.delete fun k _ => k = jobID }
      | none => some { s with creations := s.creations.put jobID ⟨p, true⟩ }
    | _ => none
  | .closeJob jobID =>
    match s.creations.get? jobID with
    | some ⟨_, true⟩ => some { s with
        db := updateBackupJobStatus jobID .failed s.db
        creations := s.creations.delete fun k _ => k = jobID }
    | _ => none
  | .abandon jobID => some { s with creations := s.creations.delete fun k _ => k = jobID }
  | .load key workflowID now => do
    let db ← claimWorkflow workflowID now s.db
    let e ← loadExecution workflowID db
    let jobID ← e.jobID
    return { s with db, executions := s.executions.put key ⟨workflowID, jobID, .loaded⟩ }
  | .confirmPrepared key => do
    let e ← s.executions.get? key
    if e.stage = .loaded then
      some { s with executions := s.executions.put key { e with stage := .prepared } }
    else none
  | .markRunning key => do
    let e ← s.executions.get? key
    if e.stage = .prepared then
      some { s with
        db := updateBackupJobStatus e.jobID .running s.db
        executions := s.executions.put key { e with stage := .loaded } }
    else none
  | .readAborted key => do
    let e ← s.executions.get? key
    let job ← s.db.jobs.get? e.jobID
    if job.status = .aborted then
      some { s with executions := s.executions.put key { e with stage := .aborted } }
    else none
  | .cancel key => do
    let e ← s.executions.get? key
    if e.stage = .aborted then
      some { s with
        db := perform s.db (.cancelSnapshotWorkflow e.workflowID)
        executions := s.executions.delete fun k _ => k = key }
    else none
  | .release key => some { s with executions := s.executions.delete fun k _ => k = key }
  | .crash => some { s with creations := ∅, executions := ∅ }

structure Backups.Fresh (s : Backups) : Prop where
  db : Store.Fresh s.db
  creations : s.creations = ∅
  executions : s.executions = ∅

/-! ## Who attends to a job -/

def HasLiveWorkflow (db : Db) (job : BackupJob) : Prop :=
  ∃ id w, job.workflowID = some id ∧ db.workflows.get? id = some w ∧
    w.workflowType = .snapshot ∧ w.state.live

def EndedByCreator (s : Backups) (jobID : ℤ) : Prop :=
  ∃ acts s' job', (∀ act ∈ acts, act = .createWorkflow jobID ∨ act = .closeJob jobID) ∧
    run backupStep s acts = some s' ∧ s'.db.jobs.get? jobID = some job' ∧
    (job'.status.terminal ∨ HasLiveWorkflow s'.db job')

/-- The condition: no crash and no error cuts a creation between its two transactions, a job is
marked as running only while it has not ended, and no report about writes in independent mode
cancels the workflow of a job that has not ended. -/
def attendsToJobs (s : Backups) : BackupAct → Bool
  | .store act => sparesBackups s.db act
  | .abandon jobID => (s.db.jobs.get? jobID).all fun job => job.status.terminal
  | .crash => s.creations.all fun jobID _ =>
      (s.db.jobs.get? jobID).all fun job => job.status.terminal
  | .markRunning key => (s.executions.get? key).all fun e =>
      (s.db.jobs.get? e.jobID).all fun job => !job.status.terminal
  | _ => true

structure Backups.Sound (s : Backups) : Prop where
  jobs : JobsAttended (fun jobID => (s.creations.get? jobID).isSome) s.db
  creations : ∀ jobID c, s.creations.get? jobID = some c →
    c.params.request.isRetirement = false ∧ c.params.request.jobID = jobID
  executions : ∀ key e, s.executions.get? key = some e → ∃ job,
    s.db.jobs.get? e.jobID = some job ∧ job.workflowID = some e.workflowID ∧
      (e.stage = .aborted → job.status.terminal)

variable {s s' s₀ : Backups} {db db' : Db} {jobID : ℤ} {job : BackupJob}
  {e : JobExecution} {acts later : List BackupAct} {p : CreateSnapshotWorkflowParams}

lemma isSome_forget {creations : Table ℤ Creation} {k : ℤ} :
    ((creations.delete fun k' _ => k' = jobID).get? k).isSome ↔
      (creations.get? k).isSome ∧ k ≠ jobID := by
  rw [get?_delete]
  cases creations.get? k with
  | none => simp
  | some c => simp [Option.filter]

lemma updateBackupJobStatus_eq (hjob : db.jobs.get? jobID = some job) (status : BackupJobStatus) :
    updateBackupJobStatus jobID status db =
      { db with jobs := db.jobs.put jobID { job with status } } := by
  rw [updateBackupJobStatus, hjob]
  rfl

lemma step_updateBackupJobStatus (hjob : db.jobs.get? jobID = some job) (status : BackupJobStatus) :
    step db (.environment (.job jobID { job with status })) =
      some (updateBackupJobStatus jobID status db) := by
  rw [updateBackupJobStatus_eq hjob]
  rfl

lemma step_createBackupJob : step db (.environment (.job p.request.jobID
    { srcNodeID := p.sourceNodeID, dstNodeID := p.targetNodeID, status := .pending
      workflowID := none })) = some (createBackupJob p db) := rfl

lemma job_of_loadExecution {e : Execution} (hload : loadExecution workflowID db = some e)
    (hjobID : e.jobID = some jobID) :
    ∃ job, db.jobs.get? jobID = some job ∧ job.workflowID = some workflowID ∧
      (ExecutionStage.loaded = .aborted → job.status.terminal) := by
  obtain ⟨w, -, hload⟩ := bind_eq_some_iff.mp hload
  obtain ⟨o, ho, ⟨⟩⟩ := bind_eq_some_iff.mp hload
  subst hjobID
  cases htype : w.workflowType with
  | snapshot =>
    rw [htype] at ho
    obtain ⟨⟨k, job⟩, hfound, ⟨⟩⟩ := map_eq_some_iff.mp ho
    obtain ⟨hjob, hlink⟩ := of_find?_eq_some hfound
    exact ⟨job, hjob, of_decide_eq_true hlink, by simp⟩
  | restore | conflictResolution =>
    rw [htype] at ho
    obtain ⟨_, -, ⟨⟩⟩ := map_eq_some_iff.mp ho

lemma abort_commits (hjob : db.jobs.get? jobID = some job) (hopen : job.status.terminal = false)
    (hlive : ∀ id, job.workflowID = some id → (db.workflows.get? id).all (·.state.live)) :
    ∃ db', abortBackupJobAndSnapshotWorkflow jobID db = .ok db' := by
  cases hlink : job.workflowID with
  | none =>
    refine ⟨{ db with jobs := db.jobs.put jobID { job with status := .aborted } },
      ok_need hjob (ok_require hopen ?_)⟩
    simp only [hlink]
    rfl
  | some id =>
    refine ⟨{ db with
        jobs := db.jobs.put jobID { job with status := .aborted }
        workflows := endWorkflow db.workflows id .cancelled
        capabilities := revokeCapabilities db.capabilities id },
      ok_need hjob (ok_require hopen ?_)⟩
    simp only [hlink]
    exact ok_require (hlive id hlink) rfl

lemma Backups.Fresh.sound (h : s.Fresh) : s.Sound where
  jobs :=
    { linked := h.db.wellLinked, resumes := fun id w hw => by simp [h.db.workflows] at hw
      workflow := fun k j id hj => by simp [h.db.jobs] at hj
      unique := fun k k' j j' id hj => by simp [h.db.jobs] at hj
      unlinked := fun k j hj => by simp [h.db.jobs] at hj
      waiting := fun k hk => by simp [h.creations] at hk }
  creations := fun k c hc => by simp [h.creations] at hc
  executions := fun k e he => by simp [h.executions] at he

namespace Backups.Sound

variable (h : s.Sound)
include h

lemma executions_after (hend : JobsEnd s.db.jobs db'.jobs) (key : ℕ) (e : JobExecution)
    (he : s.executions.get? key = some e) : ∃ job,
    db'.jobs.get? e.jobID = some job ∧ job.workflowID = some e.workflowID ∧
      (e.stage = .aborted → job.status.terminal) := by
  obtain ⟨job, hjob, hlink, hstage⟩ := h.executions key e he
  obtain ⟨job', hjob', hended, hkept⟩ := hend e.jobID job hjob
  exact ⟨job', hjob', hkept _ hlink, fun hs => hended (hstage hs)⟩

lemma tables (hdb : JobsAttended (fun jobID => (s.creations.get? jobID).isSome) db' ∧ JobsEnd
      s.db.jobs db'.jobs) : Sound { s with db := db' } where
  jobs := hdb.1
  creations := h.creations
  executions := h.executions_after hdb.2

lemma putExecution (he : ∃ job, s.db.jobs.get? e.jobID = some job ∧ job.workflowID = some
      e.workflowID ∧ (e.stage = .aborted → job.status.terminal)) :
    Sound { s with executions := s.executions.put key e } :=
  { h with executions := forall_put h.executions he }

lemma dropExecution (key : ℕ) :
    Sound { s with executions := s.executions.delete fun k _ => k = key } :=
  { h with executions := forall_delete h.executions }

/-! ## Steps of a creation -/

lemma createJob (hrequest : p.request.isRetirement = false)
    (hfresh : s.db.jobs.get? p.request.jobID = none) : Sound { s with
        db := createBackupJob p s.db, creations := s.creations.put p.request.jobID ⟨p, false⟩ } ∧
      JobsEnd s.db.jobs (createBackupJob p s.db).jobs := by
  have hend : JobsEnd s.db.jobs (createBackupJob p s.db).jobs := by
    refine .put_job (fun k => get?_put _ _ _ _) fun old hold => ?_
    simp [hfresh] at hold
  refine ⟨⟨h.jobs.put_job step_createBackupJob (fun k => get?_put _ _ _ _) nofun nofun (.refl _) ?_
    fun k hk => ?_, forall_put h.creations ⟨hrequest, rfl⟩, h.executions_after hend⟩, hend⟩
  · simp
  · rw [get?_put_of_ne hk]

lemma createWorkflow (hc : s.creations.get? jobID = some ⟨p, refused⟩)
    (hstep : step s.db (.createSnapshotWorkflow p) = some db') :
    (∃ job, db'.jobs.get? jobID = some job ∧ HasLiveWorkflow db' job) ∧ JobsEnd s.db.jobs db'.jobs ∧
      Sound { s with db := db', creations := s.creations.delete fun k _ => k = jobID } := by
  obtain ⟨hrequest, hkey⟩ := h.creations jobID _ hc
  obtain ⟨job, hjob, hnone, hstatus⟩ := h.jobs.waiting jobID (by rw [hc]; rfl)
  have hcommit := step_eq_some.mp hstep
  have hkept := liveKept_of_act rfl h.jobs.linked h.jobs.resumes db' hcommit
  obtain ⟨generation, accounts, hp, rfl⟩ := createSnapshotWorkflow_commit db' hcommit
  have hjobs : ∀ k, (insertSnapshotWorkflow p generation accounts s.db).jobs.get? k =
      if k = jobID then some { job with workflowID := some p.workflowID }
      else s.db.jobs.get? k := by
    intro k
    subst hkey
    exact get?_linkJob p.request hrequest hjob k
  have hend : JobsEnd s.db.jobs (insertSnapshotWorkflow p generation accounts s.db).jobs := by
    refine .put_job hjobs fun old hold => ?_
    obtain rfl := mem_unique hold hjob
    refine ⟨fun hended => hended, fun id hid => ?_⟩
    simp [hnone] at hid
  refine ⟨?_, hend, ?_⟩
  · exact ⟨_, by rw [hjobs, if_pos rfl], p.workflowID, _, rfl, get?_put_self .., rfl, rfl⟩
  · refine ⟨h.jobs.put_job hstep hjobs ?_ hstatus hkept ?_ fun k hk => ?_,
      forall_delete h.creations, h.executions_after hend⟩
    · rintro _ ⟨⟩
      exact ⟨(WorkflowCreated.snapshot hp).accepted.1, _, get?_put_self .., rfl, rfl⟩
    · exact iff_of_false (fun hk => (isSome_forget.mp hk).2 rfl) nofun
    · rw [isSome_forget]
      exact and_iff_left hk

lemma closeJob {c : Creation} (hc : s.creations.get? jobID = some c) :
    (∃ job, (updateBackupJobStatus jobID .failed s.db).jobs.get? jobID = some job ∧
        job.status.terminal) ∧ JobsEnd s.db.jobs (updateBackupJobStatus jobID .failed s.db).jobs ∧
      Sound { s with
        db := updateBackupJobStatus jobID .failed s.db
        creations := s.creations.delete fun k _ => k = jobID } := by
  obtain ⟨job, hjob, hnone, -⟩ := h.jobs.waiting jobID (by rw [hc]; rfl)
  have heq := updateBackupJobStatus_eq hjob .failed
  have hset : JobsAttended
        (fun k => ((s.creations.delete fun k' _ => k' = jobID).get? k).isSome)
        (updateBackupJobStatus jobID .failed s.db) ∧
      JobsEnd s.db.jobs (updateBackupJobStatus jobID .failed s.db).jobs := by
    refine h.jobs.setStatus (step_updateBackupJobStatus hjob .failed) .failed hjob (by rw [heq])
      (by rw [heq]) (fun id w hid _ => ?_) (fun _ => rfl) (fun _ => nofun) (fun k hk => ?_)
      fun hself => ?_
    · simp [hnone] at hid
    · rw [isSome_forget]
      exact and_iff_left hk
    · exact absurd rfl (isSome_forget.mp hself).2
  refine ⟨?_, hset.2, ?_⟩
  · exact ⟨{ job with status := .failed }, by rw [heq, get?_put_self], rfl⟩
  · exact
      { jobs := hset.1, creations := forall_delete h.creations
        executions := h.executions_after hset.2 }

lemma refuse (hc : s.creations.get? jobID = some ⟨p, refused⟩) :
    Sound { s with creations := s.creations.put jobID ⟨p, true⟩ } where
  jobs := by
    refine h.jobs.congr fun k => ?_
    rw [get?_put]
    split
    next hk => simp [hk, hc]
    · rfl
  creations := by
    have hcreation := h.creations jobID _ hc
    exact forall_put h.creations hcreation
  executions := h.executions

/-! ## Steps of an execution -/

lemma markRunning (hjob : s.db.jobs.get? jobID = some job) (hlink : job.workflowID = some id)
    (hopen : job.status.terminal = false) :
    JobsAttended (fun jobID => (s.creations.get? jobID).isSome)
        (updateBackupJobStatus jobID .running s.db) ∧
      JobsEnd s.db.jobs (updateBackupJobStatus jobID .running s.db).jobs := by
  have heq := updateBackupJobStatus_eq hjob .running
  refine h.jobs.setStatus (step_updateBackupJobStatus hjob .running) .running hjob (by rw [heq])
    (by rw [heq]) (fun id' w hid hw => ⟨fun _ => ?_, nofun⟩) (fun hended => ?_)
    (fun hnone => ?_) (fun k _ => Iff.rfl) fun hself => ⟨hself, nofun⟩
  · obtain ⟨v, hv, -, hlive, -⟩ := h.jobs.workflow jobID job id' hjob hid
    obtain rfl := mem_unique hv hw
    exact hlive hopen
  · simp [hended] at hopen
  · simp [hnone] at hlink

lemma cancel (he : s.executions.get? key = some e) (hstage : e.stage = .aborted) :
    JobsAttended (fun jobID => (s.creations.get? jobID).isSome)
        (perform s.db (.cancelSnapshotWorkflow e.workflowID)) ∧
      JobsEnd s.db.jobs (perform s.db (.cancelSnapshotWorkflow e.workflowID)).jobs := by
  obtain ⟨job, hjob, hlink, hended⟩ := h.executions key e he
  rcases perform_eq s.db (.cancelSnapshotWorkflow e.workflowID) with hsame | hstep
  · rw [hsame]
    exact ⟨h.jobs, .refl _⟩
  have hcommit := step_eq_some.mp hstep
  obtain ⟨-, hcommit⟩ := of_ite_error hcommit
  have heq := pure_eq_ok.mp hcommit
  refine h.jobs.cancel (fun k j hj hj' => ?_) hstep (by rw [← heq]) (by rw [← heq])
  obtain rfl := h.jobs.unique k e.jobID j job e.workflowID hj hjob hj' hlink
  obtain rfl := mem_unique hj hjob
  exact hended hstage

/-! ## Every step -/

lemma claim {now : Time} (hclaim : claimWorkflow workflowID now s.db = some db') :
    JobsAttended (fun jobID => (s.creations.get? jobID).isSome) db' ∧
      JobsEnd s.db.jobs db'.jobs := by
  obtain rfl | hstep := (of_claimWorkflow hclaim).2
  · exact ⟨h.jobs, .refl _⟩
  · exact h.jobs.after_act rfl rfl hstep

/-- **The jobs stay attended to**, by every step that meets the condition, and a job that has ended
stays so. -/
theorem after_step {act : BackupAct} (hcond : attendsToJobs s act)
    (hstep : backupStep s act = some s') : s'.Sound ∧ JobsEnd s.db.jobs s'.db.jobs := by
  cases act with
  | store act =>
    obtain ⟨hact, hstep⟩ := ite_none_left_eq_some.mp hstep
    obtain ⟨db', hdb', rfl⟩ := map_eq_some_iff.mp hstep
    have hafter := h.jobs.after_act ((Bool.not_eq_true _).mp hact) hcond hdb'
    exact ⟨h.tables hafter, hafter.2⟩
  | createJob p =>
    obtain ⟨⟨hrequest, hfresh⟩, rfl⟩ := of_guarded hstep
    exact h.createJob hrequest hfresh
  | createWorkflow jobID =>
    simp only [backupStep] at hstep
    split at hstep
    next p hc =>
      split at hstep
      next db' hdb' =>
        cases hstep
        obtain ⟨-, hend, hsound⟩ := h.createWorkflow hc hdb'
        exact ⟨hsound, hend⟩
      · cases hstep
        exact ⟨h.refuse hc, .refl _⟩
    · cases hstep
  | closeJob jobID =>
    simp only [backupStep] at hstep
    split at hstep
    next p hc =>
      cases hstep
      obtain ⟨-, hend, hsound⟩ := h.closeJob hc
      exact ⟨hsound, hend⟩
    · cases hstep
  | abandon jobID =>
    cases hstep
    refine ⟨⟨h.jobs.forget (fun k hk => (isSome_forget.mp hk).1) fun k job hk hgone hjob => ?_,
      forall_delete h.creations, h.executions⟩, .refl _⟩
    obtain rfl : k = jobID := by
      by_contra hne
      exact hgone (isSome_forget.mpr ⟨hk, hne⟩)
    simp only [attendsToJobs, hjob, all_some] at hcond
    exact hcond
  | load key workflowID now =>
    simp only [backupStep, bind_eq_bind, bind_eq_some_iff, pure_def, some.injEq] at hstep
    obtain ⟨db', hclaim, e, hload, jobID, hjobID, rfl⟩ := hstep
    have hclaimed := h.claim hclaim
    exact ⟨(h.tables hclaimed).putExecution (job_of_loadExecution hload hjobID), hclaimed.2⟩
  | confirmPrepared key =>
    obtain ⟨e, he, hstage, ⟨⟩⟩ := of_bind_guarded hstep
    obtain ⟨job, hjob, hlink, -⟩ := h.executions key e he
    exact ⟨h.putExecution ⟨job, hjob, hlink, nofun⟩, .refl _⟩
  | markRunning key =>
    obtain ⟨e, he, hstage, ⟨⟩⟩ := of_bind_guarded hstep
    obtain ⟨job, hjob, hlink, -⟩ := h.executions key e he
    simp only [attendsToJobs, he, hjob, all_some, Bool.not_eq_true'] at hcond
    have hset := h.markRunning hjob hlink hcond
    obtain ⟨job', hjob', hlink', -⟩ := h.executions_after hset.2 key e he
    exact ⟨(h.tables hset).putExecution ⟨job', hjob', hlink', nofun⟩, hset.2⟩
  | readAborted key =>
    obtain ⟨e, he, hstep⟩ := bind_eq_some_iff.mp hstep
    obtain ⟨job, hjob, haborted, ⟨⟩⟩ := of_bind_guarded hstep
    obtain ⟨job', hjob', hlink, -⟩ := h.executions key e he
    obtain rfl := mem_unique hjob' hjob
    exact ⟨h.putExecution ⟨job', hjob', hlink, fun _ => by rw [haborted]; rfl⟩, .refl _⟩
  | cancel key =>
    obtain ⟨e, he, hstage, ⟨⟩⟩ := of_bind_guarded hstep
    have hcancelled := h.cancel he hstage
    exact ⟨(h.tables hcancelled).dropExecution key, hcancelled.2⟩
  | release key =>
    cases hstep
    exact ⟨h.dropExecution key, .refl _⟩
  | crash =>
    cases hstep
    refine ⟨⟨h.jobs.forget (fun k hk => ?_) fun k job hk _ hjob => ?_, ?_, ?_⟩, .refl _⟩
    · dsimp only at hk
      cases hk
    · obtain ⟨c, hc⟩ := isSome_iff_exists.mp hk
      rw [attendsToJobs] at hcond
      have hended := all_eq_true.mp hcond k c hc
      rwa [hjob] at hended
    · rintro k c ⟨⟩
    · rintro k e ⟨⟩

lemma after_run (hmeets : Meets backupStep (fun s a => attendsToJobs s a) s acts)
    (hrun : run backupStep s acts = some s') : s'.Sound ∧ JobsEnd s.db.jobs s'.db.jobs := by
  refine run_invariant_of_meets (P := fun t => t.Sound ∧ JobsEnd s.db.jobs t.db.jobs)
    (fun t a u ht hcond hstep => ?_) ⟨h, .refl _⟩ hmeets hrun
  obtain ⟨hsound, hend⟩ := ht.1.after_step hcond hstep
  exact ⟨hsound, ht.2.trans hend⟩

/-! ## No dead backup in the way -/

lemma attended (hjob : s.db.jobs.get? jobID = some job) (hopen : job.status.terminal = false) :
    HasLiveWorkflow s.db job ∨ EndedByCreator s jobID := by
  cases hlink : job.workflowID with
  | some id =>
    obtain ⟨w, hw, htype, hlive, -⟩ := h.jobs.workflow jobID job id hjob hlink
    exact .inl ⟨id, w, hlink, hw, htype, hlive hopen⟩
  | none =>
    obtain ⟨⟨p, refused⟩, hc⟩ :=
      isSome_iff_exists.mp (h.jobs.unlinked jobID job hjob hlink hopen)
    refine .inr ?_
    have hclose : ∀ t : Backups, t.Sound → t.creations.get? jobID = some ⟨p, true⟩ →
        ∃ t' job', backupStep t (.closeJob jobID) = some t' ∧ t'.db.jobs.get? jobID = some job' ∧
          job'.status.terminal := by
      intro t ht htc
      obtain ⟨⟨job', hjob', hended⟩, -⟩ := ht.closeJob htc
      exact ⟨{ t with
        db := updateBackupJobStatus jobID .failed t.db
        creations := t.creations.delete fun k _ => k = jobID }, job',
        by simp only [backupStep, htc], hjob', hended⟩
    cases refused with
    | true =>
      obtain ⟨t', job', hstep, hjob', hended⟩ := hclose s h hc
      exact ⟨[.closeJob jobID], t', job', by simp, run_cons_eq_some.mpr
        ⟨t', hstep, run_nil _⟩, hjob',
        .inl hended⟩
    | false =>
      cases hstep : step s.db (.createSnapshotWorkflow p) with
      | some db' =>
        obtain ⟨⟨job', hjob', hlive⟩, -⟩ := h.createWorkflow hc hstep
        refine ⟨[.createWorkflow jobID],
          { s with db := db', creations := s.creations.delete fun k _ => k = jobID }, job', by simp,
          run_cons_eq_some.mpr ⟨_, ?_, run_nil _⟩, hjob', .inr hlive⟩
        simp only [backupStep, hc, hstep]
      | none =>
        obtain ⟨t', job', hclosed, hjob', hended⟩ := hclose _ (h.refuse hc) (get?_put_self ..)
        refine ⟨[.createWorkflow jobID, .closeJob jobID], t', job', by simp,
          run_cons_eq_some.mpr ⟨_, ?_, run_cons_eq_some.mpr ⟨t', hclosed, run_nil _⟩⟩, hjob',
          .inl hended⟩
        simp only [backupStep, hc, hstep]

lemma abortOnLogin (node : NodeID) : ∃ db', Controller.abortOnLogin node s.db = .ok db' := by
  rw [Controller.abortOnLogin]
  split
  · exact ⟨_, rfl⟩
  next jobID job hfound =>
    obtain ⟨hjob, -, hopen⟩ := of_findRunningBackup hfound
    refine abort_commits hjob hopen fun id hlink => ?_
    obtain ⟨w, hw, -, hlive, -⟩ := h.jobs.workflow jobID job id hjob hlink
    rw [hw]
    exact hlive hopen

end Backups.Sound

/-- **No dead backup blocks its user**, in every run in which no creation is cut between its two
transactions, no ended job is marked as running, and no report about writes in independent mode
cancels the workflow of an open job.  A job that has ended stays so; a job that has not ended has a
live snapshot workflow or is ended, or given one, by its creator; what a login finds on a node can
be aborted, and what makes the scan skip the user is attended to. -/
theorem dead_backups_never_block {acts later : List BackupAct} (hfresh : s₀.Fresh)
    (hmeets : Meets backupStep (fun s a => attendsToJobs s a = true) s₀ (acts ++ later))
    (hrun : run backupStep s₀ acts = some s) (hlater : run backupStep s later = some s') :
    (∀ jobID job, s.db.jobs.get? jobID = some job → job.status.terminal = true →
      ∃ job', s'.db.jobs.get? jobID = some job' ∧ job'.status.terminal = true) ∧
    (∀ jobID job, s'.db.jobs.get? jobID = some job → job.status.terminal = false →
      HasLiveWorkflow s'.db job ∨ EndedByCreator s' jobID) ∧
    (∀ node, ∃ db', abortOnLogin node s'.db = .ok db') ∧
    ∀ node, scanSkips node s'.db = true → ∃ jobID job, s'.db.jobs.get? jobID = some job ∧
      job.status.terminal = false ∧ (HasLiveWorkflow s'.db job ∨ EndedByCreator s' jobID) := by
  obtain ⟨hmeets, hmeets'⟩ := meets_append.mp hmeets
  have hsound := (hfresh.sound.after_run hmeets hrun).1
  obtain ⟨hsound', hend⟩ := hsound.after_run (hmeets' s hrun) hlater
  refine ⟨fun k j hj hended => ?_, fun k j hj hopen => hsound'.attended hj hopen,
    hsound'.abortOnLogin, fun node hskips => ?_⟩
  · obtain ⟨j', hj', hstays, -⟩ := hend k j hj
    exact ⟨j', hj', hstays hended⟩
  · obtain ⟨⟨k, j⟩, hfound⟩ := isSome_iff_exists.mp hskips
    obtain ⟨hj, -, hopen⟩ := of_findRunningBackup hfound
    exact ⟨k, j, hj, hopen, hsound'.attended hj hopen⟩

def sampleBackups : Backups := ⟨sampleDb, ∅, ∅⟩

lemma sampleBackups_fresh : sampleBackups.Fresh := ⟨sampleDb_registered.toFresh, rfl, rfl⟩

/-- A backup from node `1` to node `3`. -/
def sampleBackup : CreateSnapshotWorkflowParams where
  workflowID := 50
  operationID := 50
  snapshotID := 50
  capabilityID := 50
  capabilityHash := 50
  capabilityExpires := 1100
  sourceNodeID := 1
  targetNodeID := 3
  destinationKind := .archive
  relay := false
  request := .ordinary 50
  now := 1000

def preparedBackup : List BackupAct :=
  [ .createJob sampleBackup, .createWorkflow 50, .load 0 50 1001, .confirmPrepared 0 ]

def abortAfterRunning : List BackupAct :=
  [ .markRunning 0, .store (.abortBackupJobAndSnapshotWorkflow 50) ]

theorem dead_backups_never_block_sample :
    ∃ s s', run backupStep sampleBackups preparedBackup = some s ∧
      run backupStep s abortAfterRunning = some s' ∧
      (∃ job, s'.db.jobs.get? 50 = some job ∧ job.status = .aborted) ∧
      ∀ node, ∃ db', abortOnLogin node s'.db = .ok db' := by
  refine ⟨(run backupStep sampleBackups preparedBackup).getD sampleBackups,
    (run backupStep sampleBackups (preparedBackup ++ abortAfterRunning)).getD
    sampleBackups, rfl, rfl,
    ⟨{ srcNodeID := 1, dstNodeID := 3, status := .aborted, workflowID := some 50 }, by
      decide +kernel,
      rfl⟩, ?_⟩
  have hmeets : Meets backupStep (fun s a => attendsToJobs s a) sampleBackups
      (preparedBackup ++ abortAfterRunning) := by decide +kernel
  exact (dead_backups_never_block sampleBackups_fresh hmeets rfl rfl).2.2.1

/-! ## Jobs that stay in the way -/

lemma job_untouched {act : Act} (hjob : db.jobs.get? jobID = some job)
    (hdead : ∀ id, job.workflowID = some id → ∃ w, db.workflows.get? id = some w ∧
      w.state = .cancelled)
    (habort : act = .abortBackupJobAndSnapshotWorkflow jobID → job.workflowID ≠ none)
    (hact : act.ofBackups = false) (hstep : step db act = some db') :
    db'.jobs.get? jobID = some job := by
  have hcommit := step_eq_some.mp hstep
  -- a statement that writes the job of a live workflow passes this one over
  have hunlinked : ∀ {id : UUID} {w : Workflow}, db.workflows.get? id = some w →
      w.state ≠ .cancelled → job.workflowID ≠ some id := by
    intro id w hw hstate hlink
    obtain ⟨v, hv, hcancelled⟩ := hdead id hlink
    exact hstate (mem_unique hw hv ▸ hcancelled)
  have hne : ∀ {k : ℤ}, db.jobs.get? k = none → jobID ≠ k := by
    rintro k hk rfl
    simp [hjob] at hk
  cases act with
  | createSnapshotWorkflow p =>
    obtain ⟨generation, accounts, hp, rfl⟩ := createSnapshotWorkflow_commit db' hcommit
    have hfits := hp.fitsJob
    cases hrequest : p.request with
    | ordinary | independent =>
      rw [Act.ofBackups, hrequest] at hact
      cases hact
    | retirement itemID k =>
      rw [hrequest] at hfits
      dsimp only [insertSnapshotWorkflow]
      rw [hrequest]
      exact (get?_put_of_ne (hne (isNone_iff_eq_none.mp hfits))).trans hjob
  | claimAndCreateStorageRepair p =>
    obtain ⟨generation, hp, rfl⟩ := claimAndCreateStorageRepair_commit db' hcommit
    have hfresh := hne hp.newJob
    exact (get?_modify_of_ne hfresh).trans ((get?_put_of_ne hfresh).trans hjob)
  | resetRecoveredSnapshotWorkflow id now =>
    obtain ⟨w, hw, hcommit⟩ := of_need hcommit
    obtain ⟨found, -, hcommit⟩ := of_need hcommit
    obtain ⟨⟨-, -, -, hlive⟩, hcommit⟩ := of_require hcommit
    have hother := hunlinked hw fun hs => by rw [hs] at hlive; cases hlive
    split at hcommit
    · cases hcommit
      exact hjob
    · cases hcommit
      rw [get?_setUnfinished, hjob, map_some, if_neg hother]
  | completeSnapshotWorkflow p =>
    obtain ⟨-, hcommit⟩ := of_ite_error hcommit
    obtain ⟨w, hw, ⟨-, rfl⟩ | ⟨hpublishing, rfl⟩⟩ := completeSnapshotWorkflow_commit db' hcommit
    · exact hjob
    · have hother := hunlinked hw fun hs => by rw [hpublishing] at hs; cases hs
      dsimp only [publishSnapshot]
      rw [get?_update, hjob, map_some, decide_eq_false hother]
      rfl
  | failSnapshotWorkflow id now =>
    obtain ⟨-, hcommit⟩ := of_ite_error hcommit
    obtain ⟨w, hw, hcommit⟩ := of_need hcommit
    obtain ⟨⟨-, hstate⟩, ⟨⟩⟩ := of_require hcommit
    rw [get?_setUnfinished, hjob, map_some, if_neg (hunlinked hw hstate)]
  | abortBackupJobAndSnapshotWorkflow k =>
    obtain ⟨j, hj, hcommit⟩ := of_need hcommit
    obtain ⟨-, hcommit⟩ := of_require hcommit
    by_cases hk : jobID = k
    · subst hk
      obtain rfl := mem_unique hjob hj
      split at hcommit
      next hnone => exact absurd hnone (habort rfl)
      next id hlink =>
        obtain ⟨hlive, -⟩ := of_require hcommit
        obtain ⟨w, hw, hcancelled⟩ := hdead id hlink
        rw [hw, all_some, hcancelled] at hlive
        cases hlive
    · split at hcommit
      · cases hcommit
        exact (get?_put_of_ne hk).trans hjob
      · obtain ⟨-, ⟨⟩⟩ := of_require hcommit
        exact (get?_put_of_ne hk).trans hjob
  | cancelSnapshotWorkflow => cases hact
  | environment w =>
    cases w with
    | job => cases hact
    | _ => rw [jobs_kept rfl db' hcommit, hjob]
  | _ => rw [jobs_kept rfl db' hcommit, hjob]

/-- An open job of the node that nobody attends to: its workflow was cancelled, or it has none and
its creator is gone. -/
structure Abandoned (node : NodeID) (jobID : ℤ) (link : Option UUID) (s : Backups) : Prop where
  linked : s.db.WellLinked
  creations : ∀ k c, s.creations.get? k = some c →
    c.params.request.isRetirement = false ∧ c.params.request.jobID = k
  creator : s.creations.get? jobID = none
  job : ∃ job, s.db.jobs.get? jobID = some job ∧ job.srcNodeID = node ∧ job.workflowID = link ∧
    job.status.terminal = false
  workflow : ∀ id, link = some id → ∃ w, s.db.workflows.get? id = some w ∧
    w.workflowType = .snapshot ∧ w.state = .cancelled
  executions : link = none → ∀ key e, s.executions.get? key = some e → e.jobID ≠ jobID

variable {node : NodeID} {link : Option UUID}

variable {act : Act} {k : ℤ} {c : Creation}

section

variable (h : Abandoned node jobID link s)
include h

namespace Abandoned

lemma tables (hstep : step s.db act = some db')
    (hjob : ∃ job, db'.jobs.get? jobID = some job ∧ job.srcNodeID = node ∧ job.workflowID = link ∧
      job.status.terminal = false) : Abandoned node jobID link { s with db := db' } :=
  { h with
    linked := (step_committed hstep).wellLinked h.linked, job := hjob
    workflow := by
      intro id hid
      obtain ⟨w, hw, htype, hcancelled⟩ := h.workflow id hid
      have hnot : w.workflowType ≠ .conflictResolution := by rw [htype]; decide
      obtain ⟨w', hw', hcontinues⟩ := continues_of_step hstep h.linked.resolutions hw hnot
      have hended : w.state.live = false := by rw [hcancelled]; rfl
      exact ⟨w', hw', hcontinues.type.trans htype, (hcontinues.ended hended).trans hcancelled⟩ }

lemma keep (hstep : step s.db act = some db') (hkept : db'.jobs.get? jobID = s.db.jobs.get? jobID) :
    Abandoned node jobID link { s with db := db' } :=
  h.tables hstep (by rw [hkept]; exact h.job)

lemma store (hact : act.ofBackups = false)
    (habort : link = none → act ≠ .abortBackupJobAndSnapshotWorkflow jobID)
    (hstep : step s.db act = some db') : Abandoned node jobID link { s with db := db' } := by
  obtain ⟨job, hjob, hnode, hlink, hopen⟩ := h.job
  refine h.keep hstep ((job_untouched hjob (fun id hid => ?_) (fun heq hnone => ?_) hact
    hstep).trans
    hjob.symm)
  · obtain ⟨w, hw, -, hcancelled⟩ := h.workflow id (hlink.symm.trans hid)
    exact ⟨w, hw, hcancelled⟩
  · exact habort (hlink.symm.trans hnone) heq

lemma setStatus (k : ℤ) (status : BackupJobStatus) (hstatus : k = jobID → status.terminal = false) :
    Abandoned node jobID link { s with db := updateBackupJobStatus k status s.db } := by
  cases hk : s.db.jobs.get? k with
  | none =>
    rwa [updateBackupJobStatus, hk]
  | some j =>
    refine h.tables (step_updateBackupJobStatus hk status) ?_
    obtain ⟨job, hjob, hnode, hlink, hopen⟩ := h.job
    rw [updateBackupJobStatus_eq hk]
    by_cases hself : k = jobID
    · subst hself
      obtain rfl := mem_unique hjob hk
      exact ⟨{ job with status }, get?_put_self .., hnode, hlink, hstatus rfl⟩
    · exact ⟨job, (get?_put_of_ne (Ne.symm hself)).trans hjob, hnode, hlink, hopen⟩

lemma putCreation (hne : jobID ≠ k) (hrequest : c.params.request.isRetirement = false)
    (hkey : c.params.request.jobID = k) :
    Abandoned node jobID link { s with creations := s.creations.put k c } :=
  { h with
    creations := forall_put h.creations ⟨hrequest, hkey⟩
    creator := (get?_put_of_ne hne).trans h.creator }

lemma forget (k : ℤ) :
    Abandoned node jobID link { s with creations := s.creations.delete fun k' _ => k' = k } :=
  { h with
    creations := forall_delete h.creations
    creator := by
      rw [get?_delete, h.creator]
      rfl }

lemma putExecution (he : link = none → e.jobID ≠ jobID) :
    Abandoned node jobID link { s with executions := s.executions.put key e } :=
  { h with executions := fun hnone => forall_put (h.executions hnone) (he hnone) }

lemma dropExecution (key : ℕ) : Abandoned node jobID link
      { s with executions := s.executions.delete fun k _ => k = key } :=
  { h with executions := fun hnone => forall_delete (h.executions hnone) }

lemma ne_of_creation (hc : s.creations.get? k = some c) : jobID ≠ k := by
  rintro rfl
  simp [h.creator] at hc

lemma createWorkflow (hc : s.creations.get? k = some c)
    (hstep : step s.db (.createSnapshotWorkflow c.params) = some db') :
    Abandoned node jobID link { s with db := db' } := by
  obtain ⟨hrequest, hkey⟩ := h.creations k c hc
  have hne := h.ne_of_creation hc
  refine h.keep hstep ?_
  obtain ⟨generation, accounts, -, rfl⟩ :=
    createSnapshotWorkflow_commit db' (step_eq_some.mp hstep)
  dsimp only [insertSnapshotWorkflow]
  subst hkey
  cases hr : c.params.request with
  | retirement =>
    rw [hr] at hrequest
    cases hrequest
  | ordinary | independent =>
    rw [hr] at hne
    exact get?_modify_of_ne hne

lemma claim {now : Time} (hclaim : claimWorkflow workflowID now s.db = some db') :
    Abandoned node jobID link { s with db := db' } := by
  obtain rfl | hstep := (of_claimWorkflow hclaim).2
  · exact h
  · refine h.keep hstep ?_
    rw [jobs_kept rfl _ (step_eq_some.mp hstep)]

/-- **No step attends to an abandoned job**, except the abort of a job that never had a workflow. -/
theorem after_step {act : BackupAct}
    (habort : link = none → act ≠ .store (.abortBackupJobAndSnapshotWorkflow jobID))
    (hstep : backupStep s act = some s') : Abandoned node jobID link s' := by
  cases act with
  | store act =>
    obtain ⟨hact, hstep⟩ := ite_none_left_eq_some.mp hstep
    obtain ⟨db', hdb', rfl⟩ := map_eq_some_iff.mp hstep
    exact h.store ((Bool.not_eq_true _).mp hact) (fun hnone heq => habort hnone (by rw [heq])) hdb'
  | createJob p =>
    obtain ⟨⟨hrequest, hfresh⟩, rfl⟩ := of_guarded hstep
    have hne : jobID ≠ p.request.jobID := by
      rintro rfl
      obtain ⟨job, hjob, -⟩ := h.job
      simp [hfresh] at hjob
    exact (h.keep step_createBackupJob (get?_put_of_ne hne)).putCreation hne hrequest rfl
  | createWorkflow k =>
    simp only [backupStep] at hstep
    split at hstep
    next p hc =>
      split at hstep
      next db' hdb' =>
        cases hstep
        exact (h.createWorkflow hc hdb').forget k
      · cases hstep
        have hcreation := h.creations k _ hc
        exact h.putCreation (h.ne_of_creation hc) hcreation.1 hcreation.2
    · cases hstep
  | closeJob k =>
    simp only [backupStep] at hstep
    split at hstep
    next p hc =>
      cases hstep
      have hset := h.setStatus k .failed fun hk => absurd hk.symm (h.ne_of_creation hc)
      exact hset.forget k
    · cases hstep
  | abandon k =>
    cases hstep
    exact h.forget k
  | load key workflowID now =>
    simp only [backupStep, bind_eq_bind, bind_eq_some_iff, pure_def, some.injEq] at hstep
    obtain ⟨db', hclaim, e, hload, k, hk, rfl⟩ := hstep
    have hclaimed := h.claim hclaim
    refine hclaimed.putExecution fun hnone hself => ?_
    -- what an execution reads has a workflow
    obtain ⟨job, hjob, -, hlink, -⟩ := hclaimed.job
    obtain ⟨job', hjob', hlink', -⟩ := job_of_loadExecution hload hk
    subst hself
    rw [hjob] at hjob'
    cases hjob'
    simp [hlink, hnone] at hlink'
  | confirmPrepared key =>
    obtain ⟨e, he, -, ⟨⟩⟩ := of_bind_guarded hstep
    exact h.putExecution fun hnone => h.executions hnone key e he
  | markRunning key =>
    obtain ⟨e, he, -, ⟨⟩⟩ := of_bind_guarded hstep
    have hset := h.setStatus e.jobID .running fun _ => rfl
    exact hset.putExecution fun hnone => h.executions hnone key e he
  | readAborted key =>
    obtain ⟨e, he, hstep⟩ := bind_eq_some_iff.mp hstep
    obtain ⟨job, -, -, ⟨⟩⟩ := of_bind_guarded hstep
    exact h.putExecution fun hnone => h.executions hnone key e he
  | cancel key =>
    obtain ⟨e, he, -, ⟨⟩⟩ := of_bind_guarded hstep
    have hcancelled : Abandoned node jobID link
        { s with db := perform s.db (.cancelSnapshotWorkflow e.workflowID) } := by
      rcases perform_eq s.db (.cancelSnapshotWorkflow e.workflowID) with hsame | hcancel
      · rwa [hsame]
      · refine h.keep hcancel ?_
        have hjobs := jobs_kept rfl _ (step_eq_some.mp hcancel)
        rw [hjobs]
    exact hcancelled.dropExecution key
  | release key =>
    cases hstep
    exact h.dropExecution key
  | crash =>
    cases hstep
    exact { h with
      creations := fun k c hc => by simp at hc
      creator := get?_empty _
      executions := fun _ k e he => by simp at he }

end Abandoned

end

/-- The job is open without a live workflow, so the scan skips the user, and it cannot be aborted,
so a login that finds it is refused. -/
def InTheWay (node : NodeID) (jobID : ℤ) (db : Db) : Prop :=
  (∃ job, db.jobs.get? jobID = some job ∧ job.status.terminal = false ∧ ¬ HasLiveWorkflow db job) ∧
  scanSkips node db ∧
  (∀ db', abortBackupJobAndSnapshotWorkflow jobID db ≠ .ok db') ∧
  ∀ job, findRunningBackup node db = some (jobID, job) → ∀ db', abortOnLogin node db ≠ .ok db'

lemma Abandoned.skipped (h : Abandoned node jobID link s) :
    (∃ job, s.db.jobs.get? jobID = some job ∧ job.status.terminal = false ∧
      ¬ HasLiveWorkflow s.db job) ∧ scanSkips node s.db := by
  obtain ⟨job, hjob, hnode, hlink, hopen⟩ := h.job
  refine ⟨⟨job, hjob, hopen, ?_⟩, isSome_findRunningBackup hjob hnode hopen⟩
  rintro ⟨id, w, hid, hw, -, hlive⟩
  obtain ⟨v, hv, -, hcancelled⟩ := h.workflow id (hlink.symm.trans hid)
  obtain rfl := mem_unique hv hw
  rw [hcancelled] at hlive
  cases hlive

lemma Abandoned.inTheWay (h : Abandoned node jobID (some id) s) : InTheWay node jobID s.db := by
  have hrefused : ∀ db', abortBackupJobAndSnapshotWorkflow jobID s.db ≠ .ok db' := by
    intro db' hcommit
    obtain ⟨job, hjob, -, hlink, -⟩ := h.job
    obtain ⟨w, hw, -, hcancelled⟩ := h.workflow id rfl
    obtain ⟨j, hj, hcommit⟩ := of_need hcommit
    obtain rfl := mem_unique hjob hj
    obtain ⟨-, hcommit⟩ := of_require hcommit
    simp only [hlink] at hcommit
    obtain ⟨hlive, -⟩ := of_require hcommit
    rw [hw, all_some, hcancelled] at hlive
    cases hlive
  refine ⟨h.skipped.1, h.skipped.2, hrefused, fun job hfound db' hcommit => ?_⟩
  rw [abortOnLogin, hfound] at hcommit
  exact hrefused db' hcommit

lemma Abandoned.inTheWay_after_run (h : Abandoned node jobID (some id) s)
    (hrun : run backupStep s later = some s') : InTheWay node jobID s'.db := by
  have hinv := run_invariant (P := Abandoned node jobID (some id))
    (fun t a u ht hstep => ht.after_step nofun hstep) h hrun
  exact hinv.inTheWay

lemma Abandoned.skipped_after_run (h : Abandoned node jobID none s)
    (habort : ∀ act ∈ later, act ≠ .store (.abortBackupJobAndSnapshotWorkflow jobID))
    (hrun : run backupStep s later = some s') :
    (∃ job, s'.db.jobs.get? jobID = some job ∧ job.status.terminal = false ∧
      ¬ HasLiveWorkflow s'.db job) ∧ scanSkips node s'.db := by
  have hinv := run_invariant_of_meets (P := Abandoned node jobID none)
    (fun _ _ _ ht hact hstep => ht.after_step (fun _ => hact) hstep) h
    (meets_of_forall habort s) hrun
  exact hinv.skipped

def runningAfterAbort : List BackupAct :=
  preparedBackup ++ [.store (.abortBackupJobAndSnapshotWorkflow 50), .markRunning 0]

/-- Node `1` reports writes in independent mode, a snapshot of them is created, and the node reports
again under another marker. -/
def reportedAgain : List BackupAct :=
  [ .store (.environment (.node 1 { sampleCompute with
      controlMode := .independentDraining, desiredControlMode := .independentDraining })),
    .store (.recordIndependentSyncFact 70 1 "user" 71 1),
    .createJob { sampleBackup with request := .independent 70 71 50 },
    .createWorkflow 50,
    .store (.recordIndependentSyncFact 72 1 "user" 73 1) ]

def crashedCreation : List BackupAct := [.createJob sampleBackup, .crash]

def backupsAfter (acts : List BackupAct) : Backups :=
  (run backupStep sampleBackups acts).getD sampleBackups

lemma abandoned_after (hidle : (backupsAfter acts).db.liveWorkflow = false)
    (hresolutions : (backupsAfter acts).db.resolutions = ∅)
    (hrestores : (backupsAfter acts).db.restores = ∅)
    (hcreations : (backupsAfter acts).creations = ∅)
    (hexecutions : link = none → (backupsAfter acts).executions = ∅)
    (hjob : ((backupsAfter acts).db.jobs.get? jobID).any fun job =>
      job.srcNodeID = node && job.workflowID = link && !job.status.terminal)
    (hworkflow : link.all fun id => ((backupsAfter acts).db.workflows.get? id).any fun w =>
      w.workflowType = .snapshot && w.state = .cancelled) :
    Abandoned node jobID link (backupsAfter acts) where
  linked :=
    { oneLive := fun id id' w w' hw _ hlive => by simp [any_eq_false.mp hidle id w hw] at hlive
      resolutions := fun id o ho => by simp [hresolutions] at ho
      restores := fun id o ho => by simp [hrestores] at ho }
  creations := fun k c hc => by simp [hcreations] at hc
  creator := by simp [hcreations]
  job := by simpa [Option.any_eq_true, and_assoc] using hjob
  workflow := by
    rintro id rfl
    simpa [Option.any_eq_true] using hworkflow
  executions := fun hnone k e he => by simp [hexecutions hnone] at he

/-- **A dead backup can block its user for good.**  A job that was aborted becomes running again
when the execution that overlapped the abort goes on, and from then on nothing ends it; the workflow
of a job is cancelled by a report about writes in independent mode, and the same holds; and a job
whose creator crashed before its workflow was there makes the scan skip the user until a login
aborts it. -/
theorem dead_backups_block :
    (((backupsAfter (preparedBackup ++
      [.store (.abortBackupJobAndSnapshotWorkflow 50)])).db.jobs.get?
        50).map (·.status) = some .aborted ∧
      run backupStep sampleBackups runningAfterAbort = some (backupsAfter runningAfterAbort) ∧
      (findRunningBackup 1 (backupsAfter runningAfterAbort).db).map (·.1) = some 50 ∧
      ∀ later s', run backupStep (backupsAfter runningAfterAbort) later = some s' →
        InTheWay 1 50 s'.db) ∧
    (run backupStep sampleBackups reportedAgain = some (backupsAfter reportedAgain) ∧
      (findRunningBackup 1 (backupsAfter reportedAgain).db).map (·.1) = some 50 ∧
      ∀ later s', run backupStep (backupsAfter reportedAgain) later = some s' →
        InTheWay 1 50 s'.db) ∧
    run backupStep sampleBackups crashedCreation = some (backupsAfter crashedCreation) ∧
      ∀ later s', run backupStep (backupsAfter crashedCreation) later = some s' →
        (∀ act ∈ later, act ≠ .store (.abortBackupJobAndSnapshotWorkflow 50)) →
        (∃ job, s'.db.jobs.get? 50 = some job ∧ job.status.terminal = false ∧
          ¬ HasLiveWorkflow s'.db job) ∧ scanSkips 1 s'.db = true := by
  refine ⟨⟨by decide +kernel, rfl, by decide +kernel, fun later s' hrun => ?_⟩,
    ⟨rfl, by decide +kernel, fun later s' hrun => ?_⟩, rfl, fun later s' hrun hlater => ?_⟩
  · have h : Abandoned 1 50 (some 50) (backupsAfter runningAfterAbort) :=
      abandoned_after rfl rfl rfl rfl nofun (by decide +kernel) (by decide +kernel)
    exact h.inTheWay_after_run hrun
  · have h : Abandoned 1 50 (some 50) (backupsAfter reportedAgain) :=
      abandoned_after rfl rfl rfl rfl nofun (by decide +kernel) (by decide +kernel)
    exact h.inTheWay_after_run hrun
  · have h : Abandoned 1 50 none (backupsAfter crashedCreation) :=
      abandoned_after rfl rfl rfl rfl (fun _ => rfl) (by decide +kernel) rfl
    exact h.skipped_after_run hlater hrun

end StControl.Controller
