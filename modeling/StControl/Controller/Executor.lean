import StControl.Store.Transitions

/-!
# Executions of workflows

The reconcilers of the controller claim a live workflow, read it into memory and carry it out by
commands to the agents.  When a step fails, the execution asks the store for a retry: the attempt
counter goes up, the transfer capability is revoked, and the workflow waits.  When the counter has
reached its limit the execution ends the workflow as failed.

An `Execution` is what stays in memory between these transactions.  Every transaction is one of the
store's (`Act`), so what holds of every store transaction holds of the executions as well;
`perform` is a transaction whose error the caller drops.
-/

namespace StControl.Controller

open Store Run Transaction Option

variable {delay : Duration}

/-! ## The retry functions -/

/-- `Backup.RetryMax` of the configuration, how long a second is, and `relayAvailable`. -/
structure RetryConfig where
  retryMax : ℤ
  second : Duration
  second_pos : 0 < second
  relayAvailable : Bool

def RetryConfig.maxAttempts (c : RetryConfig) : WorkflowType → ℤ
  | .snapshot | .restore => if 0 < c.retryMax then c.retryMax else 3
  | .conflictResolution => if 0 < c.retryMax then max c.retryMax 5 else 5

/-- The delay before the next attempt: five seconds, doubled for each earlier attempt until it has
passed five minutes. -/
def RetryConfig.retryDelay (c : RetryConfig) : ℕ → Duration
  | 0 => 5 * c.second
  | n + 1 => if c.retryDelay n < 300 * c.second then 2 * c.retryDelay n else c.retryDelay n

structure Execution where
  workflowID : UUID
  workflowType : WorkflowType
  (attempt generationRecoveries : ℤ)
  jobID : Option ℤ
  deriving DecidableEq

/-- The attempts that do not count: those that a new controller generation has caused.  A restore
does not record any. -/
def Execution.uncounted (e : Execution) : ℤ :=
  match e.workflowType with
  | .restore => 0
  | .snapshot | .conflictResolution => e.generationRecoveries

def Execution.aborted (e : Execution) (db : Db) : Bool :=
  e.jobID.any fun jobID => (db.jobs.get? jobID).any fun j => j.status = .aborted

def perform (db : Db) (act : Act) : Db := (step db act).getD db

def Execution.failure (e : Execution) (now : Time) (db : Db) : Act :=
  match e.workflowType with
  | .snapshot =>
    if e.aborted db then .cancelSnapshotWorkflow e.workflowID
    else .failSnapshotWorkflow e.workflowID now
  | .restore => .failRestoreWorkflow e.workflowID now
  | .conflictResolution => .failConflictResolution e.workflowID

/-- `retrySnapshotWorkflow`, `retryRestoreWorkflow` and `retryConflictResolution`. -/
def retryWorkflow (c : RetryConfig) (e : Execution) (now : Time) (db : Db) : Db :=
  if e.aborted db then perform db (.cancelSnapshotWorkflow e.workflowID)
  else
    match step db (.scheduleSnapshotRetry e.workflowID now
        (c.retryDelay (e.attempt - e.uncounted).toNat)) with
    | none => db
    | some scheduled =>
      if (scheduled.workflows.get? e.workflowID).any fun w =>
          c.maxAttempts e.workflowType ≤ w.attempt - e.uncounted then
        perform scheduled (e.failure now scheduled)
      else scheduled

/-! ## Executions next to the store -/

def claimable (db : Db) (now : Time) (w : Workflow) : Bool :=
  w.state.live && db.isCurrent w && w.nextAttemptAt.all fun t => t ≤ now

def claimWorkflow (workflowID : UUID) (now : Time) (db : Db) : Option Db := do
  let w ← db.workflows.get? workflowID
  if claimable db now w then
    if w.state = .retryWait then step db (.resumeSnapshotRetry workflowID now) else some db
  else none

def executionJob (db : Db) (workflowID : UUID) : WorkflowType → Option (Option ℤ)
  | .snapshot => (db.jobs.find? fun _ j => j.workflowID = some workflowID).map fun j => some j.1
  | .restore => (db.restoreOperation workflowID).map fun _ => none
  | .conflictResolution => (db.resolutionOf workflowID).map fun _ => none

/-- `GetSnapshotWorkflowExecution` and its two siblings. -/
def loadExecution (workflowID : UUID) (db : Db) : Option Execution := do
  let w ← db.workflows.get? workflowID
  let jobID ← executionJob db workflowID w.workflowType
  return {
    workflowID, workflowType := w.workflowType
    attempt := w.attempt, generationRecoveries := w.generationRecoveries
    jobID }

/-- The store and the executions in memory.  `failed` records the workflow of every attempt that
has failed. -/
structure Executor where
  db : Db
  executions : Table ℕ Execution
  failed : List UUID

inductive Failure
  /-- A step failed: the execution asks for a retry. -/
  | step
  /-- The key of the controller does not give the capability: the workflow is given up. -/
  | keyMismatch
  /-- A completion or another statement was refused: the execution returns the error. -/
  | returned
  deriving DecidableEq

/-- A transaction of the store, or a step of the execution `key`. -/
inductive ExecutorAct
  | store (act : Act)
  /-- Claim the workflow, end its wait, and read it. -/
  | load (key : ℕ) (workflowID : UUID) (now : Time)
  /-- Read the workflow again, as after a rotation of its capability. -/
  | reload (key : ℕ)
  | fail (key : ℕ) (failure : Failure) (now : Time)
  /-- The execution is over without a failure, or the controller has crashed. -/
  | release (key : ℕ)

def Execution.afterFailure (c : RetryConfig) (e : Execution) (now : Time) (db : Db) :
    Failure → Db
  | .step => retryWorkflow c e now db
  | .keyMismatch => perform db (e.failure now db)
  | .returned => db

def Execution.isLatest (e : Execution) (db : Db) : Bool :=
  (db.workflows.get? e.workflowID).any fun w => w.state.live && w.attempt = e.attempt

def executorStep (c : RetryConfig) (s : Executor) : ExecutorAct → Option Executor
  | .store act => (step s.db act).map ({ s with db := · })
  | .load key workflowID now => do
    let db ← claimWorkflow workflowID now s.db
    let e ← loadExecution workflowID db
    return { s with db, executions := s.executions.put key e }
  | .reload key => do
    let e ← s.executions.get? key
    let e' ← loadExecution e.workflowID s.db
    return { s with executions := s.executions.put key e' }
  | .fail key failure now => do
    let e ← s.executions.get? key
    return {
      db := e.afterFailure c now s.db failure, executions := s.executions.delete fun k _ => k = key
      failed := if e.isLatest s.db then e.workflowID :: s.failed else s.failed }
  | .release key => some { s with executions := s.executions.delete fun k _ => k = key }

/-! ## Executions as store transactions -/

section

variable {c : RetryConfig} {e : Execution} {now : Time} {db db' : Db}

lemma perform_eq (db : Db) (act : Act) :
    perform db act = db ∨ step db act = some (perform db act) := by
  unfold perform
  cases h : step db act with
  | none => exact .inl rfl
  | some db' => exact .inr rfl

lemma run_perform (db : Db) (act : Act) : ∃ acts, run step db acts = some (perform db act) := by
  rcases perform_eq db act with h | h
  · exact ⟨[], by rw [h, run_nil]⟩
  · exact ⟨[act], run_cons_eq_some.mpr ⟨_, h, run_nil _⟩⟩

lemma run_retryWorkflow (c : RetryConfig) (e : Execution) (now : Time) (db : Db) :
    ∃ acts, run step db acts = some (retryWorkflow c e now db) := by
  unfold retryWorkflow
  split
  · exact run_perform _ _
  split
  · exact ⟨[], run_nil _⟩
  next scheduled hscheduled =>
    split
    · obtain ⟨acts, hacts⟩ := run_perform scheduled (e.failure now scheduled)
      exact ⟨_ :: acts, run_cons_eq_some.mpr ⟨scheduled, hscheduled, hacts⟩⟩
    · exact ⟨[_], run_cons_eq_some.mpr ⟨scheduled, hscheduled, run_nil _⟩⟩

lemma run_afterFailure (c : RetryConfig) (e : Execution) (now : Time) (db : Db)
    (failure : Failure) : ∃ acts, run step db acts = some (e.afterFailure c now db failure) := by
  cases failure with
  | step => exact run_retryWorkflow c e now db
  | keyMismatch => exact run_perform _ _
  | returned => exact ⟨[], run_nil _⟩

lemma of_claimWorkflow {workflowID : UUID} (h : claimWorkflow workflowID now db = some db') :
    (∃ w, db.workflows.get? workflowID = some w ∧ w.state.live ∧ db.isCurrent w) ∧
      (db' = db ∨ step db (.resumeSnapshotRetry workflowID now) = some db') := by
  obtain ⟨w, hw, h⟩ := bind_eq_some_iff.mp h
  obtain ⟨hclaimable, h⟩ := ite_none_right_eq_some.mp h
  simp only [claimable, Bool.and_eq_true] at hclaimable
  refine ⟨⟨w, hw, hclaimable.1.1, hclaimable.1.2⟩, ?_⟩
  split at h
  · exact .inr h
  · exact .inl (some.inj h).symm

lemma run_claimWorkflow {workflowID : UUID} (h : claimWorkflow workflowID now db = some db') :
    ∃ acts, run step db acts = some db' := by
  obtain rfl | hstep := (of_claimWorkflow h).2
  · exact ⟨[], run_nil _⟩
  · exact ⟨[_], run_cons_eq_some.mpr ⟨db', hstep, run_nil _⟩⟩

lemma retryDelay_pos (c : RetryConfig) (n : ℕ) : 0 < c.retryDelay n := by
  induction n with
  | zero => exact Int.mul_pos (by decide) c.second_pos
  | succ n ih =>
    unfold RetryConfig.retryDelay
    split
    · exact Int.mul_pos (by decide) ih
    · exact ih

/-! ## Ending a workflow and waiting for its next attempt -/

def Ended (workflowID : UUID) (db : Db) : Prop :=
  ∀ w, db.workflows.get? workflowID = some w → w.state.live = false

lemma perform_of_ok {act : Act} (h : act.transaction db = .ok db') : perform db act = db' := by
  rw [perform, step_eq_some.mpr h]
  rfl

lemma perform_of_commits {act : Act} {Q : Db → Prop} (h : Commits (act.transaction db) Q) :
    Q (perform db act) := by
  obtain ⟨db', hdb', hQ⟩ := h
  rwa [perform_of_ok hdb']

variable {workflowID : UUID} {w : Workflow}

lemma get?_endWorkflow {t : Table UUID Workflow} {ended : WorkflowState}
    (hw : t.get? workflowID = some w) (hlive : w.state.live) :
    (endWorkflow t workflowID ended).get? workflowID =
      some { w with state := ended, errorCode := some .other } := by
  rw [endWorkflow, Table.get?_update, hw]
  simp [hlive]

lemma ended_of_endWorkflow (ended : WorkflowState) (hended : ended.live = false)
    (hw : db.workflows.get? workflowID = some w) (hlive : w.state.live)
    (htable : db'.workflows = endWorkflow db.workflows workflowID ended) :
    Ended workflowID db' := by
  intro w' hw'
  rw [htable, get?_endWorkflow hw hlive] at hw'
  exact some.inj hw' ▸ hended

section

variable (hw : db.workflows.get? workflowID = some w) (hlive : w.state.live)
include hw hlive

lemma cancelSnapshotWorkflow_ends :
    Commits (cancelSnapshotWorkflow workflowID db) (Ended workflowID) :=
  commits_pure.mpr (ended_of_endWorkflow .cancelled rfl hw hlive rfl)

lemma failSnapshotWorkflow_ends :
    Commits (failSnapshotWorkflow workflowID now db) (Ended workflowID) := by
  simp only [failSnapshotWorkflow, commits_need_bind, commits_require_bind, commits_pure]
  refine ⟨w, hw, ⟨?_, ?_⟩, ended_of_endWorkflow .failed rfl hw hlive rfl⟩
  · rintro h
    rw [h] at hlive
    cases hlive
  · rintro h
    rw [h] at hlive
    cases hlive

lemma failRestoreWorkflow_ends (hrestore : (db.restoreOperation workflowID).isSome) :
    Commits (failRestoreWorkflow workflowID now db) (Ended workflowID) := by
  obtain ⟨⟨operationID, operation⟩, hoperation⟩ := isSome_iff_exists.mp hrestore
  have hopen : w.state ≠ .failed := by
    rintro h
    rw [h] at hlive
    cases hlive
  rw [failRestoreWorkflow, commits_need_bind]
  refine ⟨w, hw, commits_need_bind.mpr ⟨(operationID, operation), hoperation, ?_⟩⟩
  simp only [if_neg hopen, commits_require_bind, commits_pure]
  exact ⟨hlive, ended_of_endWorkflow .failed rfl hw hlive rfl⟩

lemma failConflictResolution_ends (hresolution : (db.resolutionOf workflowID).isSome) :
    Commits (failConflictResolution workflowID db) (Ended workflowID) := by
  obtain ⟨operation, hoperation⟩ := isSome_iff_exists.mp hresolution
  simp only [failConflictResolution, commits_need_bind, commits_require_bind, commits_pure]
  exact ⟨w, hw, operation, hoperation, hlive, ended_of_endWorkflow .failed rfl hw hlive rfl⟩

end

lemma ended_of_failure (hw : db.workflows.get? e.workflowID = some w)
    (htype : w.workflowType = e.workflowType) (hlive : w.state.live)
    (hrestore : e.workflowType = .restore → (db.restoreOperation e.workflowID).isSome)
    (hresolution : e.workflowType = .conflictResolution → (db.resolutionOf e.workflowID).isSome) :
    Ended e.workflowID (perform db (e.failure now db)) := by
  refine perform_of_commits ?_
  cases hkind : e.workflowType with
  | snapshot =>
    have hhas : db.hasType e.workflowID .snapshot := by
      simp [Db.hasType, hw, htype, hkind]
    by_cases haborted : e.aborted db
    · simp only [Execution.failure, hkind, if_pos haborted, Act.transaction, if_pos hhas]
      exact cancelSnapshotWorkflow_ends hw hlive
    · simp only [Execution.failure, hkind, if_neg haborted, Act.transaction, if_pos hhas]
      exact failSnapshotWorkflow_ends hw hlive
  | restore =>
    simp only [Execution.failure, hkind, Act.transaction]
    exact failRestoreWorkflow_ends hw hlive (hrestore hkind)
  | conflictResolution =>
    simp only [Execution.failure, hkind, Act.transaction]
    exact failConflictResolution_ends hw hlive (hresolution hkind)

lemma ended_of_aborted (c : RetryConfig) (hw : db.workflows.get? e.workflowID = some w)
    (htype : w.workflowType = .snapshot) (hlive : w.state.live)
    (haborted : e.aborted db) : Ended e.workflowID (retryWorkflow c e now db) := by
  have hhas : db.hasType e.workflowID .snapshot := by
    simp [Db.hasType, hw, htype]
  rw [retryWorkflow, if_pos haborted]
  refine perform_of_commits ?_
  rw [Act.transaction, if_pos hhas]
  exact cancelSnapshotWorkflow_ends hw hlive

def putOff (workflowID : UUID) (w : Workflow) (resumeAt : Time) (db : Db) : Db :=
  { db with
    workflows := db.workflows.put workflowID { w with
      state := .retryWait, resumeState := some w.workflowType.resumeState, attempt := w.attempt + 1
      nextAttemptAt := some resumeAt, errorCode := some .other }
    capabilities :=
      if w.workflowType = .conflictResolution then db.capabilities
      else revokeCapabilities db.capabilities workflowID }

/-- The retry transaction accepts the workflow: it is live and not waiting, and there is one
capability to revoke. -/
def retryAccepted (db : Db) (workflowID : UUID) (w : Workflow) : Prop :=
  (w.state.live ∧ w.state ≠ .retryWait) ∧
    (w.workflowType = .conflictResolution ∨ db.preparedCapabilities workflowID = 1)

lemma step_scheduleSnapshotRetry (now : Time) (hdelay : 0 < delay)
    (hw : db.workflows.get? workflowID = some w) (haccepted : retryAccepted db workflowID w) :
    step db (.scheduleSnapshotRetry workflowID now delay) =
      some (putOff workflowID w (now + delay) db) := by
  rw [step_eq_some, Act.transaction, scheduleSnapshotRetry]
  exact ok_require hdelay (ok_need hw (ok_require haccepted.1 (ok_require haccepted.2 rfl)))

lemma step_scheduleSnapshotRetry_refused (hw : db.workflows.get? workflowID = some w)
    (hrefused : ¬ retryAccepted db workflowID w) :
    step db (.scheduleSnapshotRetry workflowID now delay) = none := by
  rw [eq_none_iff_forall_ne_some]
  intro db' hstep
  rw [step_eq_some, Act.transaction, scheduleSnapshotRetry] at hstep
  obtain ⟨-, hstep⟩ := of_require hstep
  obtain ⟨v, hv, hstep⟩ := of_need hstep
  obtain ⟨hlive, hstep⟩ := of_require hstep
  obtain ⟨hcapability, -⟩ := of_require hstep
  obtain rfl := mem_unique hw hv
  exact hrefused ⟨hlive, hcapability⟩

end

end StControl.Controller
