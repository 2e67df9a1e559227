import StControl.Controller.Executor

/-!
# Failing executions and the attempt counter

A failing execution of a snapshot or a restore should count: either the attempt counter goes up or
the workflow ends, so that a workflow whose steps always fail ends after its maximal number of
attempts.  The retry transaction counts, but it also revokes the transfer capability and refuses
when there is not exactly one to revoke.  A workflow that resumes from its wait has none until the
execution reaches the rotation; an execution that fails before that asks for a retry that is
refused, the counter stays, and the next execution fails the same way.
-/

namespace StControl.Controller

open Store Run Transaction Option Table

variable {c : RetryConfig} {e : Execution} {now : Time} {db db' : Db} {act : Act} {id : UUID}
  {w : Workflow}
variable {failures : ℕ} {acts : List Act}

/-! ## Workflows of snapshots and restores -/

lemma continues_of_step (hstep : step db act = some db') (hlinked : db.ResolutionsLinked)
    (hw : db.workflows.get? id = some w) (htype : w.workflowType ≠ .conflictResolution) :
    ∃ w', db'.workflows.get? id = some w' ∧ w.Continues w' := by
  rcases (step_committed hstep).workflowStep with
    hcontinue | ⟨k, v, hcreated, htable⟩ | ⟨k, o, v, v', hp, -, htable⟩
  · exact hcontinue.after hw
  · have hne : id ≠ k := by
      rintro rfl
      simp [hcreated.accepted.1] at hw
    exact ⟨w, by rw [htable, get?_put_of_ne hne, hw], .refl w⟩
  · have hne : id ≠ o.workflowID := by
      rintro rfl
      obtain ⟨u, hu, hresolution, -⟩ := hlinked k o hp.hasOperation
      rw [hw] at hu
      exact htype (some.inj hu ▸ hresolution)
    exact ⟨w, by rw [htable, get?_put_of_ne hne, hw], .refl w⟩

lemma counters_of_created (h : WorkflowCreated db act id w) :
    w.attempt = 0 ∧ w.generationRecoveries = 0 := by
  cases h <;> exact ⟨rfl, rfl⟩

variable {w' : Workflow} {failed : List UUID} {failure : Failure} {s s' : Executor}
  {a : ExecutorAct}

lemma row_before_step (hstep : step db act = some db') (hw' : db'.workflows.get? id = some w') :
    (∃ w, db.workflows.get? id = some w ∧ w.Kept w') ∨
      (db.workflows.get? id = none ∧ w'.attempt = 0 ∧ w'.generationRecoveries = 0) := by
  rcases (step_committed hstep).workflows with hkept | ⟨k, v, hcreated, htable⟩
  · exact .inl (hkept.before hw')
  rw [htable] at hw'
  obtain ⟨hk, rfl⟩ | hw' := of_get?_put hw'
  · subst hk
    exact .inr ⟨hcreated.accepted.1, counters_of_created hcreated⟩
  · exact .inl ⟨w', hw', (Workflow.Continues.refl w').toKept⟩

/-! ## The count of failed attempts -/

structure Workflow.WithinLimit (c : RetryConfig) (w : Workflow) (failures : ℕ) : Prop where
  recoveries : 0 ≤ w.generationRecoveries
  atMost : failures ≤ c.maxAttempts w.workflowType
  counted : w.state.live →
    failures ≤ w.ordinaryAttempts ∧ failures < c.maxAttempts w.workflowType

open Workflow

structure Bounded (c : RetryConfig) (failed : List UUID) (db : Db) : Prop where
  linked : db.ResolutionsLinked
  within : ∀ id w, db.workflows.get? id = some w → w.workflowType ≠ .conflictResolution →
    WithinLimit c w (failed.count id)
  unknown : ∀ id, db.workflows.get? id = none → failed.count id = 0

lemma maxAttempts_pos (c : RetryConfig) (type : WorkflowType) : 0 < c.maxAttempts type := by
  cases type <;> simp only [RetryConfig.maxAttempts] <;> split <;> omega

lemma Workflow.WithinLimit.continues (h : WithinLimit c w failures) (hcontinues : w.Continues w') :
    WithinLimit c w' failures where
  recoveries := Int.le_trans h.recoveries hcontinues.recoveries
  atMost := by
    rw [hcontinues.type]
    exact h.atMost
  counted hlive := by
    obtain ⟨hcounted, hbelow⟩ := h.counted (hcontinues.live hlive)
    rw [hcontinues.type]
    exact ⟨Int.le_trans hcounted hcontinues.ordinary, hbelow⟩

lemma Bounded.after_step (h : Bounded c failed db)
    (hstep : step db act = some db') : Bounded c failed db' where
  linked := (step_committed hstep).resolutionsLinked h.linked
  within := by
    intro id w' hw' htype
    rcases row_before_step hstep hw' with ⟨w, hw, hkept⟩ | ⟨hnew, hattempt, hrecoveries⟩
    · have hwtype : w.workflowType ≠ .conflictResolution := by
        rwa [hkept.type] at htype
      obtain ⟨u, hu, hcontinues⟩ := continues_of_step hstep h.linked hw hwtype
      obtain rfl := mem_unique hu hw'
      exact (h.within id w hw hwtype).continues hcontinues
    · have hzero := h.unknown id hnew
      have hpos := maxAttempts_pos c w'.workflowType
      refine ⟨by omega, by omega, fun _ => ⟨?_, by omega⟩⟩
      unfold ordinaryAttempts
      omega
  unknown := by
    intro id hid
    refine h.unknown id ?_
    cases hw : db.workflows.get? id with
    | none => rfl
    | some w =>
      obtain ⟨w', hw', -⟩ := (step_committed hstep).workflow_kept hw
      simp [hid] at hw'

lemma bounded_of_fresh (hfresh : Fresh db) : Bounded c [] db where
  linked := hfresh.wellLinked.resolutions
  within := by
    intro id w hw
    simp [hfresh.workflows, get?_empty] at hw
  unknown := fun _ _ => rfl

lemma Bounded.after_run (h : Bounded c failed db) (hrun : run step db acts = some db') :
    Bounded c failed db' :=
  run_invariant (P := Bounded c failed) (fun _ _ _ ht hstep => ht.after_step hstep) h hrun

/-! ## What a failure does to its workflow -/

structure Execution.Sound (e : Execution) (db : Db) : Prop where
  row : ∃ w, db.workflows.get? e.workflowID = some w ∧ w.workflowType = e.workflowType ∧
    e.attempt ≤ w.attempt ∧ e.generationRecoveries ≤ w.generationRecoveries
  restore : e.workflowType = .restore → (db.restoreOperation e.workflowID).isSome
  job : e.workflowType = .snapshot ∨ e.jobID = none

open Execution

lemma Execution.Sound.not_aborted (hsound : e.Sound db) (htype : e.workflowType ≠ .snapshot) :
    e.aborted db = false := by
  rcases hsound.job with hsnapshot | hnone
  · exact absurd hsnapshot htype
  · simp [aborted, hnone]

lemma Execution.Sound.ended (hsound : e.Sound db) (htype : e.workflowType ≠ .conflictResolution)
    (hw : db.workflows.get? e.workflowID = some w) (hlive : w.state.live) :
    Ended e.workflowID (perform db (e.failure now db)) := by
  obtain ⟨v, hv, hvtype, -, -⟩ := hsound.row
  obtain rfl := mem_unique hw hv
  exact ended_of_failure hw hvtype hlive hsound.restore fun hkind => absurd hkind htype

/-- The attempt of the execution is over: the workflow has ended, or a later attempt is counted. -/
def Execution.Counted (e : Execution) (db : Db) : Prop :=
  ∀ w, db.workflows.get? e.workflowID = some w → w.state.live → e.attempt < w.attempt

def Execution.canRetry (e : Execution) (db : Db) (failure : Failure) : Bool :=
  (db.workflows.get? e.workflowID).all fun w => !w.state.live || e.attempt < w.attempt ||
    match failure with
    | .step => e.aborted db ||
        (w.state ≠ .retryWait && db.preparedCapabilities e.workflowID = 1)
    | .keyMismatch => true
    | .returned => false

lemma continues_afterFailure (c : RetryConfig) (now : Time) (hlinked : db.ResolutionsLinked)
    (htype : w.workflowType ≠ .conflictResolution)
    (hw : db.workflows.get? e.workflowID = some w) (failure : Failure) :
    ∃ w', (e.afterFailure c now db failure).workflows.get? e.workflowID = some w' ∧
      w.Continues w' := by
  obtain ⟨acts, hacts⟩ := run_afterFailure c e now db failure
  have hinvariant := run_invariant
    (P := fun t => t.ResolutionsLinked ∧ ∃ w', t.workflows.get? e.workflowID = some w' ∧
      w.Continues w') (fun t act u ⟨ht, v, hv, hcontinues⟩ hstep => by
        have hvtype : v.workflowType ≠ .conflictResolution := hcontinues.type ▸ htype
        obtain ⟨v', hv', hnext⟩ := continues_of_step hstep ht hv hvtype
        exact ⟨(step_committed hstep).resolutionsLinked ht, v', hv', hcontinues.trans hnext⟩)
    ⟨hlinked, w, hw, .refl w⟩ hacts
  exact hinvariant.2

section

variable (hsound : e.Sound db)
include hsound

section

variable (htype : e.workflowType ≠ .conflictResolution)
include htype

lemma retryWorkflow_accepted (hw : db.workflows.get? e.workflowID = some w)
    (haborted : e.aborted db = false) (haccepted : retryAccepted db e.workflowID w) :
    ∀ w', (retryWorkflow c e now db).workflows.get? e.workflowID = some w' →
      w'.state.live → w'.attempt = w.attempt + 1 ∧
        w'.generationRecoveries = w.generationRecoveries ∧
        w'.attempt - e.uncounted < c.maxAttempts e.workflowType := by
  have hscheduled := step_scheduleSnapshotRetry now
    (retryDelay_pos c (e.attempt - e.uncounted).toNat) hw haccepted
  generalize hresume : now + c.retryDelay (e.attempt - e.uncounted).toNat = resumeAt at hscheduled
  have hrow : (putOff e.workflowID w resumeAt db).workflows.get? e.workflowID = some { w with
      state := .retryWait, resumeState := some w.workflowType.resumeState, attempt := w.attempt + 1
      nextAttemptAt := some resumeAt, errorCode := some .other } := get?_put_self ..
  intro w' hw' hlive
  rw [retryWorkflow, haborted, if_neg Bool.false_ne_true, hscheduled] at hw'
  dsimp only at hw'
  split at hw'
  · -- the limit is reached, and the workflow is given up
    have hsound' : e.Sound (putOff e.workflowID w resumeAt db) := by
      obtain ⟨v, hv, hvtype, hattempt, hrecoveries⟩ := hsound.row
      obtain rfl := mem_unique hw hv
      exact ⟨⟨_, hrow, hvtype, by dsimp only; omega, hrecoveries⟩, hsound.restore, hsound.job⟩
    simp [hsound'.ended htype hrow rfl w' hw'] at hlive
  next hlimit =>
    rw [hrow] at hw' hlimit
    cases hw'
    refine ⟨rfl, rfl, ?_⟩
    simpa using hlimit

lemma next_attempt_of_canRetry (hw : db.workflows.get? e.workflowID = some w) (hlive : w.state.live)
    (hlatest : ¬ e.attempt < w.attempt) (hcan : e.canRetry db failure) :
    ∀ w', (e.afterFailure c now db failure).workflows.get? e.workflowID = some w' →
      w'.state.live → w'.attempt = w.attempt + 1 ∧
        w'.generationRecoveries = w.generationRecoveries ∧
        w'.attempt - e.uncounted < c.maxAttempts e.workflowType := by
  obtain ⟨v, hv, hwtype, -, -⟩ := hsound.row
  obtain rfl := mem_unique hw hv
  cases failure with
  | returned => simp [canRetry, hw, hlive, hlatest] at hcan
  | keyMismatch =>
    intro w' hw' hlive'
    simp [hsound.ended htype hw hlive w' hw'] at hlive'
  | step =>
    cases haborted : e.aborted db with
    | true =>
      have hsnapshot : e.workflowType = .snapshot := by
        by_contra hother
        simp [hsound.not_aborted hother] at haborted
      intro w' hw' hlive'
      simp [ended_of_aborted c hw (hwtype.trans hsnapshot) hlive haborted w' hw'] at hlive'
    | false =>
      have haccepted : w.state ≠ .retryWait ∧ db.preparedCapabilities e.workflowID = 1 := by
        simpa [canRetry, hw, hlive, hlatest, haborted] using hcan
      exact retryWorkflow_accepted hsound htype hw haborted
        ⟨⟨hlive, haccepted.1⟩, .inr haccepted.2⟩

lemma afterFailure_of_not_canRetry (hcan : e.canRetry db failure = false) :
    e.afterFailure c now db failure = db := by
  obtain ⟨w, hw, hwtype, -, -⟩ := hsound.row
  cases failure with
  | returned => rfl
  | keyMismatch => simp [canRetry, hw] at hcan
  | step =>
    simp only [canRetry, hw, all_some, Bool.or_eq_false_iff] at hcan
    obtain ⟨-, haborted, hrefused⟩ := hcan
    have hnot : ¬ retryAccepted db e.workflowID w := by
      rintro ⟨⟨-, hwaits⟩, hresolution | hprepared⟩
      · exact htype (hwtype ▸ hresolution)
      · simp [hwaits, hprepared] at hrefused
    rw [afterFailure, retryWorkflow, haborted, if_neg Bool.false_ne_true,
      step_scheduleSnapshotRetry_refused hw hnot]

end

/-- **One failure.**  It counts exactly if the retry transaction accepts it or the workflow ends. -/
lemma counted_iff_canRetry (hlinked : db.ResolutionsLinked)
    (htype : e.workflowType ≠ .conflictResolution) :
    e.Counted (e.afterFailure c now db failure) ↔ e.canRetry db failure := by
  obtain ⟨w, hw, hwtype, hattempt, -⟩ := hsound.row
  constructor
  · intro hcounted
    by_contra hcan
    rw [Bool.not_eq_true] at hcan
    rw [afterFailure_of_not_canRetry hsound htype hcan] at hcounted
    cases hlive : w.state.live with
    | false => simp [canRetry, hw, hlive] at hcan
    | true => simp [canRetry, hw, hcounted w hw hlive] at hcan
  · intro hcan w' hw' hlive'
    obtain ⟨u, hu, hcontinues⟩ :=
      continues_afterFailure c now hlinked (hwtype ▸ htype) hw failure
    obtain rfl := mem_unique hu hw'
    by_cases hlater : e.attempt < w.attempt
    · exact Int.lt_of_lt_of_le hlater hcontinues.attempts
    · obtain ⟨hnext, -, -⟩ := next_attempt_of_canRetry hsound htype hw (hcontinues.live hlive')
        hlater hcan u hu hlive'
      omega

end

/-! ## Executions along a run -/

lemma restoreOperation_of_step (hstep : step db act = some db')
    (h : (db.restoreOperation id).isSome) : (db'.restoreOperation id).isSome := by
  obtain ⟨k, o, ho, hworkflow⟩ := isSome_find?.mp h
  have hkept : ∃ o', db'.restores.get? k = some o' ∧ o'.workflowID = o.workflowID := by
    rcases (step_committed hstep).restores with
      hcontinue | ⟨p, home, archive, manifest, generation, accounts, hp, rfl⟩
    · obtain ⟨o', ho', hcontinues⟩ := hcontinue.after ho
      exact ⟨o', ho', hcontinues.workflow⟩
    · have hne : k ≠ p.operationID := by
        rintro rfl
        simp [hp.fresh] at ho
      exact ⟨o, by simp only [insertRestoreWorkflow, get?_put_of_ne hne, ho], rfl⟩
  obtain ⟨o', ho', hsame⟩ := hkept
  exact isSome_find?.mpr ⟨k, o', ho', by simpa [hsame] using hworkflow⟩

lemma Execution.Sound.after_step (h : e.Sound db) (hlinked : db.ResolutionsLinked)
    (htype : e.workflowType ≠ .conflictResolution) (hstep : step db act = some db') :
    e.Sound db' where
  row := by
    obtain ⟨w, hw, hwtype, hattempt, hrecoveries⟩ := h.row
    obtain ⟨w', hw', hcontinues⟩ := continues_of_step hstep hlinked hw (hwtype ▸ htype)
    exact ⟨w', hw', hcontinues.type.trans hwtype, Int.le_trans hattempt hcontinues.attempts,
      Int.le_trans hrecoveries hcontinues.recoveries⟩
  restore hrestore := restoreOperation_of_step hstep (h.restore hrestore)
  job := h.job

lemma workflowID_of_loadExecution (h : loadExecution id db = some e) : e.workflowID = id := by
  obtain ⟨w, -, h⟩ := bind_eq_some_iff.mp h
  obtain ⟨jobID, -, ⟨⟩⟩ := bind_eq_some_iff.mp h
  rfl

lemma snapshot_or_jobless {type : WorkflowType} {jobID : Option ℤ}
    (h : executionJob db id type = some jobID) : type = .snapshot ∨ jobID = none := by
  cases type with
  | snapshot => exact .inl rfl
  | restore | conflictResolution =>
    obtain ⟨_, -, rfl⟩ := map_eq_some_iff.mp h
    exact .inr rfl

lemma sound_of_loadExecution (h : loadExecution id db = some e) : e.Sound db := by
  obtain ⟨w, hw, h⟩ := bind_eq_some_iff.mp h
  obtain ⟨jobID, hjob, ⟨⟩⟩ := bind_eq_some_iff.mp h
  refine ⟨⟨w, hw, rfl, Int.le_refl _, Int.le_refl _⟩, fun hrestore => ?_, snapshot_or_jobless hjob⟩
  dsimp only at hrestore
  rw [hrestore] at hjob
  obtain ⟨operation, hoperation, -⟩ := map_eq_some_iff.mp hjob
  exact isSome_iff_exists.mpr ⟨operation, hoperation⟩

def Execution.HasRow (e : Execution) (db : Db) : Prop :=
  ∃ w, db.workflows.get? e.workflowID = some w ∧ w.workflowType = e.workflowType

lemma Execution.HasRow.after_step (h : e.HasRow db) (hstep : step db act = some db') :
    e.HasRow db' := by
  obtain ⟨w, hw, htype⟩ := h
  obtain ⟨w', hw', hkept⟩ := (step_committed hstep).workflow_kept hw
  exact ⟨w', hw', hkept.type.trans htype⟩

structure ExecutionsSound (executions : Table ℕ Execution) (db : Db) : Prop where
  linked : db.ResolutionsLinked
  rows : ∀ key e, executions.get? key = some e → e.HasRow db
  sound : ∀ key e, executions.get? key = some e → e.workflowType ≠ .conflictResolution → e.Sound db

lemma ExecutionsSound.after_run {executions : Table ℕ Execution} (h : ExecutionsSound executions db)
    (hrun : run step db acts = some db') : ExecutionsSound executions db' :=
  run_invariant (P := ExecutionsSound executions)
    (fun _ _ _ ht hstep => {
      linked := (step_committed hstep).resolutionsLinked ht.linked
      rows := fun key e he => (ht.rows key e he).after_step hstep
      sound := fun key e he htype => (ht.sound key e he htype).after_step ht.linked htype hstep })
    h hrun

lemma executorStep_eq (hstep : executorStep c s a = some s') :
    (∃ acts, run step s.db acts = some s'.db) ∧ ∀ key e, s'.executions.get? key = some e →
        s.executions.get? key = some e ∨ loadExecution e.workflowID s'.db = some e := by
  cases a with
  | store act =>
    obtain ⟨db', hdb', rfl⟩ := map_eq_some_iff.mp hstep
    exact ⟨⟨[act], run_cons_eq_some.mpr ⟨db', hdb', run_nil _⟩⟩, fun _ _ => .inl⟩
  | load key workflowID now =>
    obtain ⟨db', hdb', hstep⟩ := bind_eq_some_iff.mp hstep
    obtain ⟨e, he, ⟨⟩⟩ := bind_eq_some_iff.mp hstep
    refine ⟨run_claimWorkflow hdb', fun k e' he' => ?_⟩
    obtain ⟨-, rfl⟩ | he' := of_get?_put he'
    · rw [workflowID_of_loadExecution he]
      exact .inr he
    · exact .inl he'
  | reload key =>
    obtain ⟨e, -, hstep⟩ := bind_eq_some_iff.mp hstep
    obtain ⟨e', he', ⟨⟩⟩ := bind_eq_some_iff.mp hstep
    refine ⟨⟨[], run_nil _⟩, fun k f hf => ?_⟩
    obtain ⟨-, rfl⟩ | hf := of_get?_put hf
    · rw [workflowID_of_loadExecution he']
      exact .inr he'
    · exact .inl hf
  | fail key failure now =>
    obtain ⟨e, -, ⟨⟩⟩ := bind_eq_some_iff.mp hstep
    refine ⟨run_afterFailure c e now s.db failure, fun k f hf => .inl ?_⟩
    exact of_get?_delete hf
  | release key =>
    cases hstep
    exact ⟨⟨[], run_nil _⟩, fun k f hf => .inl (of_get?_delete hf)⟩

lemma ExecutionsSound.after_step (h : ExecutionsSound s.executions s.db)
    (hstep : executorStep c s a = some s') : ExecutionsSound s'.executions s'.db := by
  obtain ⟨⟨acts, hacts⟩, hexecutions⟩ := executorStep_eq hstep
  have hold := h.after_run hacts
  refine ⟨hold.linked, fun key e he => ?_, fun key e he htype => ?_⟩
  · rcases hexecutions key e he with hbefore | hloaded
    · exact hold.rows key e hbefore
    · obtain ⟨w, hw, htype, -, -⟩ := (sound_of_loadExecution hloaded).row
      exact ⟨w, hw, htype⟩
  · rcases hexecutions key e he with hbefore | hloaded
    · exact hold.sound key e hbefore htype
    · exact sound_of_loadExecution hloaded

/-! ## The limit along a run -/

def failuresCount (s : Executor) : ExecutorAct → Bool
  | .fail key failure _ => (s.executions.get? key).all fun e =>
      e.workflowType = .conflictResolution || e.canRetry s.db failure
  | _ => true

lemma within_afterFailure (hsound : e.Sound db) (htype : e.workflowType ≠ .conflictResolution)
    (hw : db.workflows.get? e.workflowID = some w) (hlive : w.state.live)
    (hattempt : w.attempt = e.attempt) (hwithin : WithinLimit c w failures)
    (hcan : e.canRetry db failure)
    (hw' : (e.afterFailure c now db failure).workflows.get? e.workflowID = some w')
    (hlive' : w'.state.live) :
    failures + 1 ≤ w'.ordinaryAttempts ∧ failures + 1 < c.maxAttempts e.workflowType := by
  obtain ⟨v, hv, -, -, hrecoveries⟩ := hsound.row
  obtain rfl := mem_unique hw hv
  obtain ⟨hnext, hsame, hbelow⟩ := next_attempt_of_canRetry hsound htype hw hlive
    (by omega) hcan w' hw' hlive'
  have huncounted : e.uncounted ≤ w.generationRecoveries := by
    unfold uncounted
    split
    · exact hwithin.recoveries
    · exact hrecoveries
    · exact hrecoveries
  have hcounted := (hwithin.counted hlive).1
  unfold ordinaryAttempts at hcounted ⊢
  omega

lemma Bounded.after_failure (h : Bounded c failed db)
    (hsound : e.Sound db) (htype : e.workflowType ≠ .conflictResolution)
    (hlatest : e.isLatest db) (hcan : e.canRetry db failure) :
    Bounded c (e.workflowID :: failed) (e.afterFailure c now db failure) := by
  obtain ⟨acts, hacts⟩ := run_afterFailure c e now db failure
  have hafter := h.after_run hacts
  obtain ⟨w, hw, hwtype, -, hrecoveries⟩ := hsound.row
  obtain ⟨hlive, hattempt⟩ : w.state.live ∧ w.attempt = e.attempt := by
    simpa [isLatest, hw] using hlatest
  have hwithin := h.within e.workflowID w hw (hwtype ▸ htype)
  refine ⟨hafter.linked, fun id w' hw' htype' => ?_, fun id hid => ?_⟩
  · by_cases hid : id = e.workflowID
    · subst hid
      obtain ⟨u, hu, hcontinues⟩ :=
        continues_afterFailure c now h.linked (hwtype ▸ htype) hw failure
      obtain rfl := mem_unique hu hw'
      have hold := hafter.within _ u hw' htype'
      rw [List.count_cons_self]
      refine ⟨hold.recoveries, ?_, fun hlive' => ?_⟩
      · have hbelow := (hwithin.counted hlive).2
        rw [hcontinues.type]
        push_cast
        omega
      · have hnext := within_afterFailure hsound htype hw hlive hattempt hwithin hcan hw' hlive'
        rw [hcontinues.type, hwtype]
        push_cast
        exact hnext
    · rw [List.count_cons_of_ne (Ne.symm hid)]
      exact hafter.within id w' hw' htype'
  · have hne : id ≠ e.workflowID := by
      rintro rfl
      obtain ⟨u, hu, -⟩ :=
        continues_afterFailure c now h.linked (hwtype ▸ htype) hw failure
      simp [hid] at hu
    rw [List.count_cons_of_ne (Ne.symm hne)]
    exact hafter.unknown id hid

lemma Bounded.cons_resolution (h : Bounded c failed db)
    (hw : db.workflows.get? id = some w) (htype : w.workflowType = .conflictResolution) :
    Bounded c (id :: failed) db where
  linked := h.linked
  within := by
    intro k v hv hvtype
    have hne : k ≠ id := by
      rintro rfl
      obtain rfl := mem_unique hw hv
      exact hvtype htype
    rw [List.count_cons_of_ne (Ne.symm hne)]
    exact h.within k v hv hvtype
  unknown := by
    intro k hk
    have hne : k ≠ id := by
      rintro rfl
      simp [hw] at hk
    rw [List.count_cons_of_ne (Ne.symm hne)]
    exact h.unknown k hk

lemma Bounded.after_executorStep (h : Bounded c s.failed s.db)
    (hsound : ExecutionsSound s.executions s.db) (hcount : failuresCount s a)
    (hstep : executorStep c s a = some s') : Bounded c s'.failed s'.db := by
  obtain ⟨⟨acts, hacts⟩, -⟩ := executorStep_eq hstep
  have hafter := h.after_run hacts
  cases a with
  | store act =>
    obtain ⟨db', hdb', rfl⟩ := map_eq_some_iff.mp hstep
    exact hafter
  | load key workflowID now =>
    obtain ⟨db', -, hstep⟩ := bind_eq_some_iff.mp hstep
    obtain ⟨e, -, ⟨⟩⟩ := bind_eq_some_iff.mp hstep
    exact hafter
  | reload key =>
    obtain ⟨e, -, hstep⟩ := bind_eq_some_iff.mp hstep
    obtain ⟨e', -, ⟨⟩⟩ := bind_eq_some_iff.mp hstep
    exact hafter
  | release key =>
    cases hstep
    exact hafter
  | fail key failure now =>
    obtain ⟨e, he, ⟨⟩⟩ := bind_eq_some_iff.mp hstep
    split
    next hlatest =>
      by_cases htype : e.workflowType = .conflictResolution
      · obtain ⟨w, hw, hwtype⟩ := (hsound.after_run hacts).rows key e he
        exact hafter.cons_resolution hw (hwtype.trans htype)
      · have hcan : e.canRetry s.db failure := by
          simpa [failuresCount, he, htype] using hcount
        exact h.after_failure (hsound.sound key e he htype) htype hlatest hcan
    · exact hafter

lemma executionsSound_of_fresh (hfresh : Fresh db) : ExecutionsSound ∅ db where
  linked := hfresh.wellLinked.resolutions
  rows := by
    rintro key e ⟨⟩
  sound := by
    rintro key e ⟨⟩

/-- **Retries are bounded.**  In every state that the executor reaches from a fresh user, a failing
execution of a snapshot or a restore increases the attempt counter or ends its workflow exactly if
the failure can be retried; and if every failure of the run could, no such workflow has failed more
often than its limit, and one that has reached the limit is over. -/
theorem retries_bounded {db₀ : Db} (hfresh : Fresh db₀) {s : Executor} {acts : List ExecutorAct}
    (hrun : run (executorStep c) ⟨db₀, ∅, []⟩ acts = some s) :
    (∀ key e failure now s', s.executions.get? key = some e → e.workflowType ≠ .conflictResolution →
      executorStep c s (.fail key failure now) = some s' →
      (e.Counted s'.db ↔ e.canRetry s.db failure = true)) ∧
    (Meets (executorStep c) (fun t a => failuresCount t a = true) ⟨db₀, ∅, []⟩ acts →
      ∀ id w, s.db.workflows.get? id = some w → w.workflowType ≠ .conflictResolution →
        s.failed.count id ≤ c.maxAttempts w.workflowType ∧
        (s.failed.count id = c.maxAttempts w.workflowType → w.state.live = false)) := by
  have hstart : ExecutionsSound ∅ db₀ := executionsSound_of_fresh hfresh
  have hsound : ExecutionsSound s.executions s.db :=
    run_invariant (P := fun t => ExecutionsSound t.executions t.db)
      (fun _ _ _ ht hstep => ht.after_step hstep) hstart hrun
  refine ⟨fun key e failure now s' he htype hstep => ?_, fun hmeets id w hw htype => ?_⟩
  · obtain ⟨f, hf, ⟨⟩⟩ := bind_eq_some_iff.mp hstep
    obtain rfl := mem_unique he hf
    exact counted_iff_canRetry (hsound.sound key e he htype) hsound.linked htype
  · have hbounded : ExecutionsSound s.executions s.db ∧ Bounded c s.failed s.db :=
      run_invariant_of_meets
        (P := fun t => ExecutionsSound t.executions t.db ∧ Bounded c t.failed t.db)
        (fun t a t' ht hcount hstep =>
          ⟨ht.1.after_step hstep, ht.2.after_executorStep ht.1 hcount hstep⟩)
        ⟨hstart, bounded_of_fresh hfresh⟩ hmeets hrun
    have hwithin := hbounded.2.within id w hw htype
    refine ⟨hwithin.atMost, fun hreached => ?_⟩
    by_contra hlive
    have hbelow := (hwithin.counted (by simpa using hlive)).2
    omega

def sampleRetries : RetryConfig where
  retryMax := 0
  second := 1
  second_pos := by decide
  relayAvailable := false

/-- An archive of the home is created and its three attempts fail; before the second and the third
fail, the executor has prepared a new capability. -/
def threeFailures : List ExecutorAct :=
  ((sampleTransfer 50 1 3 .archive 10).take 2).map .store ++
  [ .load 0 50 20, .fail 0 .step 21, .load 1 50 30,
    .store (.rotateSnapshotCapability 50 51 51 900 31), .reload 1, .fail 1 .step 32,
    .load 2 50 50, .store (.rotateSnapshotCapability 50 52 52 900 51), .reload 2, .fail 2 .step 52 ]

theorem retries_bounded_three :
    ∃ s w, run (executorStep sampleRetries) ⟨sampleDb, ∅, []⟩ threeFailures = some s ∧
      s.db.workflows.get? 50 = some w ∧ s.failed.count 50 = 3 ∧ w.state.live = false := by
  obtain ⟨s, hs, w, hw, htype, hcount, hmeets⟩ :
      ∃ s ∈ run (executorStep sampleRetries) ⟨sampleDb, ∅, []⟩ threeFailures,
        ∃ w ∈ s.db.workflows.get? 50, w.workflowType = .snapshot ∧ s.failed.count 50 = 3 ∧
          Meets (executorStep sampleRetries) (fun t a => failuresCount t a)
            ⟨sampleDb, ∅, []⟩ threeFailures := by
    decide +kernel
  have hbounded := (retries_bounded sampleDb_registered.toFresh hs).2 hmeets 50 w hw
    (by rw [htype]; decide)
  exact ⟨s, w, hs, hw, hcount, hbounded.2 (by rw [hcount, htype]; decide)⟩

/-- The first attempt fails.  Then the target reports that it has no data address any more: every
later execution ends the wait, finds the target unavailable and asks for a retry. -/
def targetUnavailable : List ExecutorAct :=
  ((sampleTransfer 50 1 3 .archive 10).take 2).map .store ++
  [ .load 0 50 20, .fail 0 .step 21,
    .store (.environment (.node 3 { sampleStorage with transferURL := "" })),
    .load 1 50 30, .fail 1 .step 31, .load 2 50 50, .fail 2 .step 51,
    .load 3 50 70, .fail 3 .step 71, .load 4 50 90, .fail 4 .step 91,
    .load 5 50 110, .fail 5 .step 111 ]

/-- Six failures in a row, of which only the first is counted: the workflow is live and at its first
retry although its limit is three. -/
theorem failures_uncounted :
    ∃ s w, run (executorStep sampleRetries) ⟨sampleDb, ∅, []⟩ targetUnavailable = some s ∧
      s.db.workflows.get? 50 = some w ∧ s.failed.count 50 = 6 ∧ w.state.live = true ∧
      w.attempt = 1 ∧ sampleRetries.maxAttempts w.workflowType = 3 :=
  exists_states (by decide +kernel)

end StControl.Controller
