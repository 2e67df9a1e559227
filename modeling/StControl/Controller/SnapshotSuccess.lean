import StControl.Controller.LostAttempts

/-!
# A snapshot that succeeds

The counterpart of an attempt that is lost: a live snapshot whose nodes are ready, whose rows are in
order and whose agents answer every command is published (`Publishable.succeeds`), wherever it
stands.  One that is under recovery is adopted and reset first; one that already transfers goes on
with its capability, if that has not expired; and every other one gets a new capability.

A snapshot that was published before a promotion does not need its source again: the receipt of the
target completes it (`Receipted.ends`).
-/

namespace StControl.Controller

open Store Run Transaction Option Table

variable {c : RetryConfig} {e : Execution} {now : Time} {db db' : Db} {id snapshotID : UUID}
  {w v : Workflow} {target : Node}
variable {cleanupID : UUID} {manifest : Digest} {f : FreshCapability}

def fullProgress (w : Workflow) : List (NodeID × WorkflowState) :=
  [ (w.sourceNodeID, .drained), (w.sourceNodeID, .snapshotting), (w.sourceNodeID, .transferring),
    (w.targetNodeID, .verifying), (w.targetNodeID, .publishing) ]

/-- The agents answer every command of the execution, and the target publishes the manifest.  The
reports that the workflow has passed already are refused. -/
def answeredSnapshot (w : Workflow) (manifest : Digest) (f : FreshCapability) (cleanupID : UUID) :
    SnapshotAnswers where
  provisioned := true
  receipt := some (some manifest)
  capability := f
  prepared := true
  progress := fullProgress w
  transferred := some manifest
  origin := .configured
  cleanupID := cleanupID

def SoleJob (jobs : Table ℤ BackupJob) (id : UUID) : Prop :=
  ∃ jobID, (∃ job, jobs.get? jobID = some job ∧ job.workflowID = some id) ∧
    ∀ jobID' job', jobs.get? jobID' = some job' → job'.workflowID = some id → jobID' = jobID

variable {jobs : Table ℤ BackupJob} {cap : TransferCapability}

lemma SoleJob.count (h : SoleJob jobs id) : jobs.count (fun _ j => j.workflowID = some id) = 1 := by
  obtain ⟨jobID, ⟨job, hjob, hlinked⟩, honly⟩ := h
  refine count_eq_one hjob (by simp [hlinked]) fun jobID' job' hjob' hlinked' => ?_
  exact honly jobID' job' hjob' (by simpa using hlinked')

lemma SoleJob.executionJob (h : SoleJob jobs id) :
    (jobs.find? fun _ j => j.workflowID = some id).isSome := by
  obtain ⟨jobID, ⟨job, hjob, hlinked⟩, -⟩ := h
  exact isSome_find?.mpr ⟨jobID, job, hjob, by simp [hlinked]⟩

lemma SoleJob.put (h : SoleJob jobs id) {jobID : ℤ} {job : BackupJob}
    (hjob : jobs.get? jobID = some job) (status : BackupJobStatus) :
    SoleJob (jobs.put jobID { job with status }) id := by
  obtain ⟨sole, ⟨row, hrow, hlinked⟩, honly⟩ := h
  refine ⟨sole, ?_, fun jobID' job' hjob' hlinked' => ?_⟩
  · by_cases heq : sole = jobID
    · subst heq
      obtain rfl := mem_unique hjob hrow
      exact ⟨_, get?_put_self .., hlinked⟩
    · exact ⟨row, by rw [get?_put_of_ne heq, hrow], hlinked⟩
  · obtain ⟨heq, rfl⟩ | hjob' := of_get?_put hjob'
    · rw [heq]
      exact honly jobID job hjob hlinked'
    · exact honly jobID' job' hjob' hlinked'

lemma SoleJob.update (h : SoleJob jobs id) (p : ℤ → BackupJob → Bool) (status : BackupJobStatus) :
    SoleJob (jobs.update p fun j => { j with status }) id := by
  have hrow : ∀ jobID job, (jobs.update p fun j => { j with status }).get? jobID = some job →
      ∃ before, jobs.get? jobID = some before ∧ job.workflowID = before.workflowID := by
    intro jobID job hjob
    rw [get?_update] at hjob
    obtain ⟨before, hbefore, rfl⟩ := map_eq_some_iff.mp hjob
    exact ⟨before, hbefore, by split <;> rfl⟩
  obtain ⟨jobID, ⟨job, hjob, hlinked⟩, honly⟩ := h
  refine ⟨jobID, ?_, fun jobID' job' hjob' hlinked' => ?_⟩
  · refine ⟨_, by rw [get?_update, hjob, map_some], ?_⟩
    split <;> exact hlinked
  · obtain ⟨before, hbefore, hsame⟩ := hrow jobID' job' hjob'
    exact honly jobID' before hbefore (hsame ▸ hlinked')

structure Completable (db : Db) (id : UUID) (w : Workflow) (cleanupID : UUID) : Prop where
  building : ∀ snapshotID m, db.manifests.get? snapshotID = some m → m.workflowID = id →
    m.state = .building
  job : SoleJob db.jobs id
  replica : (db.replicas.get? w.targetNodeID).isSome
  target : 0 < w.targetNodeID
  cleanups : db.cleanups.all (fun _ t => t.nodeID ≠ w.targetNodeID || t.state ≠ .running)
  fresh : db.cleanups.get? cleanupID = none

def Published (db : Db) (id : UUID) (db' : Db) : Prop :=
  db'.conflicts = db.conflicts ∧ ∃ w', db'.workflows.get? id = some w' ∧ w'.state = .succeeded

/-! ## The progress of a transfer -/

lemma jobRunning_eq (e : Execution) (db : Db) (hjob : SoleJob db.jobs id) :
    ∃ jobs, jobRunning e db = { db with jobs } ∧ SoleJob jobs id := by
  unfold jobRunning
  cases hfound : e.jobID.bind fun jobID => (db.jobs.get? jobID).map fun job => (jobID, job) with
  | none => exact ⟨db.jobs, rfl, hjob⟩
  | some found =>
    obtain ⟨jobID', -, hrow⟩ := bind_eq_some_iff.mp hfound
    obtain ⟨job', hjob', heq⟩ := map_eq_some_iff.mp hrow
    obtain ⟨rfl, rfl⟩ := Prod.mk.inj heq
    exact ⟨_, rfl, hjob.put hjob' .running⟩

lemma perform_progress {t : Table UUID Workflow} {state before n : WorkflowState} {node : NodeID}
    (hrow : t.get? id = some { w with state }) (hcurrent : db.isCurrent w)
    (hmanifest : (db.manifests.get? snapshotID).any (fun m => m.workflowID = id))
    (hrule : w.progressRule n = some (before, node)) :
    ∃ t', perform { db with workflows := t } (.setSnapshotWorkflowProgress id snapshotID node n) =
        { db with workflows := t' } ∧
      t'.get? id = some { w with state := if state = before then n else state } := by
  by_cases hnext : state = n
  · refine ⟨t, perform_of_ok (ok_need hrow (ok_require hmanifest (ok_require hcurrent (ok_need hrule
      (ok_require rfl (if_pos hnext)))))), ?_⟩
    rw [hrow]
    split
    · rw [hnext]
    · rfl
  by_cases hbefore : state = before
  · rw [if_pos hbefore]
    refine ⟨_, perform_of_ok (ok_need hrow (ok_require hmanifest (ok_require hcurrent
      (ok_need hrule (ok_require rfl ?_))))), get?_put_self t _ _⟩
    rw [if_neg hnext]
    exact ok_require hbefore rfl
  · rw [if_neg hbefore]
    refine ⟨t, ?_, hrow⟩
    cases hstep : step { db with workflows := t }
        (.setSnapshotWorkflowProgress id snapshotID node n) with
    | none => rw [perform, hstep, getD_none]
    | some db' =>
      obtain ⟨w', hw', hstep⟩ := of_need (step_eq_some.mp hstep)
      obtain rfl := mem_unique hrow hw'
      obtain ⟨-, hstep⟩ := of_require hstep
      obtain ⟨-, hstep⟩ := of_require hstep
      obtain ⟨rule, hrule', hstep⟩ := of_need hstep
      obtain rfl := mem_unique (show w.progressRule n = some rule from hrule') hrule
      obtain ⟨-, hstep⟩ := of_require hstep
      rw [if_neg hnext] at hstep
      exact absurd (of_require hstep).1 hbefore

lemma reportProgress_publishing (hrow : db.workflows.get? id = some w) (hlive : w.state.live)
    (hawake : w.state ≠ .retryWait) (hstarted : w.state ≠ .scheduled) (hcurrent : db.isCurrent w)
    (hread : e.workflowID = id) (hsnapshot : workflowSnapshot db id = some snapshotID) :
    ∃ t, reportProgress e (fullProgress w) db = { db with workflows := t } ∧
      t.get? id = some { w with state := .publishing } := by
  subst hread
  have hmanifest : (db.manifests.get? snapshotID).any (fun m => m.workflowID = e.workflowID) =
      true := by
    obtain ⟨⟨found, m⟩, hfound, rfl⟩ := map_eq_some_iff.mp hsnapshot
    obtain ⟨hm, hlinked⟩ := of_find?_eq_some hfound
    simpa [hm] using hlinked
  obtain ⟨t₁, hdrained, hrow₁⟩ := perform_progress (n := .drained)
    (show db.workflows.get? e.workflowID = some { w with state := w.state } from hrow) hcurrent
    hmanifest rfl
  obtain ⟨t₂, hsnapshotting, hrow₂⟩ := perform_progress (n := .snapshotting) hrow₁ hcurrent
    hmanifest rfl
  obtain ⟨t₃, htransferring, hrow₃⟩ := perform_progress (n := .transferring) hrow₂ hcurrent
    hmanifest rfl
  obtain ⟨t₄, hverifying, hrow₄⟩ := perform_progress (n := .verifying) hrow₃ hcurrent
    hmanifest rfl
  obtain ⟨t₅, hpublishing, hrow₅⟩ := perform_progress (n := .publishing) hrow₄ hcurrent
    hmanifest rfl
  refine ⟨t₅, ?_, ?_⟩
  · simp only [reportProgress, hsnapshot, fullProgress, List.foldl_cons, List.foldl_nil]
    rw [show perform db _ = _ from hdrained, hsnapshotting, htransferring, hverifying, hpublishing]
  · rw [hrow₅]
    cases hstate : w.state with
    | scheduled => exact absurd hstate hstarted
    | retryWait => exact absurd hstate hawake
    | cancelled | failed | succeeded =>
      rw [hstate] at hlive
      cases hlive
    | _ => rfl

/-! ## The completion -/

lemma completeSnapshotExecution_succeeds (a : SnapshotAnswers) (target : Node) (now : Time)
    (manifest : Digest) (hread : e.workflowID = id) (hrow : db.workflows.get? id = some v)
    (hpublishing : v.state = .publishing) (htype : v.workflowType = .snapshot)
    (hcurrent : db.isCurrent v) (htarget : v.targetNodeID = w.targetNodeID)
    (hsnapshot : (workflowSnapshot db id).isSome)
    (hcapability : preparedCapability db id = some cap)
    (horigin : a.origin = .configured) (hcompletable : Completable db id w a.cleanupID) :
    Published db id (completeSnapshotExecution a e w target now manifest db) := by
  subst hread
  obtain ⟨snapshotID, hsnapshot⟩ := isSome_iff_exists.mp hsnapshot
  obtain ⟨⟨found, m⟩, hfound, rfl⟩ := map_eq_some_iff.mp hsnapshot
  obtain ⟨hm, hlinked⟩ := of_find?_eq_some hfound
  obtain ⟨⟨capabilityID, cap'⟩, hcap, rfl⟩ := map_eq_some_iff.mp hcapability
  obtain ⟨hcap, hprepared⟩ := of_find?_eq_some hcap
  simp only [decide_eq_true_eq] at hlinked
  let p : CompleteSnapshotWorkflowParams := {
    workflowID := e.workflowID, snapshotID := found, capabilityHash := cap'.tokenHash
    targetNodeID := w.targetNodeID, replicaKind := destinationKind target
    replicaOrigin := a.origin, manifestSHA256 := manifest, cleanupID := a.cleanupID
    now }
  have hcomplete : completeSnapshotExecution a e w target now manifest db = publishSnapshot
    p db := by
    simp only [completeSnapshotExecution, hsnapshot, hcapability]
    refine perform_of_ok ?_
    have hmine : (db.workflows.get? e.workflowID).any (fun v =>
        v.workflowType = .snapshot && v.targetNodeID = w.targetNodeID) := by
      simp [hrow, htype, htarget]
    rw [Act.transaction, if_pos hmine, completeSnapshotWorkflow]
    refine ok_require ⟨hcompletable.target, ?_, ?_, ?_⟩ (ok_need hrow ?_)
    · unfold destinationKind
      split
      · exact .inr rfl
      · exact .inl rfl
    · dsimp only; rw [horigin]; decide
    · dsimp only; rw [horigin]; decide
    · rw [if_neg (by rw [hpublishing]; decide)]
      refine ok_require hpublishing (ok_require hcurrent (ok_need hm ?_))
      refine ok_require ⟨hlinked, hcompletable.building found m hm hlinked⟩ ?_
      refine ok_require hcompletable.cleanups (ok_require ?_ (ok_require hcompletable.job.count
        (ok_require hcompletable.replica (ok_require hcompletable.fresh rfl))))
      exact any_eq_true.mpr ⟨capabilityID, cap', hcap, by simp [hprepared]⟩
  rw [hcomplete]
  refine ⟨rfl, { v with state := .succeeded }, ?_, rfl⟩
  rw [publishSnapshot, get?_modify_self, hrow]
  rfl

/-! ## The whole execution -/

/-- The capability of the workflow is good, or is not asked for any more, or the execution draws a
new one. -/
def Capable (c : RetryConfig) (db : Db) (id : UUID) (state : WorkflowState) (now : Time)
    (f : FreshCapability) : Prop :=
  (∃ cap, preparedCapability db id = some cap ∧
    (state ≠ .publishing → now + 120 * c.second < cap.expiresAt)) ∨
  ((state = .scheduled ∨ state = .quiescing) ∧ f.FreshIn db.capabilities)

section

variable (h : UnderWay c e db id v) (htype : v.workflowType = .snapshot)
  (hcompletable : Completable db id w cleanupID) (hprogress : fullProgress v = fullProgress w)
  (htarget : v.targetNodeID = w.targetNodeID)
include h htype hcompletable hprogress htarget

lemma transferSnapshot_succeeds (hstarted : v.state ≠ .scheduled)
    (hcapability : preparedCapability db id = some cap) :
    Published db id (transferSnapshot c (answeredSnapshot w manifest f cleanupID) e w target now
      db) := by
  obtain ⟨jobs, hrunning, hsole⟩ := jobRunning_eq e db hcompletable.job
  have hsnapshot := (h.served.snapshot htype).manifest
  obtain ⟨snapshotID, hfound⟩ := isSome_iff_exists.mp hsnapshot
  have hrow : ({ db with jobs } : Db).workflows.get? id = some v := h.row
  obtain ⟨t, hreported, hpublishing⟩ := reportProgress_publishing hrow h.live h.awake hstarted
    h.current h.readFrom.workflowID hfound
  have hrow' : ({ db with jobs, workflows := t } : Db).workflows.get? id =
      some { v with state := .publishing } := hpublishing
  have hcompletable' : Completable { db with jobs, workflows := t } id w cleanupID :=
    { hcompletable with job := hsole }
  have htransfer : transferSnapshot c (answeredSnapshot w manifest f cleanupID) e w target now db =
      completeSnapshotExecution (answeredSnapshot w manifest f cleanupID) e w target now manifest
        { db with jobs, workflows := t } := by
    rw [← show reportProgress e (fullProgress w) { db with jobs } = { db with jobs, workflows := t }
      from hprogress ▸ hreported, ← hrunning]
    simp [transferSnapshot, answeredSnapshot]
  rw [htransfer]
  exact completeSnapshotExecution_succeeds (v := { v with state := .publishing }) _ target now
    manifest h.readFrom.workflowID hrow' rfl htype h.current htarget hsnapshot hcapability rfl
    hcompletable'

lemma quiescing_succeeds (hstarted : v.state ≠ .scheduled)
    (hfresh : capabilityDue db id (now + 120 * c.second) → f.FreshIn db.capabilities) :
    Published db id (if capabilityDue db id (now + 120 * c.second) then
        match step db (.rotateSnapshotCapability id f.capabilityID f.tokenHash
            (now + 28800 * c.second) now) with
        | some rotated =>
          transferSnapshot c (answeredSnapshot w manifest f cleanupID) e w target now rotated
        | none => retryWorkflow c e now db
      else transferSnapshot c (answeredSnapshot w manifest f cleanupID) e w target now db) := by
  have hexpires : now < now + 28800 * c.second :=
    Int.lt_add_of_pos_right _ (Int.mul_pos (by decide) c.second_pos)
  cases hdue : capabilityDue db id (now + 120 * c.second) with
  | true =>
    have hfresh := hfresh hdue
    obtain ⟨snapshotID, hstep⟩ := step_rotateSnapshotCapability hexpires h.row h.live h.current
      (h.served.snapshot htype).manifest hfresh
    rw [if_pos rfl, hstep]
    have hone : (rotated id snapshotID v.controllerGeneration f (now + 28800 * c.second)
        db).preparedCapabilities id ≠ 0 := by
      rw [preparedCapabilities_rotated hfresh]
      decide
    obtain ⟨cap, hcap⟩ := preparedCapability_of_count hone
    exact transferSnapshot_succeeds (h.rotate ..) htype { hcompletable with } hprogress htarget
      hstarted hcap
  | false =>
    obtain ⟨cap, hcap⟩ := preparedCapability_of_count (capabilityDue_eq_false hdue)
    exact transferSnapshot_succeeds h htype hcompletable hprogress htarget hstarted hcap

lemma carryOutSnapshot_succeeds (hstate : w.state = v.state)
    (hcapability : Capable c db id v.state now f) :
    Published db id (carryOutSnapshot c (answeredSnapshot w manifest f cleanupID) e w target now
      db) := by
  obtain rfl := h.readFrom.workflowID
  have hdue : v.state ≠ .publishing →
      capabilityDue db e.workflowID (now + 120 * c.second) → f.FreshIn db.capabilities := by
    intro hpublishing hdue
    rcases hcapability with ⟨cap, hcap, hgood⟩ | ⟨-, hfresh⟩
    · simp only [capabilityDue, hcap, all_some, decide_eq_true_eq] at hdue
      exact absurd hdue (Int.not_le.mpr (hgood hpublishing))
    · exact hfresh
  unfold carryOutSnapshot
  rw [hstate]
  by_cases hscheduled : v.state = .scheduled
  · simp only [if_pos hscheduled, h.start hscheduled, reduceCtorEq, if_false, if_true]
    exact quiescing_succeeds (h.move .quiescing _ _ rfl (by decide)) htype { hcompletable with }
      hprogress htarget WorkflowState.noConfusion (hdue (by rw [hscheduled]; decide))
  simp only [if_neg hscheduled]
  by_cases hquiescing : v.state = .quiescing
  · simp only [hquiescing, reduceCtorEq, if_false, if_true]
    exact quiescing_succeeds h htype hcompletable hprogress htarget hscheduled
      (hdue (by rw [hquiescing]; decide))
  obtain ⟨cap, hcap, hgood⟩ := hcapability.resolve_right fun hrotates =>
    hrotates.1.elim hscheduled hquiescing
  by_cases hpublishing : v.state = .publishing
  · rw [if_pos hpublishing]
    exact completeSnapshotExecution_succeeds _ target now manifest rfl h.row hpublishing htype
      h.current htarget (h.served.snapshot htype).manifest hcap rfl hcompletable
  · have hdue : capabilityDue db e.workflowID (now + 120 * c.second) = false := by
      simp only [capabilityDue, hcap, all_some, decide_eq_false_iff_not]
      exact Int.not_le.mpr (hgood hpublishing)
    rw [if_neg hpublishing, hdue, if_neg Bool.false_ne_true]
    exact transferSnapshot_succeeds h htype hcompletable hprogress htarget hscheduled hcap

end

/-! ## From wherever the snapshot stands -/

/-- The next execution resets the snapshot: it does not wait, and it is under recovery, or will be
once it is adopted. -/
def resetDue (db : Db) (w : Workflow) : Bool :=
  w.state ≠ .retryWait &&
    (!db.isCurrent w || w.errorCode = some .controllerGenerationRecovery)

structure Publishable (c : RetryConfig) (db : Db) (id : UUID) (w : Workflow) (cleanupID : UUID) :
    Prop where
  row : db.workflows.get? id = some w
  live : w.state.live
  type : w.workflowType = .snapshot
  active : db.activeGeneration.isSome
  served : SnapshotServed c db id w
  resumable : Resumable w
  completable : Completable db id w cleanupID
  recovery : resetDue db w → (∃ f : FreshCapability, f.FreshIn db.capabilities) ∧
    ∀ jobID job, db.jobs.get? jobID = some job → job.workflowID = some id → job.status ≠ .aborted
  capability : resetDue db w = false →
    ∃ now f, Due w now ∧ Capable c db id (claimedRow w).state now f

namespace Publishable

variable (h : Publishable c db id w cleanupID)
include h

lemma hasRows : Served c db id w where
  job := by
    rw [h.type, executionJob, isSome_map]
    exact h.completable.job.executionJob
  snapshot := fun _ => h.served
  restore := fun hrestore => absurd (h.type.symm.trans hrestore) (by decide)
  resolution := fun hresolution => absurd (h.type.symm.trans hresolution) (by decide)

lemma execute (hcurrent : db.isCurrent w) (hreset : resetDue db w = false) :
    ∃ act db', reconcilerStep c db act = some db' ∧ Published db id db' := by
  obtain ⟨now, f, hdue, hcapability⟩ := h.capability hreset
  obtain ⟨e, t, hclaim, hload, hunder⟩ :=
    h.hasRows.claim h.row h.live hcurrent h.resumable hdue
  have htype := (claimedRow_type w).trans h.type
  have hserved := hunder.served.snapshot htype
  obtain ⟨source, hsource, hsourceReady⟩ := hserved.source
  obtain ⟨target, htarget, htargetReady, hpath, haccount⟩ := hserved.target
  have hsettled : (claimedRow w).errorCode ≠ some .controllerGenerationRecovery := by
    unfold claimedRow
    split
    · exact nofun
    next hawake =>
      intro hmark
      simp [resetDue, hawake, hmark] at hreset
  have hnode : (claimedRow w).targetNodeID = w.targetNodeID := by
    unfold claimedRow
    split <;> rfl
  obtain ⟨nextAttemptAt, errorCode, t', hclear, hcleared⟩ := hunder.clear htype
  have hcompletable : ∀ accounts, Completable { db with workflows := t', accounts } id
      (claimedRow w) cleanupID := fun accounts =>
    { building := h.completable.building, job := h.completable.job
      replica := hnode ▸ h.completable.replica, target := hnode ▸ h.completable.target
      cleanups := hnode ▸ h.completable.cleanups, fresh := h.completable.fresh }
  refine ⟨.executeSnapshot id (answeredSnapshot (claimedRow w) 0 f cleanupID) now, ?_⟩
  have hrow : t.get? id = some (claimedRow w) := hunder.row
  simp only [reconcilerStep, executeSnapshot, hclaim, hload, hrow, bind_eq_bind, bind_some,
    htype, hsource, htarget, htargetReady, hsourceReady, hpath, ne_eq, not_true_eq_false, if_false,
    if_neg hsettled, hclear, Bool.true_eq_false]
  split
  next hcompute =>
    obtain ⟨accounts, hprovision, hprovisioned⟩ := hcleared.provision (haccount hcompute)
    have hprovision' : provisionTarget (claimedRow w) (answeredSnapshot (claimedRow w) 0 f
      cleanupID).provisioned { db with workflows := t' } =
        some { db with workflows := t', accounts } := hprovision
    rw [hprovision']
    exact ⟨_, rfl, carryOutSnapshot_succeeds hprovisioned htype (hcompletable accounts) rfl rfl
      rfl hcapability⟩
  · exact ⟨_, rfl, carryOutSnapshot_succeeds hcleared htype (hcompletable db.accounts) rfl rfl
      rfl hcapability⟩

lemma reset (hcurrent : db.isCurrent w) (hreset : resetDue db w) :
    ∃ act db' w', reconcilerStep c db act = some db' ∧ db'.conflicts = db.conflicts ∧
      Publishable c db' id w' cleanupID ∧ db'.isCurrent w' ∧ resetDue db' w' = false := by
  obtain ⟨hawake, hmark⟩ : w.state ≠ .retryWait ∧
      w.errorCode = some .controllerGenerationRecovery := by
    simpa [resetDue, hcurrent] using hreset
  obtain ⟨now, e, t, hstep, hunder⟩ :=
    h.hasRows.reset h.row h.live hcurrent h.resumable h.type hmark hawake
  obtain ⟨⟨jobID, job⟩, hjob⟩ := isSome_iff_exists.mp h.completable.job.executionJob
  obtain ⟨hrow, hlinked⟩ := of_find?_eq_some hjob
  obtain ⟨⟨f, hfresh⟩, hunaborted⟩ := h.recovery hreset
  have hunaborted : job.status ≠ .aborted := hunaborted jobID job hrow (by simpa using hlinked)
  have hperform : perform { db with workflows := t } (.resetRecoveredSnapshotWorkflow id now) =
      { db with
        workflows := t.put id { w with
          state := .retryWait, resumeState := some .quiescing, attempt := w.attempt + 1
          generationRecoveries := w.generationRecoveries + 1, nextAttemptAt := some now
          errorCode := some .other }
        capabilities := revokeCapabilities db.capabilities id
        jobs := db.jobs.update (fun _ j => j.workflowID = some id && j.status ≠ .done &&
          j.status ≠ .aborted) fun j => { j with status := .pending } } := by
    refine perform_of_ok ?_
    rw [Act.transaction, resetRecoveredSnapshotWorkflow]
    refine ok_need hunder.row (ok_need hjob (ok_require ⟨h.type, hcurrent, hmark, h.live⟩ ?_))
    rw [if_neg hunaborted]
    rfl
  rw [hperform] at hstep
  refine ⟨_, _, _, hstep, rfl, ⟨get?_put_self .., rfl, h.type, h.active,
    ⟨h.served.manifest, h.served.source, h.served.target⟩, fun _ => ⟨by rw [h.type]; rfl, now, rfl⟩,
    { h.completable with job := h.completable.job.update .. },
    fun hdue => absurd hdue Bool.false_ne_true,
    fun _ => ⟨now, f, fun t ht => ?_, .inr ⟨.inr ?_, hfresh.revoke⟩⟩⟩, hcurrent, rfl⟩
  · exact Int.le_of_eq (some.inj ht).symm
  · rw [claimedRow, if_pos rfl, h.type]
    rfl

lemma adopt (hstale : db.isCurrent w = false) :
    ∃ act db' w', reconcilerStep c db act = some db' ∧ db'.conflicts = db.conflicts ∧
      Publishable c db' id w' cleanupID ∧ db'.isCurrent w' := by
  -- what waits is adopted at the moment at which its next attempt would have had its capability
  obtain ⟨now, hnow⟩ : ∃ now, resetDue db w = false →
      ∃ f, Capable c db id (claimedRow w).state now f := by
    by_cases hreset : resetDue db w
    · exact ⟨0, fun hnot => by simp [hreset] at hnot⟩
    · obtain ⟨now, f, -, hcapable⟩ := h.capability (Bool.eq_false_iff.mpr hreset)
      exact ⟨now, fun _ => ⟨f, hcapable⟩⟩
  obtain ⟨generation, hcurrent, hstep⟩ := reconcilerStep_adoptSnapshot (c := c) h.row h.live
    h.type h.active hstale now
  have hsame : resetDue { db with workflows := db.workflows.put id (adopted w generation now) }
      (adopted w generation now) = resetDue db w := by
    simp only [resetDue, adopted, hstale, decide_true, Bool.or_true, Bool.not_false, Bool.true_or]
    rfl
  refine ⟨_, _, _, hstep, rfl, ⟨get?_put_self .., h.live, h.type, h.active,
    ⟨h.served.manifest, h.served.source, h.served.target⟩,
    fun hwaits => ⟨(h.resumable hwaits).1, now, rfl⟩, { h.completable with },
    fun hreset => h.recovery (hsame ▸ hreset), fun hreset => ?_⟩, hcurrent⟩
  rw [hsame] at hreset
  obtain ⟨f, hcapable⟩ := hnow hreset
  refine ⟨now, f, fun t ht => Int.le_of_eq (some.inj ht).symm, ?_⟩
  have hstate : (claimedRow (adopted w generation now)).state = (claimedRow w).state := by
    unfold claimedRow adopted
    split <;> rfl
  rw [hstate]
  exact hcapable

/-- **A snapshot that can be published is.**  Some steps of the reconcilers bring it to success. -/
theorem succeeds :
    ∃ acts db', run (reconcilerStep c) db acts = some db' ∧ Published db id db' := by
  have hcurrentCase : ∀ {db : Db} {w : Workflow}, Publishable c db id w cleanupID →
      db.isCurrent w → ∃ acts db', run (reconcilerStep c) db acts = some db' ∧
        Published db id db' := by
    intro db w h hcurrent
    cases hreset : resetDue db w with
    | false =>
      obtain ⟨act, db', hstep, hpublished⟩ := h.execute hcurrent hreset
      exact ⟨[act], db', run_cons_eq_some.mpr ⟨db', hstep, run_nil _⟩, hpublished⟩
    | true =>
      obtain ⟨act, db₁, w₁, hstep, hconflicts, h₁, hcurrent₁, hreset₁⟩ := h.reset hcurrent hreset
      obtain ⟨act', db', hstep', hpublished⟩ := h₁.execute hcurrent₁ hreset₁
      refine ⟨[act, act'], db', run_cons_eq_some.mpr ⟨db₁, hstep, run_cons_eq_some.mpr
        ⟨db', hstep', run_nil _⟩⟩, hpublished.1.trans hconflicts, hpublished.2⟩
  cases hcurrent : db.isCurrent w with
  | true => exact hcurrentCase h hcurrent
  | false =>
    obtain ⟨act, db₁, w₁, hstep, hconflicts, h₁, hcurrent₁⟩ := h.adopt hcurrent
    obtain ⟨acts, db', hrun, hpublished⟩ := hcurrentCase h₁ hcurrent₁
    exact ⟨act :: acts, db', run_cons_eq_some.mpr ⟨db₁, hstep, hrun⟩,
      hpublished.1.trans hconflicts, hpublished.2⟩

end Publishable

/-! ## From the receipt of the target -/

/-- A snapshot that is under recovery, or will be once it is adopted, and that its target may have
published; nothing is asked of the source. -/
structure Receipted (c : RetryConfig) (db : Db) (id : UUID) (w : Workflow) (cleanupID : UUID) :
    Prop where
  row : db.workflows.get? id = some w
  type : w.workflowType = .snapshot
  stage : w.state = .transferring ∨ w.state = .verifying ∨ w.state = .publishing
  recovery : db.isCurrent w → w.errorCode = some .controllerGenerationRecovery
  active : db.activeGeneration.isSome
  source : (db.nodes.get? w.sourceNodeID).isSome
  target : ∃ target, db.nodes.get? w.targetNodeID = some target ∧ snapshotNodeReady target ∧
    c.dataPath w target
  manifest : (workflowSnapshot db id).isSome
  capability : (preparedCapability db id).isSome
  completable : Completable db id w cleanupID

namespace Receipted

variable (h : Receipted c db id w cleanupID)
include h

lemma live : w.state.live := by
  rcases h.stage with hs | hs | hs <;> rw [hs] <;> rfl

lemma execute (hcurrent : db.isCurrent w) :
    ∃ act db', reconcilerStep c db act = some db' ∧ Published db id db' := by
  have hawake : w.state ≠ .retryWait := by
    rcases h.stage with hs | hs | hs <;> rw [hs] <;> decide
  have hmark := h.recovery hcurrent
  obtain ⟨now, hdue⟩ := exists_due w
  obtain ⟨t, hclaim, hrow⟩ := claimWorkflow_of_current h.row h.live hcurrent
    (fun hwaits => absurd hwaits hawake) hdue
  rw [claimedRow, if_neg hawake] at hrow
  have hjob : (executionJob { db with workflows := t } id w.workflowType).isSome := by
    rw [h.type, executionJob, isSome_map]
    exact h.completable.job.executionJob
  have hclaimed : ({ db with workflows := t } : Db).workflows.get? id = some w := hrow
  obtain ⟨e, hload, hread⟩ := readFrom_of_loadExecution hclaimed hjob
  obtain ⟨source, hsource⟩ := isSome_iff_exists.mp h.source
  obtain ⟨target, htarget, hready, hpath⟩ := h.target
  obtain ⟨cap, hcap⟩ := isSome_iff_exists.mp h.capability
  let v : Workflow := { w with state := .publishing, errorCode := none, nextAttemptAt := none }
  have hprepare : perform { db with workflows := t } (.prepareRecoveredSnapshotCompletion id) =
      { db with workflows := t.put id v } := by
    refine perform_of_ok ?_
    exact ok_need hrow (ok_require ⟨h.type, hcurrent, hmark, h.stage⟩ rfl)
  refine ⟨.executeSnapshot id (answeredSnapshot w 0 ⟨0, 0⟩ cleanupID) now, completeSnapshotExecution
    (answeredSnapshot w 0 ⟨0, 0⟩ cleanupID) e w target now 0 { db with workflows := t.put id v },
    ?_, ?_⟩
  · simp only [reconcilerStep, executeSnapshot, hclaim, hload, hrow, bind_eq_bind, bind_some,
      h.type, hsource, htarget, hready, hpath, ne_eq, not_true_eq_false, if_false, if_true,
      hmark, Bool.true_eq_false, recoverSnapshot, if_pos h.stage, hread.workflowID,
      ← hprepare, answeredSnapshot]
  · have hput : ({ db with workflows := t.put id v } : Db).workflows.get? id = some v :=
      get?_put_self ..
    exact completeSnapshotExecution_succeeds _ target now 0 hread.workflowID hput rfl
      h.type hcurrent
      rfl h.manifest hcap rfl { h.completable with }

/-- **A receipt completes the snapshot**, after a promotion too, whatever its source does. -/
theorem succeeds :
    ∃ acts db', run (reconcilerStep c) db acts = some db' ∧ Published db id db' := by
  cases hcurrent : db.isCurrent w with
  | true =>
    obtain ⟨act, db', hstep, hpublished⟩ := h.execute hcurrent
    exact ⟨[act], db', run_cons_eq_some.mpr ⟨db', hstep, run_nil _⟩, hpublished⟩
  | false =>
    obtain ⟨generation, hcurrent', hstep⟩ := reconcilerStep_adoptSnapshot (c := c) h.row h.live
      h.type h.active hcurrent 0
    have hadopted : Receipted c { db with
        workflows := db.workflows.put id (adopted w generation 0) } id (adopted w generation 0)
        cleanupID :=
      ⟨get?_put_self .., h.type, h.stage, fun _ => rfl, h.active, h.source, h.target, h.manifest,
        h.capability, { h.completable with }⟩
    obtain ⟨act, db', hstep', hpublished⟩ := hadopted.execute hcurrent'
    exact ⟨[_, act], db', run_cons_eq_some.mpr ⟨_, hstep, run_cons_eq_some.mpr
      ⟨db', hstep', run_nil _⟩⟩, hpublished⟩

end Receipted

end StControl.Controller
