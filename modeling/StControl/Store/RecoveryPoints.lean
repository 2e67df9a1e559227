import StControl.Store.Transitions

/-!
# Recovery points come from the home

A completed snapshot makes the copy on its target a ready recovery point.  Its data are the ones
that the source had when the workflow ran, so the recovery point is one of the user's current data
only if the source is the home.

Neither `CreateSnapshotWorkflow` nor `CompleteSnapshotWorkflow` compares the two.  The creation
leaves it to its caller to name the home, as read in an earlier statement, and a takeover or a
retirement migration moves the home while a snapshot of the old one is under way:
`superseded_data_become_ready` is such a run.  A restore and a conflict resolution cannot, because
each is a workflow itself and only one is live at a time.  `only_home_data_become_ready` proves
that in every run without these two the source of a snapshot that completes is the home.
-/

namespace StControl.Store

open Transaction Run Option Table

variable {db db' db₀ : Db} {act : Act}
variable {w : Workflow}

def Workflow.managedSnapshot (w : Workflow) : Bool :=
  w.workflowType = .snapshot && w.mode ≠ .independentReconciliation

/-- A managed snapshot is created from the home, and the home is not moved by a takeover or a
migration while one is live. -/
def snapshotsFromHome (db : Db) : Act → Bool
  | .createSnapshotWorkflow p =>
    p.request.mode = .independentReconciliation || db.user.homeNodeID = some p.sourceNodeID
  | .confirmReplicaTakeover _ | .completeNodeRetirementHomeMigration .. =>
    db.workflows.all fun _ w => !w.managedSnapshot || !w.state.live
  | _ => true

def Db.SourcesHome (db : Db) : Prop :=
  ∀ id w, db.workflows.get? id = some w → w.managedSnapshot → w.state.live →
    db.user.homeNodeID = some w.sourceNodeID

lemma Workflow.managedSnapshot_type (h : w.managedSnapshot) : w.workflowType = .snapshot := by
  simp only [Workflow.managedSnapshot, Bool.and_eq_true,
    decide_eq_true_eq] at h
  exact h.1

lemma Workflow.Kept.managedSnapshot {w' : Workflow} (h : w.Kept w')
    (hmanaged : w'.managedSnapshot) : w.managedSnapshot := by
  rwa [Workflow.managedSnapshot, ← h.type, ← h.mode]

lemma home_kept_of_live (hlinked : db.WellLinked) (hcond : snapshotsFromHome db act)
    {id : UUID} (hw : db.workflows.get? id = some w) (hmanaged : w.managedSnapshot)
    (hlive : w.state.live) (hhome : db.user.homeNodeID = some w.sourceNodeID)
    (h : Committed db act db') : db'.user.homeNodeID = some w.sourceNodeID := by
  have htype := Workflow.managedSnapshot_type hmanaged
  have hblocked : (db.workflows.all fun _ w => !w.managedSnapshot || !w.state.live) = false := by
    rw [← Bool.not_eq_true, Table.all_eq_true]
    intro hall
    have hw' := hall id w hw
    simp [hmanaged, hlive] at hw'
  have hchange := h.home
  generalize db'.user.homeNodeID = o at hchange ⊢
  cases hchange with
  | kept => exact hhome
  | founded homeless => rw [homeless] at hhome; cases hhome
  | takenOver | migrated => exact absurd (hblocked.symm.trans hcond) Bool.false_ne_true
  | restored hp =>
    exact (no_restore_of_live hlinked hw hlive (by simp [htype]) hp).elim
  | resolved hp =>
    exact (no_resolution_of_live hlinked hw hlive (by simp [htype]) hp).elim

lemma WorkflowCreated.sourceHome {id : UUID} (hcreated : WorkflowCreated db act id w)
    (hcond : snapshotsFromHome db act) (hmanaged : w.managedSnapshot)
    (h : Committed db act db') : db'.user.homeNodeID = some w.sourceNodeID := by
  have hhome : db.user.homeNodeID = some w.sourceNodeID := by
    cases hcreated with
    | @snapshot p generation accounts hp =>
      have hmode : p.request.mode ≠ .independentReconciliation :=
        of_decide_eq_true (Bool.and_eq_true_iff.mp hmanaged).2
      simpa [snapshotsFromHome, hmode, newWorkflow] using hcond
    | repair hp => exact hp.isHome
    | restore | resolution => cases hmanaged
  have hchange := h.home
  generalize db'.user.homeNodeID = o at hchange ⊢
  cases hchange with
  | kept => exact hhome
  | founded homeless => rw [homeless] at hhome; cases hhome
  | _ => cases hcreated

lemma Committed.sourcesHome (hsources : db.SourcesHome) (hlinked : db.WellLinked)
    (hcond : snapshotsFromHome db act) (h : Committed db act db') : db'.SourcesHome := by
  intro id w' hw' hmanaged hlive
  rcases h.workflows with hkept | ⟨k, v, hcreated, htable⟩
  · obtain ⟨w, hw, hww'⟩ := hkept.before hw'
    have hmanaged₀ := hww'.managedSnapshot hmanaged
    have hlive₀ : w.state.live := by
      refine h.live_before hlinked.resolutions hw ?_ hw' hlive
      rw [Workflow.managedSnapshot_type hmanaged₀]
      exact nofun
    rw [hww'.source]
    exact home_kept_of_live hlinked hcond hw hmanaged₀ hlive₀ (hsources id w hw hmanaged₀ hlive₀) h
  · rw [htable] at hw'
    obtain ⟨-, rfl⟩ | hw' := of_get?_put hw'
    · exact hcreated.sourceHome hcond hmanaged h
    · exact home_kept_of_live hlinked hcond hw' hmanaged hlive (hsources id w' hw' hmanaged hlive) h

/-- **Only home data become ready.**  In every run in which managed snapshots are created from the
home and the home is not moved by a takeover or a migration while one is live, a managed snapshot
that completes, and whose copy is then ready on its target, has the home as its source. -/
theorem only_home_data_become_ready {acts : List Act} (hfresh : Fresh db₀)
    (hmeets : Meets step (fun s a => snapshotsFromHome s a = true) db₀ acts)
    (hrun : run step db₀ acts = some db) {p : CompleteSnapshotWorkflowParams} {w : Workflow}
    (hw : db.workflows.get? p.workflowID = some w) (hmanaged : w.managedSnapshot = true)
    (hopen : w.state ≠ .succeeded) (hstep : step db (.completeSnapshotWorkflow p) = some db') :
    (∃ c, db'.copies.get? p.targetNodeID = some c ∧ c.state = .ready ∧
      c.snapshotID = some p.snapshotID) ∧
    w.targetNodeID = p.targetNodeID ∧ db'.user.homeNodeID = some w.sourceNodeID := by
  have hinv : ∀ s a s', s.SourcesHome ∧ s.WellLinked → snapshotsFromHome s a →
      step s a = some s' → s'.SourcesHome ∧ s'.WellLinked := by
    rintro s a s' ⟨hs, hl⟩ hcond hstep
    have hcommitted := step_committed hstep
    exact ⟨hcommitted.sourcesHome hs hl hcond, hcommitted.wellLinked hl⟩
  have hsources : db₀.SourcesHome := by
    intro id w hw
    simp [hfresh.workflows, get?_empty] at hw
  obtain ⟨hsources, -⟩ := run_invariant_of_meets hinv ⟨hsources, hfresh.wellLinked⟩ hmeets hrun
  have hok := step_eq_some.mp hstep
  simp only [Act.transaction, hw, any_some] at hok
  obtain ⟨hnamed, hok⟩ := of_ite_error hok
  simp only [Bool.and_eq_true, decide_eq_true_eq] at hnamed
  obtain ⟨v, hv, ⟨hsucceeded, -⟩ | ⟨hpublishing, rfl⟩⟩ := completeSnapshotWorkflow_commit db' hok
  · rw [mem_unique hw hv] at hopen
    exact absurd hsucceeded hopen
  obtain rfl := mem_unique hw hv
  have hlive : w.state.live := by rw [hpublishing]; rfl
  refine ⟨?_, hnamed.2, hsources _ w hw hmanaged hlive⟩
  refine ⟨_, get?_upsert_self _ _ _ _, ?_, ?_⟩
  all_goals
    generalize Table.get? _ p.targetNodeID = o
    cases o <;> rfl

/-- A standby on node `2` and, after it, an archive of the home on node `3` that is complete. -/
def archiveOfHome : List Act :=
  sampleTransfer 50 1 2 .hotStandby 10 ++ [sampleCompletion 50 2 .hotStandby 15] ++
    sampleTransfer 51 1 3 .archive 20

theorem only_home_data_become_ready_archive : ∃ db db', run step sampleDb archiveOfHome = some db ∧
      step db (sampleCompletion 51 3 .archive 30) = some db' ∧ db'.user.homeNodeID = some 1 := by
  obtain ⟨db, hrun, db', hstep, w, hw, hmanaged, hopen, hsource⟩ :
      ∃ db ∈ run step sampleDb archiveOfHome, ∃ db' ∈ step db (sampleCompletion 51 3 .archive 30),
        ∃ w ∈ db.workflows.get? 51,
          w.managedSnapshot ∧ w.state ≠ .succeeded ∧ w.sourceNodeID = 1 := by
    decide +kernel
  have hhome := (only_home_data_become_ready sampleDb_registered.toFresh (by decide +kernel) hrun
    hw hmanaged hopen hstep).2.2
  exact ⟨db, db', hrun, hstep, hsource ▸ hhome⟩

/-- **Superseded data become ready.**  The standby takes over while the archive of the old home is
being published; the archive is then recorded as ready although its source is not the home. -/
theorem superseded_data_become_ready :
    ¬ ∀ (db₀ : Db) (home : NodeID) (acts : List Act) (db db' : Db)
      (p : CompleteSnapshotWorkflowParams) (w : Workflow), Registered db₀ home →
      run step db₀ acts = some db → db.workflows.get? p.workflowID = some w →
      w.managedSnapshot = true → w.state ≠ .succeeded →
      step db (.completeSnapshotWorkflow p) = some db' →
      db'.user.homeNodeID = some w.sourceNodeID := by
  intro hclaim
  let p : CompleteSnapshotWorkflowParams :=
    { workflowID := 51, snapshotID := 51, capabilityHash := 51, targetNodeID := 3
      replicaKind := .archive, replicaOrigin := .configured, manifestSHA256 := 1, cleanupID := 51
      now := 30 }
  obtain ⟨db, hrun, db', hstep, w, hw, hmanaged, hopen, hother⟩ :
      ∃ db ∈ run step sampleDb
        (archiveOfHome ++ [.confirmReplicaTakeover (sampleTakeover 60 2 15 25)]),
        ∃ db' ∈ step db (.completeSnapshotWorkflow p), ∃ w ∈ db.workflows.get? 51,
          w.managedSnapshot ∧ w.state ≠ .succeeded ∧
            db'.user.homeNodeID ≠ some w.sourceNodeID := by
    decide +kernel
  exact hother (hclaim sampleDb 1 _ db db' p w sampleDb_registered hrun hw hmanaged hopen hstep)

end StControl.Store
