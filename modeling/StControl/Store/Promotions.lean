import StControl.Store.Retiring

/-!
# Promotions

A restore and a retirement migration make another node the home some time after they were created.
The archive that a restore promotes is the one whose publication time was acknowledged at its
creation (`restoreKept`); the node that a migration replaces was the home ever since the
retirement was opened, and nobody became a writer on it since (`migrationKept`).  Both complete
only while no writer session is live.

Data that were written after the archive of a restore was captured are lost: this is what the
acknowledgement is for, and `restore_loses_writes` is such a run.
-/

namespace StControl.Store

open Transaction Run Option Table

variable {db db' : Db} {act : Act}
variable {generation : ℤ} {accounts : Table NodeID NodeAccount} {db₁ db₂ db₃ : Db}
  {hasOtherItems : Bool}

/-! ## Restores under way -/

structure RestoreOperation.Restores (o : RestoreOperation) (p : CreateRestoreWorkflowParams)
    (archive : RecoveryPoint) : Prop where
  target : o.targetNodeID = p.targetNodeID
  source : o.sourceNodeID = archive.nodeID
  snapshot : o.sourceSnapshotID = archive.snapshotID
  published : o.sourcePublishedAt = archive.publishedAt

/-- The workflow that a request has created is a restore, and its operation is the one from its
creation. -/
structure RestoreUnderway (p : CreateRestoreWorkflowParams) (archive : RecoveryPoint) (db : Db) :
    Prop where
  workflow : ∃ w, db.workflows.get? p.workflowID = some w ∧ w.workflowType = .restore
  operation : ∀ id o, db.restores.get? id = some o → o.workflowID = p.workflowID →
    o.Restores p archive

def RestoreKeepsHome (p : CreateRestoreWorkflowParams) (home : NodeID) (db : Db) : Prop :=
  ∀ w, db.workflows.get? p.workflowID = some w → w.state.live →
    db.user.homeNodeID = some home

def noOtherPromotion : Act → Bool
  | .confirmReplicaTakeover _ | .completeNodeRetirementHomeMigration .. => false
  | _ => true

section

variable {p : CreateRestoreWorkflowParams} {archive : RecoveryPoint} {home : NodeID}

lemma RestoreUnderway.after_step (h : RestoreUnderway p archive db)
    (hstep : step db act = some db') :
    RestoreUnderway p archive db' := by
  have hcommitted := step_committed hstep
  obtain ⟨w, hw, htype⟩ := h.workflow
  obtain ⟨w', hw', hkept⟩ := hcommitted.workflow_kept hw
  refine ⟨⟨w', hw', hkept.type.trans htype⟩, fun id o' ho' hworkflow => ?_⟩
  rcases hcommitted.restores with hr | ⟨q, _, _, manifest, generation, accounts, hq, rfl⟩
  · obtain ⟨o, ho, hoo'⟩ := hr.before ho'
    have hrestores := h.operation id o ho (hoo'.workflow.symm.trans hworkflow)
    exact ⟨hoo'.target.trans hrestores.target, hoo'.source.trans hrestores.source,
      hoo'.snapshot.trans hrestores.snapshot, hoo'.published.trans hrestores.published⟩
  · -- the workflow of a new restore is new, so it is not this one
    obtain ⟨-, rfl⟩ | ho' := of_get?_put ho'
    · have hfresh := (WorkflowCreated.restore hq).accepted.1
      simp [show q.workflowID = p.workflowID from hworkflow, hw] at hfresh
    · exact h.operation id o' ho' hworkflow

lemma RestoreKeepsHome.after_step (h : RestoreKeepsHome p home db)
    (hunderway : RestoreUnderway p archive db)
    (hlinked : db.WellLinked) (hcond : noOtherPromotion act)
    (hstep : step db act = some db') : RestoreKeepsHome p home db' := by
  intro w' hw' hlive'
  have hcommitted := step_committed hstep
  obtain ⟨w, hw, htype⟩ := hunderway.workflow
  have hne : w.workflowType ≠ .conflictResolution := by
    rw [htype]
    exact nofun
  have hlive := hcommitted.live_before hlinked.resolutions hw hne hw' hlive'
  have hhome := h w hw hlive
  have hchange := hcommitted.home
  generalize hhome' : db'.user.homeNodeID = o at hchange ⊢
  cases hchange with
  | kept => exact hhome
  | founded homeless => rw [homeless] at hhome; cases hhome
  | takenOver | migrated => cases hcond
  | resolved hq => exact (no_resolution_of_live hlinked hw hlive hne hq).elim
  | @restored q v operationID operation home' hq =>
    have hvlive : v.state.live := by rw [hq.publishing]; rfl
    have hsame := hlinked.oneLive _ _ w v hw hq.workflow hlive hvlive
    -- the restore itself is over after it has moved the home
    rcases completeRestoreWorkflow_commit db' (step_eq_some.mp hstep) with ⟨rfl, -⟩ |
      ⟨v', id', o', home'', hq', rfl⟩
    · exact hhome'.symm.trans hhome
    · dsimp only [promoteRestored] at hw'
      rw [hsame, get?_modify_self, hq.workflow, map_some] at hw'
      rw [← some.inj hw'] at hlive'
      cases hlive'

lemma RestoreCreation.underway {manifest : SnapshotManifest} (hlinked : db.RestoresLinked)
    (h : RestoreCreation p db home archive manifest generation accounts) : RestoreUnderway p archive
      (insertRestoreWorkflow p archive manifest.activityEpoch generation accounts db) := by
  have hfresh := (WorkflowCreated.restore h).accepted.1
  refine ⟨⟨_, get?_put_self .., rfl⟩, fun id o ho hworkflow => ?_⟩
  obtain ⟨-, rfl⟩ | ho := of_get?_put ho
  · exact ⟨rfl, rfl, rfl, rfl⟩
  · obtain ⟨w, hw, -⟩ := hlinked id o ho
    simp [hworkflow, hfresh] at hw

end

/-! ## The two promotions -/

/-- The home is `node` in every state of the run. -/
def HomeThroughout (node : NodeID) (db : Db) (acts : List Act) : Prop :=
  ∀ xs ys t, acts = xs ++ ys → run step db xs = some t → t.user.homeNodeID = some node

/-- No login of the run leads to `node`; a login that only repeats an earlier answer is not
counted. -/
def NoLoginOn (node : NodeID) (db : Db) (acts : List Act) : Prop :=
  ∀ xs q ys t handoff t', acts = xs ++ .createLoginHandoff q :: ys → run step db xs = some t →
    createLoginHandoff q t = .ok (handoff, t') → handoff.replayed = false →
    handoff.targetNodeID ≠ node

/-- No login of the run makes `node` a new writer. -/
def NoNewWriterOn (node : NodeID) (db : Db) (acts : List Act) : Prop :=
  ∀ xs q ys t handoff t', acts = xs ++ .createLoginHandoff q :: ys → run step db xs = some t →
    createLoginHandoff q t = .ok (handoff, t') → handoff.replayed = false →
    handoff.acquired → handoff.targetNodeID ≠ node

/-- What holds when `q` completes, in `db₂`, the restore that `p` has created in `db`. -/
structure RestoreKept (p : CreateRestoreWorkflowParams) (q : CompleteRestoreWorkflowParams)
    (db : Db) (between : List Act) (db₂ db₃ : Db) : Prop where
  promoted : db₃.user.homeNodeID = some p.targetNodeID
  archive : ∃ archive manifest operationID operation,
    db.offeredArchive = some (archive, manifest) ∧ archive.publishedAt = p.expectedRecoveryAt ∧
    db₂.restoreOperation p.workflowID = some (operationID, operation) ∧
    operation.Restores p archive ∧ db₂.archiveUnchanged operation
  idleAtCreation : db.lease.all (fun l => !l.refusesRestore p.now)
  idle : db₂.lease.all (fun l => !l.refusesRestore q.now)
  home : (∀ a ∈ between, noOtherPromotion a) → db₂.user.homeNodeID = db.user.homeNodeID

/-- What holds when the migration of the home off `node`, which was opened in `db₁`, completes in
`db₂`. -/
structure MigrationKept (node : NodeID) (workflowID : UUID) (now : Time) (db₁ : Db)
    (between : List Act) (db₂ db₃ : Db) : Prop where
  promoted : ∃ target, db₃.user.homeNodeID = some target ∧ target ≠ node ∧
    db₂.migrationReady target workflowID
  idle : db₂.lease.all (fun l => !l.busy now)
  home : HomeThroughout node db₁ between
  noNewWriter : NoNewWriterOn node db₁ between
  captured : ∃ xs p ys s, between = xs ++ .createSnapshotWorkflow p :: ys ∧
    p.workflowID = workflowID ∧ p.sourceNodeID = node ∧
    run step db₁ (xs ++ [.createSnapshotWorkflow p]) = some s ∧
    ((∀ a ∈ ys, ∀ t, a.leaseTime = some t → p.now ≤ t) →
      Meets step (fun s a => leaseNotRevived s a) s ys → NoLoginOn node s ys)

/-- **The restore.** -/
theorem restoreKept {p : CreateRestoreWorkflowParams} {q : CompleteRestoreWorkflowParams}
    {between : List Act} (hlinked : db.WellLinked) (hfresh : db.restores.get? p.operationID = none)
    (hcreate : step db (.createRestoreWorkflow p) = some db₁)
    (hrun : run step db₁ between = some db₂) (hq : q.workflowID = p.workflowID)
    (hopen : ∀ w, db₂.workflows.get? q.workflowID = some w → w.state ≠ .succeeded)
    (hcomplete : step db₂ (.completeRestoreWorkflow q) = some db₃) :
    RestoreKept p q db between db₂ db₃ := by
  obtain ⟨home, archive, manifest, generation, accounts, hp, rfl⟩ :=
    createRestoreWorkflow_created hfresh db₁ (step_eq_some.mp hcreate)
  obtain ⟨-, w, hw, hdone⟩ | ⟨w, operationID, operation, home', hcommit, rfl⟩ :=
    completeRestoreWorkflow_commit db₃ (step_eq_some.mp hcomplete)
  · exact absurd hdone (hopen w hw)
  have hlinked₁ := (step_committed hcreate).wellLinked hlinked
  have hunderway₁ := hp.underway hlinked.restores
  have hunderway : RestoreUnderway p archive db₂ :=
    run_invariant (fun s a s' hs hstep => hs.after_step hstep) hunderway₁ hrun
  obtain ⟨hrow, hworkflow⟩ := of_find?_eq_some hcommit.ofWorkflow
  have hrestores := hunderway.operation operationID operation hrow
    ((of_decide_eq_true hworkflow).trans hq)
  refine ⟨congrArg some hrestores.target, ⟨archive, manifest, operationID, operation, hp.offered,
    hp.acknowledged, hq ▸ hcommit.ofWorkflow, hrestores, hcommit.unchanged⟩, hp.lease,
    hcommit.lease, fun hothers => ?_⟩
  have hinv : ∀ s a s', (RestoreUnderway p archive s ∧ s.WellLinked ∧ RestoreKeepsHome p home s) →
      noOtherPromotion a → step s a = some s' →
      RestoreUnderway p archive s' ∧ s'.WellLinked ∧ RestoreKeepsHome p home s' := by
    rintro s a s' ⟨hs, hl, hk⟩ hcond hstep
    exact ⟨hs.after_step hstep, (step_committed hstep).wellLinked hl,
      hk.after_step hs hl hcond hstep⟩
  have hkeeps := (run_invariant_of_meets hinv ⟨hunderway₁, hlinked₁, fun _ _ _ => hp.isHome⟩
    (meets_of_forall hothers _) hrun).2.2
  have hlive : w.state.live := by rw [hcommit.publishing]; rfl
  rw [hkeeps w (hq ▸ hcommit.workflow) hlive, hp.isHome]

lemma startNodeRetirement_retires {retirementID itemID : UUID} {node : NodeID}
    (hlives : db.livesOn node) :
    Ensures (startNodeRetirement retirementID itemID node hasOtherItems db) fun db₁ =>
      RetiresHome itemID node db₁ ∧
        ∃ item, db₁.retirementItems.get? itemID = some item ∧ item.workflowID = none := by
  refine startNodeRetirement_commit.mono ?_
  rintro _ ⟨n, operation, -, -, -, -, hnode, hisOpen, rfl⟩
  have hhome : db.user.homeNodeID = some node := by
    simp only [Db.livesOn, Bool.and_eq_true,
      decide_eq_true_eq] at hlives
    exact hlives.1
  have hitems : db.openedItems retirementID itemID node n.role = db.retirementItems.put itemID
      { retirementID, sourceNodeID := node, targetNodeID := none, itemKind := .authoritativeHome
        state := .pending, workflowID := none } := by
    simp [Db.openedItems, Db.retirementItemKind, hlives]
  rw [hitems]
  exact ⟨⟨⟨_, operation, get?_put_self .., get?_put_self .., rfl, hnode, by simp,
    fun _ => ⟨hisOpen, _, get?_put_self .., rfl⟩⟩, by rw [hhome]; rfl⟩,
    _, get?_put_self .., rfl⟩

lemma SnapshotCommit.expiredOn {p : CreateSnapshotWorkflowParams} {itemID : UUID} {jobID : ℤ}
    (h : SnapshotCommit p db generation accounts) (hrequest : p.request = .retirement itemID jobID)
    (node : NodeID) : ExpiredOn node p.now (insertSnapshotWorkflow p generation accounts db) := by
  intro l hl _ _
  simp only [insertSnapshotWorkflow, hrequest, SnapshotRequest.lease] at hl
  have hlease := h.lease
  simp only [hl, all_some, CreateSnapshotWorkflowParams.refusedBy, hrequest,
    ActivityLease.refusesSnapshot, Bool.not_eq_true', Bool.or_eq_false_iff, decide_eq_false_iff_not]
    at hlease
  exact Int.not_lt.mp hlease.1.1.1.2

section

variable {itemID workflowID : UUID} {node : NodeID} {between : List Act}

lemma RetiresHome.capture (h : RetiresHome itemID node db)
    (hmeets : Meets step (fun s a => retirementRespected s a) db between)
    (hrun : run step db between = some db')
    (hbefore : ∃ item, db.retirementItems.get? itemID = some item ∧ item.workflowID = none)
    (hafter : ∃ item, db'.retirementItems.get? itemID = some item ∧
      item.workflowID = some workflowID) :
    ∃ xs p ys s, between = xs ++ .createSnapshotWorkflow p :: ys ∧ p.workflowID = workflowID ∧
      p.sourceNodeID = node ∧ run step db (xs ++ [.createSnapshotWorkflow p]) = some s ∧
      run step s ys = some db' ∧ ExpiredOn node p.now s := by
  obtain ⟨xs, a, ys, t, t', rfl, ht, hstep, hrest, hnot, item', hitem', hworkflow⟩ :=
    run_crossing (Q := fun s => ∃ item, s.retirementItems.get? itemID = some item ∧
      item.workflowID = some workflowID) hrun
      (by
        rintro ⟨item, hitem, hsome⟩
        obtain ⟨item₀, hitem₀, hnone⟩ := hbefore
        obtain rfl := mem_unique hitem hitem₀
        rw [hnone] at hsome
        cases hsome)
      hafter
  obtain ⟨hxs, hys⟩ := meets_append.mp hmeets
  obtain ⟨⟨item, operation, hretiring⟩, -⟩ : RetiresHome itemID node t :=
    run_invariant_of_meets (fun s a s' hs hcond hstep => hs.after_step hcond hstep) h hxs ht
  obtain ⟨item'', operation', hretiring', hfollows⟩ := hretiring.after_step (hys t ht).1 hstep
  obtain rfl := mem_unique hitem' hretiring'.hasItem
  obtain hold | ⟨p, jobID, rfl, hrequest, rfl⟩ := hfollows.workflow workflowID hworkflow
  · exact absurd ⟨item, hretiring.hasItem, hold⟩ hnot
  obtain ⟨generation, accounts, hp, rfl⟩ :=
    createSnapshotWorkflow_commit t' (step_eq_some.mp hstep)
  obtain ⟨w, hw, hsource⟩ := hretiring'.sourced p.workflowID hworkflow
  have hnew : w = _ := mem_unique hw (get?_put_self ..)
  subst hnew
  refine ⟨xs, p, ys, _, rfl, rfl, hsource, ?_, hrest, hp.expiredOn hrequest node⟩
  exact run_append_eq_some.mpr ⟨t, ht, by rw [run_cons, hstep]; rfl⟩

section

variable
  (hleaving : ∀ xs ys t, between = xs ++ ys → run step db xs = some t → ∃ n, t.nodes.get? node =
    some n ∧ n.operationalState.leaving)
include hleaving

lemma noLoginOn_of_leaving {t₀ : Time} (hexpired : ExpiredOn node t₀ db)
    (htime : ∀ a ∈ between, ∀ t, a.leaseTime = some t → t₀ ≤ t)
    (hnotRevived : Meets step (fun s a => leaseNotRevived s a) db between) :
    NoLoginOn node db between := by
  rintro xs q ys t handoff t' rfl ht hlogin hnew
  have hmeets : Meets step (fun s a => (∃ n, s.nodes.get? node = some n ∧
      n.operationalState.leaving) ∧ (∀ t, a.leaseTime = some t → t₀ ≤ t) ∧
      leaseNotRevived s a) db xs := by
    refine meets_iff.mpr fun us a vs u hsplit hu => ⟨?_, htime a ?_, ?_⟩
    · exact hleaving us (a :: vs ++ .createLoginHandoff q :: ys) u (by simp [hsplit]) hu
    · simp [hsplit]
    · exact meets_iff.mp (meets_append.mp hnotRevived).1 us a vs u hsplit hu
  have hexpired' : ExpiredOn node t₀ t := run_invariant_of_meets
    (fun s a s' hs hcond hstep => hs.after_step hcond.1 hcond.2.1 hcond.2.2 hstep)
    hexpired hmeets ht
  obtain ⟨hreplayed, -⟩ | ⟨generation, lease, outcome, n, hdecision, -, -, htarget, -⟩ :=
    createLoginHandoff_commit _ hlogin
  · simp [hnew] at hreplayed
  · rw [htarget]
    exact hexpired'.login_elsewhere (hleaving xs _ t rfl ht)
      (htime (.createLoginHandoff q) (by simp) q.now rfl) hdecision

lemma noNewWriterOn_of_leaving : NoNewWriterOn node db between := by
  rintro xs q ys t handoff t' rfl ht hlogin hnew hacquired
  obtain ⟨hreplayed, -⟩ | ⟨generation, lease, outcome, n, hdecision, -, houtcome, htarget, -⟩ :=
    createLoginHandoff_commit _ hlogin
  · simp [hnew] at hreplayed
  rw [htarget]
  intro hwriter
  obtain ⟨m, hm, hleaving⟩ := hleaving xs _ t rfl ht
  have hn := hdecision.reached
  rw [hwriter] at hn
  obtain rfl := mem_unique hn hm
  have hexisting := Node.acceptsLogin_of_leaving hleaving hdecision.accepts
  obtain rfl : outcome = .acquired := by
    rw [hacquired] at houtcome
    simpa using houtcome.symm
  cases hexisting

end

end

/-- **The migration.** -/
theorem migrationKept {retirementID itemID workflowID : UUID} {node : NodeID} {now : Time}
    {between : List Act} (hlives : db.livesOn node)
    (hstart : step db (.startNodeRetirement retirementID itemID node hasOtherItems) = some db₁)
    (hrun : run step db₁ between = some db₂)
    (hmeets : Meets step (fun s a => retirementRespected s a) db₁ between)
    (hopen : ∀ item, db₂.retirementItems.get? itemID = some item → item.state ≠ .succeeded)
    (hcomplete : step db₂ (.completeNodeRetirementHomeMigration itemID workflowID now) = some db₃) :
    MigrationKept node workflowID now db₁ between db₂ db₃ := by
  obtain ⟨hretires, hunserved⟩ := startNodeRetirement_retires hlives db₁ (step_eq_some.mp hstart)
  obtain ⟨-, item, hitem, hdone⟩ | ⟨item, operation, w, target, hp, rfl⟩ :=
    completeNodeRetirementHomeMigration_commit db₃ (step_eq_some.mp hcomplete)
  · exact absurd hdone (hopen item hitem)
  obtain ⟨⟨item', operation', hretiring⟩, -⟩ : RetiresHome itemID node db₂ :=
    run_invariant_of_meets (fun s a s' hs hcond hstep => hs.after_step hcond hstep) hretires hmeets
      hrun
  obtain rfl := mem_unique hp.hasItem hretiring.hasItem
  obtain rfl := mem_unique hp.hasOperation hretiring.hasOperation
  have hawaits : AwaitsMigration itemID node db₂ :=
    ⟨⟨item, hp.hasItem, hp.unfinished⟩, by rw [hp.isHome, hretiring.ofNode]⟩
  have hthroughout : ∀ xs ys t, between = xs ++ ys → run step db₁ xs = some t →
      RetiresHome itemID node t ∧ AwaitsMigration itemID node t :=
    fun xs ys t hsplit ht => hretires.awaits_throughout hmeets hrun hawaits hsplit ht
  have hleaving : ∀ xs ys t, between = xs ++ ys → run step db₁ xs = some t →
      ∃ n, t.nodes.get? node = some n ∧ n.operationalState.leaving := by
    intro xs ys t hsplit ht
    obtain ⟨hretires', hawaits'⟩ := hthroughout xs ys t hsplit ht
    exact (hretires'.leaving hawaits').2
  obtain ⟨xs, p, ys, s, hsplit, hid, hsource, hs, -, hexpired⟩ :=
    hretires.capture hmeets hrun hunserved ⟨item, hp.hasItem, hp.linked⟩
  refine ⟨⟨target, rfl, ?_, hp.ready⟩, hp.lease, fun xs ys t hsplit ht =>
    (hthroughout xs ys t hsplit ht).2.2, noNewWriterOn_of_leaving hleaving,
    xs, p, ys, s, hsplit, hid, hsource, hs, fun htime hnotRevived =>
      noLoginOn_of_leaving (fun us vs t hus ht => ?_) hexpired htime hnotRevived⟩
  · -- the target serves, the old home does not
    rintro rfl
    obtain ⟨n, hn, hn'⟩ := (hretiring.underway hp.unfinished).2
    have hready := hp.ready
    simp only [Db.migrationReady, Bool.and_eq_true, hn, any_some,
      Node.not_serving_of_leaving hn'] at hready
    exact absurd hready.2.1.2 Bool.false_ne_true
  · refine hleaving (xs ++ [.createSnapshotWorkflow p] ++ us) vs t (by simp [hsplit, hus]) ?_
    exact run_append_eq_some.mpr ⟨s, hs, ht⟩

/-- **Promotions and newer writes.**  In every run, a restore promotes the archive whose publication
time its request has acknowledged, while no session is live, and unless another promotion came in
between it replaces the home from its creation.  A migration off a node that is not put back into
service meanwhile replaces a home that has been the home ever since the retirement was opened, on
which nobody became a writer since then, and to which no login was handed since the promoted
snapshot was started, as long as no report revived a session that had expired before. -/
theorem promotions_keep_newer_writes {db₀ : Db} {before : List Act} (hfresh : Fresh db₀)
    (hbefore : run step db₀ before = some db) :
    (∀ p q db₁ between db₂ db₃, db.restores.get? p.operationID = none →
      step db (.createRestoreWorkflow p) = some db₁ → run step db₁ between = some db₂ →
      q.workflowID = p.workflowID →
      (∀ w, db₂.workflows.get? q.workflowID = some w → w.state ≠ .succeeded) →
      step db₂ (.completeRestoreWorkflow q) = some db₃ → RestoreKept p q db between db₂ db₃) ∧
    (∀ retirementID itemID node hasOtherItems workflowID now db₁ between db₂ db₃,
      db.livesOn node = true →
      step db (.startNodeRetirement retirementID itemID node hasOtherItems) = some db₁ →
      run step db₁ between = some db₂ →
      Meets step (fun s a => retirementRespected s a = true) db₁ between →
      (∀ item, db₂.retirementItems.get? itemID = some item → item.state ≠ .succeeded) →
      step db₂ (.completeNodeRetirementHomeMigration itemID workflowID now) = some db₃ →
      MigrationKept node workflowID now db₁ between db₂ db₃) := by
  constructor
  · intro p q db₁ between db₂ db₃ hnew hcreate hrun hq hopen hcomplete
    exact restoreKept (run_wellLinked hfresh.wellLinked hbefore) hnew hcreate hrun hq hopen
      hcomplete
  · intro retirementID itemID node hasOtherItems workflowID now db₁ between db₂ db₃ hlives hstart
      hrun hmeets hopen hcomplete
    exact migrationKept hlives hstart hrun hmeets hopen hcomplete

/-! ## Two runs -/

/-- The account of the sample user on node `2`. -/
def sampleAccount : NodeAccount where
  localHandle := "user"
  status := .active
  accountVersion := 1
  hasPasswordMaterial := true

/-- An archive of the user's data on node `3`. -/
def archiveCompletion : CompleteSnapshotWorkflowParams where
  workflowID := 50
  snapshotID := 50
  capabilityHash := 50
  targetNodeID := 3
  replicaKind := .archive
  replicaOrigin := .configured
  manifestSHA256 := 1
  cleanupID := 50
  now := 15

def homeLost : List Act :=
  [ .environment (.node 1 { sampleCompute with connectivityState := .offline, status := .offline }),
    .reconcileProtectionStates 900 99 ]

/-- The restore of that archive to node `2`. -/
def sampleRestore : CreateRestoreWorkflowParams where
  operationID := 70
  requestDigest := 0
  workflowID := 71
  restoreSnapshotID := 72
  capabilityID := 73
  capabilityHash := 74
  capabilityExpires := 2000
  targetNodeID := 2
  expectedRecoveryAt := 15
  now := 1000

def sampleRestoreTransfer : List Act :=
  [ .environment (.account 2 sampleAccount), .startRestoreWorkflow 71,
    .setSnapshotWorkflowProgress 71 72 2 .verifying,
    .setSnapshotWorkflowProgress 71 72 2 .publishing ]

def sampleRestoreCompletion : CompleteRestoreWorkflowParams where
  workflowID := 71
  restoreSnapshotID := 72
  capabilityHash := 74
  manifestSHA256 := 1
  now := 1100

/-- The migration of the home from node `1` to node `2`, up to the end of its snapshot. -/
def sampleMigration : List Act :=
  [ .claimNodeRetirement 40, .createSnapshotWorkflow
      { workflowID := 44, operationID := 44, snapshotID := 44, capabilityID := 44
        capabilityHash := 44, capabilityExpires := 100, sourceNodeID := 1, targetNodeID := 2
        destinationKind := .hotStandby, relay := false, request := .retirement 41 5, now := 10 },
    .environment (.account 2 sampleAccount),
    .startSnapshotWorkflow 44,
    .setSnapshotWorkflowProgress 44 44 1 .drained,
    .setSnapshotWorkflowProgress 44 44 1 .snapshotting,
    .setSnapshotWorkflowProgress 44 44 1 .transferring,
    .setSnapshotWorkflowProgress 44 44 2 .verifying,
    .setSnapshotWorkflowProgress 44 44 2 .publishing,
    sampleCompletion 44 2 .hotStandby 20 ]

theorem promotions_keep_newer_writes_sample :
    (∃ db db₂ db₃, RestoreKept sampleRestore sampleRestoreCompletion db sampleRestoreTransfer db₂
      db₃) ∧ ∃ db₁ db₂ db₃, MigrationKept 1 44 30 db₁ sampleMigration db₂ db₃ := by
  constructor
  · obtain ⟨db, hbefore, db₁, hcreate, db₂, hrun, db₃, hcomplete, hnew, hopen⟩ :
        ∃ db ∈ run step sampleDb (sampleTransfer 50 1 3 .archive 10 ++
          [.completeSnapshotWorkflow archiveCompletion] ++ homeLost),
        ∃ db₁ ∈ step db (.createRestoreWorkflow sampleRestore),
        ∃ db₂ ∈ run step db₁ sampleRestoreTransfer,
        ∃ db₃ ∈ step db₂ (.completeRestoreWorkflow sampleRestoreCompletion),
          db.restores.get? 70 = none ∧ ∀ w ∈ db₂.workflows.get? 71, w.state ≠ .succeeded := by
      decide +kernel
    exact ⟨db, db₂, db₃, (promotions_keep_newer_writes sampleDb_registered.toFresh hbefore).1 _ _
      db₁ _ db₂ db₃ hnew hcreate hrun rfl hopen hcomplete⟩
  · obtain ⟨db₁, hstart, db₂, hrun, db₃, hcomplete, hmeets, hopen⟩ :
        ∃ db₁ ∈ step sampleDb (.startNodeRetirement 40 41 1 false),
        ∃ db₂ ∈ run step db₁ sampleMigration,
        ∃ db₃ ∈ step db₂ (.completeNodeRetirementHomeMigration 41 44 30),
          Meets step (fun s a => retirementRespected s a) db₁ sampleMigration ∧
            ∀ item ∈ db₂.retirementItems.get? 41, item.state ≠ .succeeded := by
      decide +kernel
    exact ⟨db₁, db₂, db₃, (promotions_keep_newer_writes sampleDb_registered.toFresh
      (run_nil _)).2 40 41 1 false 44 30 db₁ _ db₂ db₃ rfl hstart hrun hmeets hopen hcomplete⟩

/-- **A restore loses writes.**  The user logs in on the home after the archive was completed; the
home goes offline, and the restore promotes the archive. -/
theorem restore_loses_writes : ¬ ∀ (db₀ : Db) (home : NodeID) (acts₁ acts₂ acts₃ : List Act)
      (capture : CompleteSnapshotWorkflowParams) (login : CreateLoginHandoffParams)
      (q : CompleteRestoreWorkflowParams) (handoff : LoginHandoff) (s t db db' : Db),
      Registered db₀ home →
      run step db₀ (acts₁ ++ [.completeSnapshotWorkflow capture] ++ acts₂) = some s →
      createLoginHandoff login s = .ok (handoff, t) → handoff.acquired = true →
      run step t acts₃ = some db →
      (db.restoreOperation q.workflowID).map (·.2.sourceSnapshotID) = some capture.snapshotID →
      step db (.completeRestoreWorkflow q) = some db' → db'.user.homeNodeID ≠ db.user.homeNodeID →
      db.user.homeNodeID ≠ some handoff.targetNodeID := by
  intro hclaim
  obtain ⟨s, hs, ⟨handoff, t⟩, hlogin, db, hdb, db', hdb', hacquired, hsnapshot, hmoved,
      hhome⟩ : ∃ s ∈ run step sampleDb (sampleTransfer 50 1 3 .archive 10 ++
        [.completeSnapshotWorkflow archiveCompletion] ++ []),
      ∃ r ∈ (createLoginHandoff (sampleLogin 60 1 20) s).toOption,
      ∃ db ∈ run step r.2 (homeLost ++ [.createRestoreWorkflow sampleRestore] ++
        sampleRestoreTransfer),
      ∃ db' ∈ step db (.completeRestoreWorkflow sampleRestoreCompletion),
        r.1.acquired ∧ (db.restoreOperation 71).map (·.2.sourceSnapshotID) = some 50 ∧
          db'.user.homeNodeID ≠ db.user.homeNodeID ∧
          db.user.homeNodeID = some r.1.targetNodeID := by
    decide +kernel
  exact hclaim sampleDb 1 _ _ _ archiveCompletion _ sampleRestoreCompletion handoff s t db db'
    sampleDb_registered hs (toOption_eq_some.mp hlogin) hacquired hdb hsnapshot hdb' hmoved hhome

end StControl.Store
