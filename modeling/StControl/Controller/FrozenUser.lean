import StControl.Controller.Draining

/-!
# Workflows of a frozen user

A workflow that is live when its user is frozen by a conflict goes on, and the conflict cannot be
decided before it has ended.  What its executions change meanwhile is little (`Calm`): no resolution
is live, so that conflicts and resolutions stay; a restore cannot be completed, so that user and
lease stay; and a snapshot that is published or fails takes replicas out of the conflict, but brings
none in.
-/

namespace StControl.Controller

open Store Run Transaction Option Table

variable {c : RetryConfig} {db db' db'' : Db} {act : Act}

abbrev ConflictsEase (t t' : Table NodeID UserReplica) : Prop :=
  Table.Rel (fun _ r r' => r'.state = .conflict → r.state = .conflict) t t'

lemma ConflictsEase.refl (t : Table NodeID UserReplica) : ConflictsEase t t :=
  Table.Rel.refl (fun _ _ => id) t

lemma ConflictsEase.trans {t t' t'' : Table NodeID UserReplica} (h : ConflictsEase t t')
    (h' : ConflictsEase t' t'') : ConflictsEase t t'' :=
  Table.Rel.trans (fun _ _ _ _ hr hs hconflict => hr (hs hconflict)) h h'

abbrev IsEvidence (r : ReplicaCopy) : Prop :=
  r.state = .conflict ∨ r.isAuthoritative

structure Calm (db db' : Db) : Prop where
  user : db'.user = db.user
  lease : db'.lease = db.lease
  conflicts : db'.conflicts = db.conflicts
  resolutions : db'.resolutions = db.resolutions
  workflows : WorkflowsContinue db.workflows db'.workflows
  manifests : ∀ k, db.manifests.get? k = none → db'.manifests.get? k = none
  replicas : ConflictsEase db.replicas db'.replicas
  copies : ∀ n r', db'.copies.get? n = some r' →
    (IsEvidence r' → ∃ r, db.copies.get? n = some r ∧ IsEvidence r) ∧
      ((db.copies.get? n).isSome ∨ (db.replicas.get? n).isSome)

lemma Calm.refl (db : Db) : Calm db db where
  user := rfl
  lease := rfl
  conflicts := rfl
  resolutions := rfl
  workflows := .refl _
  manifests := fun _ => id
  replicas := .refl _
  copies := fun _ r hr =>
    ⟨fun hevidence => ⟨r, hr, hevidence⟩, .inl (isSome_iff_exists.mpr ⟨r, hr⟩)⟩

lemma Calm.trans (h : Calm db db') (h' : Calm db' db'') : Calm db db'' where
  user := h'.user.trans h.user
  lease := h'.lease.trans h.lease
  conflicts := h'.conflicts.trans h.conflicts
  resolutions := h'.resolutions.trans h.resolutions
  workflows := h.workflows.trans h'.workflows
  manifests := fun k hk => h'.manifests k (h.manifests k hk)
  replicas := h.replicas.trans h'.replicas
  copies := fun n r' hr' => by
    obtain ⟨hevidence', hrow'⟩ := h'.copies n r' hr'
    refine ⟨fun hr' => ?_, ?_⟩
    · obtain ⟨r₁, hr₁, hevidence₁⟩ := hevidence' hr'
      exact (h.copies n r₁ hr₁).1 hevidence₁
    · rcases hrow' with hcopy | hreplica
      · obtain ⟨r₁, hr₁⟩ := isSome_iff_exists.mp hcopy
        exact (h.copies n r₁ hr₁).2
      · obtain ⟨r₁, hr₁⟩ := isSome_iff_exists.mp hreplica
        obtain ⟨r, hr, -⟩ := h.replicas.before hr₁
        exact .inr (isSome_iff_exists.mpr ⟨r, hr⟩)

/-! ## The single transactions -/

/-- The transactions of an execution that write workflows, capabilities, jobs and accounts, and
nothing else. -/
def Act.movesWorkflow : Act → Bool
  | .adoptStaleSnapshotWorkflow .. | .adoptStaleConflictResolution .. | .resumeSnapshotRetry ..
  | .deferSnapshotWorkflow .. | .deferConflictResolution .. | .clearSnapshotWorkflowDeferral ..
  | .prepareRecoveredSnapshotCompletion .. | .resetRecoveredSnapshotWorkflow ..
  | .rotateSnapshotCapability .. | .startSnapshotWorkflow .. | .startRestoreWorkflow ..
  | .setSnapshotWorkflowProgress .. | .scheduleSnapshotRetry .. | .cancelSnapshotWorkflow ..
  | .resetRestoreTransferForRetry .. | .markConflictResolutionPublishing ..
  | .environment (.account ..) | .environment (.job ..) => true
  | _ => false

lemma moved_only (hact : Act.movesWorkflow act) : Ensures (act.transaction db) fun db' =>
    ∃ workflows capabilities jobs accounts,
      db' = { db with workflows, capabilities, jobs, accounts } := by
  cases act with
  | environment w => cases w <;>
      first
      | exact absurd hact Bool.false_ne_true
      | exact ensures_ok.mpr ⟨_, _, _, _, rfl⟩
  | resetRecoveredSnapshotWorkflow id now =>
    simp only [Act.transaction, resetRecoveredSnapshotWorkflow, ensures_steps, ensures_ite]
    exact fun _ _ _ _ _ => ⟨fun _ => ⟨_, _, _, _, rfl⟩, fun _ => ⟨_, _, _, _, rfl⟩⟩
  | markConflictResolutionPublishing id =>
    simp only [Act.transaction, markConflictResolutionPublishing, ensures_steps, ensures_ite]
    exact fun _ _ => ⟨fun _ => ⟨_, _, _, _, rfl⟩, fun _ _ => ⟨_, _, _, _, rfl⟩⟩
  | setSnapshotWorkflowProgress id snapshotID node state =>
    simp only [Act.transaction, setSnapshotWorkflowProgress, ensures_steps, ensures_ite]
    exact fun _ _ _ _ _ _ _ => ⟨fun _ => ⟨_, _, _, _, rfl⟩, fun _ _ => ⟨_, _, _, _, rfl⟩⟩
  | cancelSnapshotWorkflow id =>
    simp only [Act.transaction, cancelSnapshotWorkflow, ensures_steps, ensures_ite]
    exact ⟨fun _ => ⟨_, _, _, _, rfl⟩, fun _ => by simp⟩
  | _ =>
    first
    | exact absurd hact Bool.false_ne_true
    | simp only [Act.transaction, adoptStaleSnapshotWorkflow, adoptStaleConflictResolution,
        resumeSnapshotRetry, deferSnapshotWorkflow, deferConflictResolution,
        clearSnapshotWorkflowDeferral, prepareRecoveredSnapshotCompletion,
        rotateSnapshotCapability, setSnapshotWorkflowState, scheduleSnapshotRetry,
        resetRestoreTransferForRetry, ensures_steps]
      intros
      exact ⟨_, _, _, _, rfl⟩

section

variable {node : NodeID} {f : UserReplica → UserReplica}

lemma conflictsEase_modify {t : Table NodeID UserReplica} (h : ∀ r, (f r).state ≠ .conflict) :
    ConflictsEase t (t.modify node f) := by
  intro k
  rw [get?_modify_eq_map]
  cases t.get? k with
  | none => exact .none
  | some r =>
    refine .some fun hconflict => ?_
    split at hconflict
    · exact absurd hconflict (h r)
    · exact hconflict

lemma failedReplicas_ease {now : Time} :
    ConflictsEase db.replicas (failedReplicas db node now) := by
  unfold failedReplicas
  split
  · exact .refl _
  · exact conflictsEase_modify fun _ hconflict => by cases hconflict

end

section

variable {p : CompleteSnapshotWorkflowParams}

lemma completionReplicas_ease {t : Table NodeID UserReplica} :
    ConflictsEase t (completionReplicas p t) := by
  have hsuperseded : ConflictsEase t (if p.replicaKind = .archive then
      t.update (fun node r => node ≠ p.targetNodeID && r.kind = .archive && r.state = .ready)
        fun r => { r with state := .stale } else t) := by
    split
    · exact rel_update (fun _ _ => id) fun _ _ _ hconflict => by cases hconflict
    · exact .refl _
  exact hsuperseded.trans (conflictsEase_modify fun _ hconflict => by cases hconflict)

abbrev ComesFrom (r' r : ReplicaCopy) : Prop :=
  (IsEvidence r' → IsEvidence r) ∧ r'.isAuthoritative = r.isAuthoritative

lemma superseded_comesFrom {t : Table NodeID ReplicaCopy} {n : NodeID} {r' : ReplicaCopy}
    (hr' : (if p.replicaKind = .archive then
      t.update (fun node c => node ≠ p.targetNodeID && c.replicaKind = .archive && c.state = .ready)
        fun c => { c with state := .stale } else t).get? n = some r') :
    ∃ r, t.get? n = some r ∧ ComesFrom r' r := by
  split at hr'
  · rw [get?_update] at hr'
    obtain ⟨r, hr, rfl⟩ := map_eq_some_iff.mp hr'
    refine ⟨r, hr, ?_⟩
    split
    · refine ⟨fun hevidence => hevidence.imp_left fun hconflict => ?_, rfl⟩
      cases hconflict
    · exact ⟨id, rfl⟩
  · exact ⟨r', hr', id, rfl⟩

lemma completionCopies_evidence {t : Table NodeID ReplicaCopy} {n : NodeID} {r' : ReplicaCopy}
    (hr' : (completionCopies p t).get? n = some r') :
    (IsEvidence r' → ∃ r, t.get? n = some r ∧ IsEvidence r) ∧
      ((t.get? n).isSome ∨ n = p.targetNodeID) := by
  unfold completionCopies at hr'
  rw [get?_upsert] at hr'
  split at hr'
  next hn =>
    subst hn
    refine ⟨fun hevidence => ?_, .inr rfl⟩
    have hauthority : r'.isAuthoritative := by
      refine hevidence.resolve_left fun hconflict => ?_
      rw [← some.inj hr'] at hconflict
      generalize Table.get? _ p.targetNodeID = o at hconflict
      cases o <;> cases hconflict
    have hbefore : ∀ o : Option ReplicaCopy,
        (∀ r₁, o = some r₁ → ∃ r, t.get? p.targetNodeID = some r ∧ ComesFrom r₁ r) →
        ((o.map fun c => { c with
          snapshotID := some p.snapshotID, replicaKind := p.replicaKind, state := CopyState.ready
          origin := p.replicaOrigin, compatibilityState := .compatible
          publishedAt := some p.now }).getD
            { snapshotID := some p.snapshotID, replicaKind := p.replicaKind, state := .ready
              origin := p.replicaOrigin, isAuthoritative := false, compatibilityState := .compatible
              publishedAt := some p.now }) = r' →
          ∃ r, t.get? p.targetNodeID = some r ∧ IsEvidence r := by
      rintro (_ | r₁) ho rfl
      · cases hauthority
      · obtain ⟨r, hr, -, hsame⟩ := ho r₁ rfl
        exact ⟨r, hr, .inr (hsame ▸ hauthority)⟩
    exact hbefore _ (fun _ => superseded_comesFrom) (some.inj hr')
  · obtain ⟨r, hr, hevidence, -⟩ := superseded_comesFrom hr'
    exact ⟨fun hr' => ⟨r, hr, hevidence hr'⟩, .inl (isSome_iff_exists.mpr ⟨r, hr⟩)⟩

lemma completionManifests_fresh {k : UUID} (hk : db.manifests.get? k = none) :
    (completionManifests p db).get? k = none := by
  have hmodified : ∀ (t : Table UUID SnapshotManifest) (id : UUID)
      (f : SnapshotManifest → SnapshotManifest), t.get? k = none →
      (t.modify id f).get? k = none := by
    intro t id f ht
    by_cases hid : k = id
    · rw [hid, get?_modify_self, ← hid, ht]
      rfl
    · rwa [get?_modify_of_ne hid]
  unfold completionManifests
  split
  · split
    · exact hmodified _ _ _ (hmodified _ _ _ hk)
    · exact hmodified _ _ _ hk
  · exact hmodified _ _ _ hk

lemma completeSnapshotWorkflow_publishes : Ensures (completeSnapshotWorkflow p db) fun db' =>
    db' = db ∨ (db.replicas.get? p.targetNodeID).isSome ∧ db' = publishSnapshot p db := by
  simp only [completeSnapshotWorkflow, ensures_steps, ensures_ite]
  rintro - w -
  exact ⟨fun _ => .inl trivial, fun _ _ _ _ _ _ _ _ _ hreplica _ => .inr ⟨hreplica, trivial⟩⟩

lemma publishSnapshot_calm (hreplica : (db.replicas.get? p.targetNodeID).isSome)
    (hworkflows : WorkflowsContinue db.workflows (publishSnapshot p db).workflows) :
    Calm db (publishSnapshot p db) where
  user := rfl
  lease := rfl
  conflicts := rfl
  resolutions := rfl
  workflows := hworkflows
  manifests := fun _ => completionManifests_fresh
  replicas := completionReplicas_ease
  copies := fun n r' hr' => (completionCopies_evidence hr').imp_right fun hrow =>
    hrow.imp_right fun hn => by rwa [hn]

end

structure Undisturbed (db : Db) : Prop where
  linked : db.WellLinked
  frozen : db.user.globalStatus = .conflict
  unresolved : ∀ id w, db.workflows.get? id = some w → w.state.live →
    w.workflowType ≠ .conflictResolution

lemma Undisturbed.calm (h : Undisturbed db) (hcalm : Calm db db') (hlinked : db'.WellLinked) :
    Undisturbed db' where
  linked := hlinked
  frozen := by rw [hcalm.user, h.frozen]
  unresolved := fun id w' hw' hlive => by
    obtain ⟨w, hw, hcontinues⟩ := hcalm.workflows.before hw'
    rw [hcontinues.type]
    exact h.unresolved id w hw (hcontinues.live hlive)

lemma Undisturbed.ended {operationID : UUID} {operation : ResolutionOperation} {w : Workflow}
    (h : Undisturbed db) (hoperation : db.resolutions.get? operationID = some operation)
    (hw : db.workflows.get? operation.workflowID = some w) : w.state.live = false := by
  obtain ⟨w', hw', htype, -⟩ := h.linked.resolutions operationID operation hoperation
  obtain rfl := mem_unique hw hw'
  by_contra hlive
  exact h.unresolved _ w hw (by simpa using hlive) htype

lemma Undisturbed.calm_of_inExecution (h : Undisturbed db) (hact : Act.inExecution act) :
    Ensures (act.transaction db) (Calm db) := by
  by_cases hmoves : Act.movesWorkflow act
  · have hworkflows : Ensures (act.transaction db) fun db' =>
        WorkflowsContinue db.workflows db'.workflows := by
      by_cases hback : act.background
      · exact (background_frame hback).mono fun _ hframe => hframe.workflows
      · refine (lifecycle_frame ?_).mono fun _ hframe => hframe.workflows
        cases act <;> first | rfl | exact absurd rfl hback | exact absurd hmoves Bool.false_ne_true
    intro db' hstep
    have hcontinues := hworkflows db' hstep
    obtain ⟨workflows, capabilities, jobs, accounts, rfl⟩ := moved_only hmoves db' hstep
    exact { Calm.refl db with workflows := hcontinues }
  cases act with
  | completeSnapshotWorkflow p =>
    intro db' hstep
    have hframe : Frame db db' := background_frame rfl db' hstep
    obtain ⟨-, hstep⟩ := of_ite_error hstep
    obtain rfl | ⟨hreplica, rfl⟩ := completeSnapshotWorkflow_publishes db' hstep
    · exact .refl _
    · exact publishSnapshot_calm hreplica hframe.workflows
  | failSnapshotWorkflow id now =>
    simp only [Act.transaction, failSnapshotWorkflow, ensures_steps, ensures_ite]
    refine ⟨fun _ w _ _ => ?_, fun _ => by simp⟩
    exact
      { Calm.refl db with
        workflows := workflowsContinue_endWorkflow _ _ _, replicas := failedReplicas_ease }
  | failRestoreWorkflow workflowID now =>
    simp only [Act.transaction, failRestoreWorkflow, ensures_steps, ensures_ite]
    rintro w - ⟨operationID, operation⟩ -
    refine ⟨fun _ => .refl db, fun _ _ => ?_⟩
    exact
      { Calm.refl db with
        workflows := workflowsContinue_endWorkflow _ _ _
        manifests := fun k hk => by rw [get?_update, hk, map_none]
        replicas := rel_update (fun _ _ => id) fun _ _ _ hconflict => by cases hconflict }
  | completeRestoreWorkflow p =>
    refine completeRestoreWorkflow_commit.mono ?_
    rintro db' (⟨rfl, -⟩ | ⟨w, operationID, operation, home, hcommit, -⟩)
    · exact .refl _
    · have hactive := hcommit.active
      simp [User.isActive, h.frozen] at hactive
  | setResolutionTransfer operationID node consumed =>
    simp only [Act.transaction, setResolutionTransfer, ensures_steps]
    rintro operation hoperation w hw transfer - ⟨hlive, -⟩
    simp [h.ended hoperation hw] at hlive
  | failConflictResolution id =>
    simp only [Act.transaction, failConflictResolution, ensures_steps]
    rintro w hw ⟨operationID, operation⟩ hoperation hlive
    obtain ⟨hoperation, hlinked⟩ := of_find?_eq_some hoperation
    simp [h.ended hoperation (of_decide_eq_true hlinked ▸ hw)] at hlive
  | completeConflictResolution p =>
    refine completeConflictResolution_commit.mono ?_
    rintro db' (rfl | ⟨w, operation, hcommit, -⟩)
    · exact .refl _
    · have hended := h.ended hcommit.hasOperation (hcommit.linked ▸ hcommit.workflow)
      rw [hcommit.publishing] at hended
      cases hended
  | environment w =>
    cases w <;> first
      | exact absurd rfl hmoves
      | exact absurd hact Bool.false_ne_true
  | _ => first | exact absurd rfl hmoves | exact absurd hact Bool.false_ne_true

lemma Undisturbed.executes (h : Undisturbed db) (hexecutes : Executes db db') :
    Calm db db' ∧ Undisturbed db' := by
  obtain ⟨acts, hacts, hrun⟩ := hexecutes
  refine run_invariant_of_meets (P := fun s => Calm db s ∧ Undisturbed s)
    (fun s a s' hs ha hstep => ?_) ⟨.refl db, h⟩ (meets_of_forall hacts db) hrun
  have hcalm := hs.2.calm_of_inExecution ha s' (step_eq_some.mp hstep)
  exact ⟨hs.1.trans hcalm, hs.2.calm hcalm ((step_committed hstep).wellLinked hs.2.linked)⟩

end StControl.Controller
