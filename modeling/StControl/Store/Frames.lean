import StControl.Store.System

/-!
# What most transactions leave alone

Some of the store's transactions write the lease, move the home, or insert or delete a row that
later decisions rest on.  The others only carry bookkeeping forward.  `Frame db db'` lists what
they have in common: lease, home, nodes and retirements are the same, replica rows keep their
kind, no copy gains authority, no account goes away, and every workflow, resolution and restore
continues as what it is.  `background_frame` proves it for all of them at once, so that an
invariant over these facts has to be checked for the remaining transactions only.

Of the remaining ones, seven write nodes and retirements and nothing else of the list
(`lifecycle_frame`), and six are about the lease alone (`session_frame`).
-/

namespace StControl.Store

open Transaction Option Table

/-! ## The relation -/

/-- `w'` is a later state of the workflow `w`: what was fixed at creation is the same, success is
final, and it still resumes in a live state. -/
structure Workflow.Kept (w w' : Workflow) : Prop where
  operation : w'.operationID = w.operationID
  type : w'.workflowType = w.workflowType
  mode : w'.mode = w.mode
  source : w'.sourceNodeID = w.sourceNodeID
  target : w'.targetNodeID = w.targetNodeID
  epoch : w'.activityEpoch = w.activityEpoch
  succeeded : w.state = .succeeded → w'.state = .succeeded
  resumes : w.resumeState.all (·.live) → w'.resumeState.all (·.live)

def Workflow.ordinaryAttempts (w : Workflow) : ℤ := w.attempt - w.generationRecoveries

structure Workflow.Continues (w w' : Workflow) : Prop extends w.Kept w' where
  live : w'.state.live → w.state.live
  ended : w.state.live = false → w'.state = w.state
  attempts : w.attempt ≤ w'.attempt
  recoveries : w.generationRecoveries ≤ w'.generationRecoveries
  ordinary : w.ordinaryAttempts ≤ w'.ordinaryAttempts

lemma Workflow.Continues.refl (w : Workflow) : w.Continues w where
  operation := rfl
  type := rfl
  mode := rfl
  source := rfl
  target := rfl
  epoch := rfl
  succeeded := id
  resumes := id
  live := id
  ended := fun _ => rfl
  attempts := Int.le_refl _
  recoveries := Int.le_refl _
  ordinary := Int.le_refl _

variable {w : Workflow} {t : Table UUID Workflow}
variable {id : UUID}
variable {f : UserReplica → UserReplica} {fromState : WorkflowState}

lemma Workflow.Continues.trans {w' w'' : Workflow} (h : w.Continues w') (h' : w'.Continues w'') :
    w.Continues w'' where
  operation := h'.operation.trans h.operation
  type := h'.type.trans h.type
  mode := h'.mode.trans h.mode
  source := h'.source.trans h.source
  target := h'.target.trans h.target
  epoch := h'.epoch.trans h.epoch
  succeeded := fun hs => h'.succeeded (h.succeeded hs)
  resumes := fun hlive => h'.resumes (h.resumes hlive)
  live := fun hlive => h.live (h'.live hlive)
  ended := fun hended => (h'.ended (h.ended hended ▸ hended)).trans (h.ended hended)
  attempts := Int.le_trans h.attempts h'.attempts
  recoveries := Int.le_trans h.recoveries h'.recoveries
  ordinary := Int.le_trans h.ordinary h'.ordinary

abbrev WorkflowsContinue (t t' : Table UUID Workflow) : Prop :=
  Rel (fun _ => Workflow.Continues) t t'

lemma WorkflowsContinue.refl (t : Table UUID Workflow) : WorkflowsContinue t t :=
  Table.Rel.refl (fun _ => Workflow.Continues.refl) t

/-- `o'` is a later state of the resolution `o`. -/
structure ResolutionOperation.Continues (o o' : ResolutionOperation) : Prop where
  workflow : o'.workflowID = o.workflowID
  base : o'.baseNodeID = o.baseNodeID

lemma ResolutionOperation.Continues.refl (o : ResolutionOperation) : o.Continues o := ⟨rfl, rfl⟩

abbrev ResolutionsContinue (t t' : Table UUID ResolutionOperation) : Prop :=
  Rel (fun _ => ResolutionOperation.Continues) t t'

/-- `o'` is a later state of the restore `o`: only its completion is recorded. -/
structure RestoreOperation.Continues (o o' : RestoreOperation) : Prop where
  workflow : o'.workflowID = o.workflowID
  source : o'.sourceNodeID = o.sourceNodeID
  target : o'.targetNodeID = o.targetNodeID
  snapshot : o'.sourceSnapshotID = o.sourceSnapshotID
  published : o'.sourcePublishedAt = o.sourcePublishedAt

lemma RestoreOperation.Continues.refl (o : RestoreOperation) : o.Continues o :=
  ⟨rfl, rfl, rfl, rfl, rfl⟩

lemma RestoreOperation.Continues.trans {o o' o'' : RestoreOperation} (h : o.Continues o')
    (h' : o'.Continues o'') : o.Continues o'' :=
  ⟨h'.workflow.trans h.workflow, h'.source.trans h.source, h'.target.trans h.target,
    h'.snapshot.trans h.snapshot, h'.published.trans h.published⟩

abbrev RestoresContinue (t t' : Table UUID RestoreOperation) : Prop :=
  Rel (fun _ => RestoreOperation.Continues) t t'

structure SameRetirement (db db' : Db) : Prop where
  items : db'.retirementItems = db.retirementItems
  operations : db'.retirements = db.retirements
  nodes : db'.nodes = db.nodes

abbrev KindsKept (t t' : Table NodeID UserReplica) : Prop :=
  Rel (fun _ r r' => r'.kind = r.kind) t t'

lemma KindsKept.refl (t : Table NodeID UserReplica) : KindsKept t t :=
  Table.Rel.refl (R := fun _ (r r' : UserReplica) => r'.kind = r.kind) (fun _ _ => rfl) t

abbrev NoNewAuthority (t t' : Table NodeID ReplicaCopy) : Prop :=
  NoNew (fun _ c => c.isAuthoritative) t t'

def AccountsKept (t t' : Table NodeID NodeAccount) : Prop :=
  ∀ n, (t.get? n).isSome → (t'.get? n).isSome

structure DataFrame (db db' : Db) : Prop where
  home : db'.user.homeNodeID = db.user.homeNodeID
  replicas : KindsKept db.replicas db'.replicas
  copies : NoNewAuthority db.copies db'.copies
  accounts : AccountsKept db.accounts db'.accounts
  workflows : WorkflowsContinue db.workflows db'.workflows
  resolutions : ResolutionsContinue db.resolutions db'.resolutions
  restores : RestoresContinue db.restores db'.restores

structure LeaseFrame (db db' : Db) : Prop extends DataFrame db db' where
  lease : db'.lease = db.lease

structure Frame (db db' : Db) : Prop extends LeaseFrame db db', SameRetirement db db'

lemma Frame.refl (db : Db) : Frame db db where
  lease := rfl
  items := rfl
  operations := rfl
  nodes := rfl
  home := rfl
  replicas := KindsKept.refl _
  copies := .refl _
  accounts := fun _ => id
  workflows := WorkflowsContinue.refl _
  resolutions := Table.Rel.refl (fun _ => ResolutionOperation.Continues.refl) _
  restores := Table.Rel.refl (fun _ => RestoreOperation.Continues.refl) _

/-! ## Rules for the single tables -/

lemma workflowsContinue_put {w' : Workflow} (hw : t.get? id = some w) (h : w.Continues w') :
    WorkflowsContinue t (t.put id w') :=
  rel_put (fun _ => Workflow.Continues.refl) hw h

section

variable {state : WorkflowState} {resumeState : Option WorkflowState}
  {controllerGeneration attempt generationRecoveries : ℤ} {nextAttemptAt : Option Time}
  {errorCode : Option WorkflowErrorCode} (hlive : w.state.live) (hcounted : w.attempt ≤ attempt ∧
    w.generationRecoveries ≤ generationRecoveries ∧
    w.attempt - w.generationRecoveries ≤ attempt - generationRecoveries)
  (hresumes : resumeState = w.resumeState ∨ resumeState.all (·.live))
include hlive hcounted hresumes

lemma Workflow.Continues.moved : w.Continues { w with
      state, resumeState, controllerGeneration, attempt, generationRecoveries, nextAttemptAt,
      errorCode } where
  operation := rfl
  type := rfl
  mode := rfl
  source := rfl
  target := rfl
  epoch := rfl
  succeeded := fun hs => by rw [hs] at hlive; cases hlive
  resumes := fun hbefore => hresumes.elim (fun hsame => hsame ▸ hbefore) id
  live := fun _ => hlive
  ended := fun hended => by rw [hlive] at hended; cases hended
  attempts := hcounted.1
  recoveries := hcounted.2.1
  ordinary := hcounted.2.2

lemma Frame.moved (hw : db.workflows.get? id = some w) : Frame db { db with
    workflows := db.workflows.put id { w with
      state, resumeState, controllerGeneration, attempt, generationRecoveries, nextAttemptAt,
      errorCode } } :=
  { Frame.refl db with workflows := workflowsContinue_put hw (.moved hlive hcounted hresumes) }

end

lemma workflowsContinue_modify {f : Workflow → Workflow} (hw : t.get? id = some w)
    (h : w.Continues (f w)) : WorkflowsContinue t (t.modify id f) :=
  rel_modify (fun _ => Workflow.Continues.refl) hw h

lemma workflowsContinue_update {p : UUID → Workflow → Bool}
    {f : Workflow → Workflow} (hlive : ∀ id (w : Workflow), p id w → w.state.live)
    (h : ∀ w : Workflow, w.state.live → w.Continues (f w)) : WorkflowsContinue t (t.update p f) :=
  rel_update (fun _ => Workflow.Continues.refl) fun id w hp => h w (hlive id w hp)

lemma workflowsContinue_endWorkflow (t : Table UUID Workflow) (id : UUID) (ended : WorkflowState) :
    WorkflowsContinue t (endWorkflow t id ended) := by
  refine workflowsContinue_update (fun k w hw => ?_) fun w hlive =>
    .moved hlive (by omega) (.inl rfl)
  exact (Bool.and_eq_true_iff.mp hw).2

lemma workflowsContinue_cancelReconciliation (r : Table UUID IndependentReconciliation)
    (p : IndependentReconciliation → Bool) (t : Table UUID Workflow) :
    WorkflowsContinue t (cancelReconciliationWorkflows r p t) := by
  refine workflowsContinue_update (fun k w hw => ?_) fun w hlive =>
    .moved hlive (by omega) (.inl rfl)
  exact (Bool.and_eq_true_iff.mp hw).1

lemma WorkflowsContinue.trans {t' t'' : Table UUID Workflow} (h : WorkflowsContinue t t')
    (h' : WorkflowsContinue t' t'') : WorkflowsContinue t t'' :=
  Table.Rel.trans (fun _ _ _ _ hrs hsu => hrs.trans hsu) h h'

lemma kindsKept_update {t : Table NodeID UserReplica} {p : NodeID → UserReplica → Bool}
    (h : ∀ r, (f r).kind = r.kind) : KindsKept t (t.update p f) :=
  rel_update (R := fun _ (r r' : UserReplica) => r'.kind = r.kind) (fun _ _ => rfl)
    fun _ r _ => h r

lemma kindsKept_mapRows {t : Table NodeID UserReplica} (h : ∀ r, (f r).kind = r.kind) :
    KindsKept t (t.mapRows fun _ => f) :=
  rel_mapRows (R := fun _ (r r' : UserReplica) => r'.kind = r.kind) fun _ r => h r

lemma KindsKept.trans {t t' t'' : Table NodeID UserReplica} (h : KindsKept t t')
    (h' : KindsKept t' t'') : KindsKept t t'' :=
  Table.Rel.trans (R := fun _ (r r' : UserReplica) => r'.kind = r.kind)
    (fun _ _ _ _ hrs hsu => hsu.trans hrs) h h'

lemma accountsKept_mapRows {t : Table NodeID NodeAccount}
    {f : NodeID → NodeAccount → NodeAccount} : AccountsKept t (t.mapRows f) := by
  intro n hn
  rwa [get?_mapRows, isSome_map]

lemma accountsKept_put {t : Table NodeID NodeAccount} {n : NodeID} {a : NodeAccount} :
    AccountsKept t (t.put n a) := by
  intro n' hn'
  rw [get?_put]
  split
  · rfl
  · exact hn'

lemma Frame.trans {db db' db'' : Db} (h : Frame db db') (h' : Frame db' db'') : Frame db db'' where
  lease := h'.lease.trans h.lease
  home := h'.home.trans h.home
  replicas := h.replicas.trans h'.replicas
  copies := h.copies.trans h'.copies
  accounts := fun n hn => h'.accounts n (h.accounts n hn)
  workflows := h.workflows.trans h'.workflows
  resolutions := Table.Rel.trans
    (fun _ _ _ _ hrs hsu => ⟨hsu.workflow.trans hrs.workflow, hsu.base.trans hrs.base⟩)
    h.resolutions h'.resolutions
  restores := Table.Rel.trans (fun _ _ _ _ hrs hsu => hrs.trans hsu) h.restores h'.restores
  items := h'.items.trans h.items
  operations := h'.operations.trans h.operations
  nodes := h'.nodes.trans h.nodes

/-! ## Workflows that move or end -/

variable {db : Db}

variable {workflowID conflictID itemID taskID : UUID} {now : Time} {delay : Duration}
  {toState : WorkflowState} {nodeID : NodeID} {act : Act}

lemma adoptStaleSnapshotWorkflow_frame :
    Ensures (adoptStaleSnapshotWorkflow workflowID now db) (Frame db) := by
  simp only [adoptStaleSnapshotWorkflow, ensures_steps]
  rintro generation - w hw ⟨-, hlive, -⟩
  exact .moved hlive (by omega) (.inl rfl) hw

lemma prepareRecoveredSnapshotCompletion_frame :
    Ensures (prepareRecoveredSnapshotCompletion workflowID db) (Frame db) := by
  simp only [prepareRecoveredSnapshotCompletion, ensures_steps]
  rintro w hw ⟨-, -, -, hstate⟩
  have hlive : w.state.live := by
    rcases hstate with hs | hs | hs <;> rw [hs] <;> rfl
  exact .moved hlive (by omega) (.inl rfl) hw

lemma resetRecoveredSnapshotWorkflow_frame :
    Ensures (resetRecoveredSnapshotWorkflow workflowID now db) (Frame db) := by
  simp only [resetRecoveredSnapshotWorkflow, ensures_steps, ensures_ite]
  rintro w hw job - ⟨-, -, -, hlive⟩
  constructor
  · intro _
    exact { Frame.refl db with workflows := workflowsContinue_endWorkflow _ _ _ }
  · intro _
    exact { Frame.refl db with
      workflows := workflowsContinue_put hw (.moved hlive (by omega) (.inr rfl)) }

lemma scheduleSnapshotRetry_frame :
    Ensures (scheduleSnapshotRetry workflowID now delay db) (Frame db) := by
  simp only [scheduleSnapshotRetry, ensures_steps]
  rintro - w hw ⟨hlive, -⟩ -
  have hresumes : (some w.workflowType.resumeState).all (·.live) := by cases w.workflowType <;> rfl
  exact { Frame.refl db with
    workflows := workflowsContinue_put hw (.moved hlive (by omega) (.inr hresumes)) }

lemma resumeSnapshotRetry_frame : Ensures (resumeSnapshotRetry workflowID now db) (Frame db) := by
  simp only [resumeSnapshotRetry, ensures_steps]
  rintro w hw ⟨hstate, -⟩ resumed -
  have hlive : w.state.live := by rw [hstate]; rfl
  exact .moved hlive (by omega) (.inr rfl) hw

lemma deferSnapshotWorkflow_frame :
    Ensures (deferSnapshotWorkflow workflowID now delay db) (Frame db) := by
  simp only [deferSnapshotWorkflow, ensures_steps]
  rintro - w hw ⟨-, hlive, -⟩
  exact .moved hlive (by omega) (.inl rfl) hw

lemma clearSnapshotWorkflowDeferral_frame :
    Ensures (clearSnapshotWorkflowDeferral workflowID db) (Frame db) := by
  simp only [clearSnapshotWorkflowDeferral, ensures_steps]
  rintro w hw -
  exact
    { Frame.refl db with workflows := workflowsContinue_put hw { Workflow.Continues.refl w with } }

lemma setSnapshotWorkflowState_frame (hfrom : fromState.live) :
    Ensures (setSnapshotWorkflowState workflowID fromState toState db) (Frame db) := by
  simp only [setSnapshotWorkflowState, ensures_steps]
  rintro w hw ⟨hstate, -⟩
  have hlive : w.state.live := hstate ▸ hfrom
  exact .moved hlive (by omega) (.inl rfl) hw

lemma Workflow.progressRule_live {w : Workflow} {actor : NodeID}
    (h : w.progressRule toState = some (fromState, actor)) : fromState.live := by
  cases toState <;> simp_all [Workflow.progressRule, WorkflowState.live] <;>
    (obtain ⟨rfl, -⟩ := h; rfl)

lemma setSnapshotWorkflowProgress_frame {snapshotID : UUID} :
    Ensures (setSnapshotWorkflowProgress workflowID snapshotID nodeID toState db) (Frame db) := by
  simp only [setSnapshotWorkflowProgress, ensures_steps, ensures_ite]
  rintro w hw - - ⟨fromState, actor⟩ hrule -
  constructor
  · intro _
    exact Frame.refl db
  · rintro - hstate
    have hlive : w.state.live := hstate ▸ Workflow.progressRule_live hrule
    exact .moved hlive (by omega) (.inl rfl) hw

lemma completionCopies_noNewAuthority (p : CompleteSnapshotWorkflowParams)
    (copies : Table NodeID ReplicaCopy) : NoNewAuthority copies (completionCopies p copies) := by
  refine NoNew.trans ?_ (.upsert nofun fun _ => id)
  split
  · exact .update fun _ c _ => id
  · exact .refl copies

lemma completionReplicas_kindsKept (p : CompleteSnapshotWorkflowParams)
    (replicas : Table NodeID UserReplica) : KindsKept replicas (completionReplicas p replicas) := by
  have hsuperseded : KindsKept replicas
      (if p.replicaKind = .archive then
        replicas.update
          (fun node r => node ≠ p.targetNodeID && r.kind = .archive && r.state = .ready)
          fun r => { r with state := .stale }
      else replicas) := by
    split
    · exact kindsKept_update fun r => rfl
    · exact .refl replicas
  exact hsuperseded.trans (kindsKept_update fun r => rfl)

lemma completeSnapshotWorkflow_frame {p : CompleteSnapshotWorkflowParams} :
    Ensures (completeSnapshotWorkflow p db) (Frame db) := by
  refine completeSnapshotWorkflow_commit.mono ?_
  rintro _ ⟨w, hw, ⟨-, rfl⟩ | ⟨hpublishing, rfl⟩⟩
  · exact Frame.refl _
  · have hlive : w.state.live := by rw [hpublishing]; rfl
    exact
      { Frame.refl db with
        workflows := workflowsContinue_modify hw (.moved hlive (by omega) (.inl rfl))
        replicas := completionReplicas_kindsKept p db.replicas
        copies := completionCopies_noNewAuthority p db.copies }

lemma failedReplicas_kindsKept (target : NodeID) (now : Time) :
    KindsKept db.replicas (failedReplicas db target now) := by
  unfold failedReplicas
  split
  · exact .refl _
  · exact kindsKept_update fun r => rfl

lemma failSnapshotWorkflow_frame : Ensures (failSnapshotWorkflow workflowID now db) (Frame db) := by
  simp only [failSnapshotWorkflow, ensures_steps]
  rintro w hw -
  exact
    { Frame.refl db with
      workflows := workflowsContinue_endWorkflow _ _ _
      replicas := failedReplicas_kindsKept w.targetNodeID now }

lemma cancelSnapshotWorkflow_frame : Ensures (cancelSnapshotWorkflow workflowID db) (Frame db) := by
  simp only [cancelSnapshotWorkflow, ensures_pure]
  exact { Frame.refl db with workflows := workflowsContinue_endWorkflow _ _ _ }

lemma abortBackupJobAndSnapshotWorkflow_frame {jobID : ℤ} :
    Ensures (abortBackupJobAndSnapshotWorkflow jobID db) (Frame db) := by
  simp only [abortBackupJobAndSnapshotWorkflow, ensures_steps]
  rintro job - -
  split
  · rw [ensures_pure]
    exact { Frame.refl db with }
  · rw [ensures_require_bind, ensures_pure]
    intro _
    exact { Frame.refl db with workflows := workflowsContinue_endWorkflow _ _ _ }

lemma resetRestoreTransferForRetry_frame :
    Ensures (resetRestoreTransferForRetry workflowID db) (Frame db) := by
  simp only [resetRestoreTransferForRetry, ensures_steps]
  rintro w hw ⟨-, hstate, -⟩
  have hlive : w.state.live := by rcases hstate with hs | hs <;> rw [hs] <;> rfl
  exact .moved hlive (by omega) (.inl rfl) hw

lemma failRestoreWorkflow_frame : Ensures (failRestoreWorkflow workflowID now db) (Frame db) := by
  simp only [failRestoreWorkflow, ensures_steps, ensures_ite]
  rintro w hw ⟨operationID, operation⟩ hoperation
  constructor
  · intro _
    exact Frame.refl db
  · rintro - -
    have hrow := (of_find?_eq_some hoperation).1
    exact
      { Frame.refl db with
        workflows := workflowsContinue_endWorkflow _ _ _, replicas := kindsKept_update fun r => rfl
        accounts := accountsKept_mapRows
        restores := rel_put (fun _ => RestoreOperation.Continues.refl) hrow
          ⟨rfl, rfl, rfl, rfl, rfl⟩ }

/-! ## Conflicts and their resolutions -/

lemma adoptStaleConflictResolution_frame {hadRelay : Bool} :
    Ensures (adoptStaleConflictResolution workflowID hadRelay now db) (Frame db) := by
  simp only [adoptStaleConflictResolution, ensures_steps]
  rintro generation - w hw ⟨-, -, hstate⟩
  have hlive : w.state.live := by
    rcases hstate with hs | hs | hs | hs <;> rw [hs] <;> rfl
  exact .moved hlive (by omega) (.inr rfl) hw

lemma deferConflictResolution_frame :
    Ensures (deferConflictResolution workflowID now delay db) (Frame db) := by
  simp only [deferConflictResolution, ensures_steps]
  rintro - w hw ⟨-, hscheduled, -⟩
  have hlive : w.state.live := by rw [hscheduled]; rfl
  exact .moved hlive (by omega) (.inl rfl) hw

lemma setResolutionTransfer_frame {operationID : UUID} {consumed : Bool} :
    Ensures (setResolutionTransfer operationID nodeID consumed db) (Frame db) := by
  simp only [setResolutionTransfer, ensures_steps]
  rintro operation hoperation w - transfer - -
  exact
    { Frame.refl db with
      resolutions := rel_put (fun _ => ResolutionOperation.Continues.refl) hoperation
        ⟨rfl, rfl⟩ }

lemma markConflictResolutionPublishing_frame :
    Ensures (markConflictResolutionPublishing workflowID db) (Frame db) := by
  simp only [markConflictResolutionPublishing, ensures_steps, ensures_ite]
  intro w hw
  constructor
  · rintro ⟨-, hstate, -⟩
    have hlive : w.state.live := by rcases hstate with hs | hs <;> rw [hs] <;> rfl
    exact .moved hlive (by omega) (.inl rfl) hw
  · rintro - -
    exact Frame.refl db

lemma failConflictResolution_frame : Ensures (failConflictResolution workflowID db) (Frame db) := by
  simp only [failConflictResolution, ensures_steps]
  rintro w hw ⟨operationID, operation⟩ hoperation -
  have hrow := (of_find?_eq_some hoperation).1
  exact
    { Frame.refl db with
      workflows := workflowsContinue_endWorkflow _ _ _
      resolutions := rel_put (fun _ => ResolutionOperation.Continues.refl) hrow ⟨rfl, rfl⟩ }

/-! ## Retirements -/

lemma startNodeRetirement_frame {retirementID : UUID} {hasOtherItems : Bool} :
    Ensures (startNodeRetirement retirementID itemID nodeID hasOtherItems db) (LeaseFrame db) := by
  simp only [startNodeRetirement, ensures_steps]
  intros
  split
  all_goals
    rw [ensures_pure]
    exact { (Frame.refl db).toLeaseFrame with }

lemma completeNodeRetirementReplicaItem_frame :
    Ensures (completeNodeRetirementReplicaItem itemID db) (LeaseFrame db) := by
  simp only [completeNodeRetirementReplicaItem, ensures_steps, ensures_ite]
  rintro item - operation - - -
  constructor
  · rintro - -
    exact (Frame.refl db).toLeaseFrame
  · intro _
    split
    · rw [ensures_require_bind, ensures_pure]
      intro _
      exact { (Frame.refl db).toLeaseFrame with accounts := accountsKept_mapRows }
    · rw [ensures_require_bind, ensures_pure]
      intro _
      exact
        { (Frame.refl db).toLeaseFrame with
          accounts := accountsKept_mapRows, copies := .update fun _ c _ hc => nomatch hc
          replicas := kindsKept_update fun r => rfl }
    · rw [ensures_require_bind, ensures_pure]
      intro _
      exact { (Frame.refl db).toLeaseFrame with accounts := accountsKept_mapRows }
    · simp

/-! ## Independent writes, clean-up, integrity, promotion -/

lemma settleIndependentConflicts_frame (db : Db) : Frame db (settleIndependentConflicts db) := by
  unfold settleIndependentConflicts
  dsimp only
  generalize (if independentCollision db.reconciliations then _ else _) = reconciliations
  generalize Table.any reconciliations _ = conflicted
  refine
    { Frame.refl db with
      workflows := workflowsContinue_cancelReconciliation _ _ _, replicas := ?replicas
      copies := ?copies }
  case replicas =>
    cases conflicted with
    | false => exact KindsKept.refl _
    | true =>
      rw [if_pos rfl]
      exact kindsKept_mapRows fun _ => rfl
  case copies =>
    cases conflicted with
    | false => exact .refl _
    | true =>
      dsimp only
      rw [if_pos rfl]
      exact .mapRows fun _ _ hc => nomatch hc

lemma recordIndependentSyncFact_frame {reconciliationID : UUID}
    {handle : String} {marker : UUID} {generation : ℤ} :
    Ensures (recordIndependentSyncFact reconciliationID nodeID handle marker generation db)
      (Frame db) := by
  simp only [recordIndependentSyncFact, ensures_steps]
  intros
  refine Frame.trans ?_ (settleIndependentConflicts_frame _)
  exact { Frame.refl db with workflows := workflowsContinue_cancelReconciliation _ _ _ }

lemma scheduleReplicaCleanup_frame {snapshot : UUID} {kind : CopyKind} :
    Ensures (scheduleReplicaCleanup taskID nodeID snapshot kind db) (Frame db) := by
  simp only [scheduleReplicaCleanup, ensures_require_bind]
  intros
  split
  · rw [ensures_pure]
    exact { Frame.refl db with }
  · rw [ensures_require_bind, ensures_pure]
    intro _
    exact { Frame.refl db with }

lemma failReplicaIntegrity_frame {corrupt : Bool} :
    Ensures (failReplicaIntegrity nodeID corrupt db) (Frame db) := by
  simp only [failReplicaIntegrity, ensures_steps]
  intro copy hcopy _
  refine { Frame.refl db with replicas := ?replicas, copies := ?copies }
  case replicas =>
    cases corrupt with
    | false => exact KindsKept.refl _
    | true =>
      dsimp only
      exact kindsKept_update fun _ => rfl
  case copies => exact .put fun ha => ⟨copy, hcopy, ha⟩

lemma EnvironmentWrite.apply_frame (w : EnvironmentWrite) : LeaseFrame db (w.apply db) := by
  cases w with
  | account => exact { (Frame.refl db).toLeaseFrame with accounts := accountsKept_put }
  | node | userStatus | fault | reconciliation | job => exact { (Frame.refl db).toLeaseFrame with }

/-! ## All of them -/

def Act.background : Act → Bool
  | .createLoginHandoff _ | .consumeLoginHandoff _ | .renewActivityLease ..
  | .updateActivityLeaseTelemetry _ | .endActivityLease .. | .reconcileProtectionStates ..
  | .confirmReplicaTakeover _ | .reportUserDataFault _ | .createSnapshotWorkflow _
  | .claimAndCreateStorageRepair _ | .createRestoreWorkflow _ | .completeRestoreWorkflow _
  | .completeNodeRetirementHomeMigration .. | .createConflictResolution _
  | .completeConflictResolution _ | .restartConflictResolution _ | .linkImportCandidate ..
  | .completeAccountImportClaim .. | .completeReplicaCleanup _ => false
  | .startNodeRetirement .. | .cancelNodeRetirement .. | .claimNodeRetirement _
  | .retryNodeRetirementItem .. | .completeNodeRetirementReplicaItem _
  | .promoteControllerEpoch _ | .environment _ => false
  | _ => true

/-- The transactions that only write nodes, retirements and what other parts of the program own. -/
def Act.lifecycle : Act → Bool
  | .startNodeRetirement .. | .cancelNodeRetirement .. | .claimNodeRetirement _
  | .retryNodeRetirementItem .. | .completeNodeRetirementReplicaItem _
  | .promoteControllerEpoch _ | .environment _ => true
  | _ => false

/-- **The frame of the background.** -/
theorem background_frame (hact : act.background) : Ensures (act.transaction db) (Frame db) := by
  cases act with
  | adoptStaleSnapshotWorkflow => exact adoptStaleSnapshotWorkflow_frame
  | prepareRecoveredSnapshotCompletion => exact prepareRecoveredSnapshotCompletion_frame
  | resetRecoveredSnapshotWorkflow => exact resetRecoveredSnapshotWorkflow_frame
  | scheduleSnapshotRetry => exact scheduleSnapshotRetry_frame
  | resumeSnapshotRetry => exact resumeSnapshotRetry_frame
  | deferSnapshotWorkflow => exact deferSnapshotWorkflow_frame
  | clearSnapshotWorkflowDeferral => exact clearSnapshotWorkflowDeferral_frame
  | startSnapshotWorkflow | startRestoreWorkflow => exact setSnapshotWorkflowState_frame rfl
  | setSnapshotWorkflowProgress => exact setSnapshotWorkflowProgress_frame
  | completeSnapshotWorkflow =>
    exact ensures_ite.mpr ⟨fun _ => completeSnapshotWorkflow_frame, fun _ => by simp⟩
  | failSnapshotWorkflow =>
    exact ensures_ite.mpr ⟨fun _ => failSnapshotWorkflow_frame, fun _ => by simp⟩
  | cancelSnapshotWorkflow =>
    exact ensures_ite.mpr ⟨fun _ => cancelSnapshotWorkflow_frame, fun _ => by simp⟩
  | abortBackupJobAndSnapshotWorkflow => exact abortBackupJobAndSnapshotWorkflow_frame
  | resetRestoreTransferForRetry => exact resetRestoreTransferForRetry_frame
  | failRestoreWorkflow => exact failRestoreWorkflow_frame
  | adoptStaleConflictResolution => exact adoptStaleConflictResolution_frame
  | deferConflictResolution => exact deferConflictResolution_frame
  | setResolutionTransfer => exact setResolutionTransfer_frame
  | markConflictResolutionPublishing => exact markConflictResolutionPublishing_frame
  | failConflictResolution => exact failConflictResolution_frame
  | recordIndependentSyncFact => exact recordIndependentSyncFact_frame
  | settleIndependentConflicts => exact ensures_ok.mpr (settleIndependentConflicts_frame db)
  | scheduleReplicaCleanup => exact scheduleReplicaCleanup_frame
  | failReplicaIntegrity => exact failReplicaIntegrity_frame
  | rotateSnapshotCapability | claimConflictEvidence | retryConflictEvidence
  | completeConflictEvidence | revokeNodeAccess | retryReplicaCleanup =>
    -- None of these writes a table of the frame.
    simp only [Act.transaction, rotateSnapshotCapability, claimConflictEvidence,
      retryConflictEvidence, completeConflictEvidence, revokeNodeAccess, retryReplicaCleanup,
      ensures_steps]
    intros
    exact { Frame.refl db with }
  | claimReplicaCleanup | failReplicaCleanup =>
    simp only [Act.transaction, claimReplicaCleanup, failReplicaCleanup, ensures_steps]
    intros
    exact
      { Frame.refl db with
        copies := .update fun _ c _ => id
        replicas := kindsKept_update fun r => rfl }
  | _ => cases hact

/-- **The frame of the lifecycle transactions.** -/
theorem lifecycle_frame (hact : act.lifecycle) : Ensures (act.transaction db) (LeaseFrame db) := by
  cases act with
  | startNodeRetirement => exact startNodeRetirement_frame
  | completeNodeRetirementReplicaItem => exact completeNodeRetirementReplicaItem_frame
  | environment w => exact ensures_ok.mpr w.apply_frame
  | cancelNodeRetirement | claimNodeRetirement | retryNodeRetirementItem
  | promoteControllerEpoch =>
    simp only [Act.transaction, cancelNodeRetirement, claimNodeRetirement, retryNodeRetirementItem,
      promoteControllerEpoch, ensures_steps]
    intros
    exact { (Frame.refl db).toLeaseFrame with }
  | _ => cases hact

/-! ## Transactions about the session -/

def Act.session : Act → Bool
  | .createLoginHandoff _ | .consumeLoginHandoff _ | .renewActivityLease ..
  | .updateActivityLeaseTelemetry _ | .endActivityLease .. | .reconcileProtectionStates .. => true
  | _ => false

/-- What these transactions leave alone: everything in `Frame` but the lease. -/
structure SessionFrame (db db' : Db) : Prop extends DataFrame db db', SameRetirement db db'

lemma SessionFrame.refl (db : Db) : SessionFrame db db := { Frame.refl db with }

lemma createLoginHandoff_frame {p : CreateLoginHandoffParams} :
    Ensures (createLoginHandoff p db) fun r => SessionFrame db r.2 := by
  refine createLoginHandoff_commit.mono ?_
  rintro r (⟨-, hr⟩ | ⟨generation, lease, outcome, node, -, -, -, -, hr⟩)
  · rw [hr]
    exact .refl db
  · rw [hr]
    exact { SessionFrame.refl db with }

lemma reconcileProtectionStates_frame :
    Ensures (reconcileProtectionStates now conflictID db) (SessionFrame db) := by
  simp only [reconcileProtectionStates, ensures_require_bind]
  intro _
  split
  · rw [ensures_pure]
    exact .refl db
  simp only [ensures_ite, ensures_pure]
  constructor
  · intro _
    exact { SessionFrame.refl db with }
  · intro _
    exact { SessionFrame.refl db with }

/-- **The frame of the session transactions.** -/
theorem session_frame (hact : act.session) : Ensures (act.transaction db) (SessionFrame db) := by
  cases act with
  | createLoginHandoff p => exact ensures_map.mpr createLoginHandoff_frame
  | consumeLoginHandoff | renewActivityLease | updateActivityLeaseTelemetry | endActivityLease =>
    simp only [Act.transaction, consumeLoginHandoff, renewActivityLease,
      updateActivityLeaseTelemetry, endActivityLease, ensures_steps]
    intros
    exact { SessionFrame.refl db with }
  | reconcileProtectionStates now conflictID => exact reconcileProtectionStates_frame
  | _ => cases hact

end StControl.Store
