import StControl.Controller.LostAttempts

/-!
# A resolution that succeeds

The other half of `Controller.LostAttempts` for conflict resolutions: an execution whose agents
answer every command completes.  The evidence of every source arrives at the base (`Arrived`), the
base publishes the result, and the controller commits it (`Listed.resolution_succeeds`).

What the completion needs besides the workflow itself are the rows that the creation of the
resolution has left: the operation, the conflict with its sources, the manifest of the result and
the frozen user (`Intact`).
-/

namespace StControl.Controller

open Store Run Transaction Table
open Option hiding or_self

variable {c : RetryConfig} {db db' : Db} {id operationID : UUID} {w : Workflow}
  {operation : ResolutionOperation} {conflict : ReplicaConflict}
variable {node : NodeID} {transfer : CapabilityState}

/-! ## Transferring the evidence -/

lemma step_setResolutionTransfer {consumed : Bool}
    (hoperation : db.resolutions.get? operationID = some operation)
    (hw : db.workflows.get? operation.workflowID = some w) (hlive : w.state.live)
    (hcurrent : db.isCurrent w) (htransfer : operation.transfers.get? node = some transfer)
    (hprepared : consumed = false ∨ transfer = .prepared) :
    step db (.setResolutionTransfer operationID node consumed) = some { db with
      resolutions := db.resolutions.put operationID { operation with
        transfers := operation.transfers.put node (if consumed then .consumed else .prepared) }
        } := by
  rw [step_eq_some, Act.transaction, setResolutionTransfer]
  exact ok_need hoperation (ok_need hw (ok_need htransfer
    (ok_require ⟨hlive, hcurrent, hprepared⟩ rfl)))

structure Resolving (db : Db) (id operationID : UUID) (w : Workflow)
    (operation : ResolutionOperation) : Prop where
  operation : db.resolutionOf id = some (operationID, operation)
  row : db.workflows.get? id = some w
  live : w.state.live
  current : db.isCurrent w

structure Intact (db : Db) (id : UUID) (operation : ResolutionOperation)
    (conflict : ReplicaConflict) : Prop where
  frozen : db.user.globalStatus = .conflict ∧ db.user.legacyStatus = .conflict
  row : db.conflicts.get? operation.conflictID = some conflict
  resolving : conflict.state = .resolving
  sources : 2 ≤ conflict.sources.count fun _ e => e = .ready
  manifest : ∃ m, db.manifests.get? operation.resultSnapshotID = some m ∧ m.workflowID = id ∧
    m.state = .building

def Arrived (nodes : List NodeID) (before after : Table NodeID CapabilityState) : Prop :=
  ∀ n, after.get? n = if n ∈ nodes then some .consumed else before.get? n

namespace Resolving

variable (h : Resolving db id operationID w operation)
include h

lemma hasOperation :
    db.resolutions.get? operationID = some operation ∧ operation.workflowID = id := by
  obtain ⟨hoperation, hlinked⟩ := of_find?_eq_some h.operation
  exact ⟨hoperation, by simpa using hlinked⟩

lemma setTransfer (consumed : Bool) (htransfer : operation.transfers.get? node = some transfer)
    (hprepared : consumed = false ∨ transfer = .prepared) :
    ∃ resolutions, step db (.setResolutionTransfer operationID node consumed) =
        some { db with resolutions } ∧
      Resolving { db with resolutions } id operationID w { operation with
        transfers := operation.transfers.put node
          (if consumed then .consumed else .prepared) } := by
  obtain ⟨hoperation, hlinked⟩ := h.hasOperation
  refine ⟨_, step_setResolutionTransfer hoperation (hlinked ▸ h.row) h.live h.current htransfer
    hprepared, ?_, h.row, h.live, h.current⟩
  exact find?_put_self (by simpa using hlinked)

lemma transferSource (hnode : (operation.transfers.get? node).isSome) :
    ∃ resolutions transfers, Controller.transferSource operationID node true db =
        ({ db with resolutions }, true) ∧
      Resolving { db with resolutions } id operationID w { operation with transfers } ∧
      Arrived [node] operation.transfers transfers := by
  obtain ⟨transfer, htransfer⟩ := isSome_iff_exists.mp hnode
  obtain ⟨hoperation, -⟩ := h.hasOperation
  unfold Controller.transferSource
  by_cases hprepared : transferPrepared db operationID node
  · have hstate : operation.transfers.get? node = some .prepared := by
      simpa [transferPrepared, hoperation] using hprepared
    obtain ⟨resolutions, hstep, hafter⟩ := h.setTransfer true hstate (.inr rfl)
    rw [if_pos hprepared]
    simp only [if_true, hstep]
    refine ⟨_, _, rfl, hafter, fun n => ?_⟩
    rw [get?_put]
    simp
  · obtain ⟨rotated, hrotate, hrotated⟩ := h.setTransfer false htransfer (.inl rfl)
    have hstate : (operation.transfers.put node .prepared).get? node = some .prepared :=
      get?_put_self ..
    obtain ⟨resolutions, hstep, hafter⟩ := hrotated.setTransfer true hstate (.inr rfl)
    rw [if_neg hprepared, hrotate]
    simp only [if_true, hstep]
    refine ⟨_, _, rfl, hafter, fun n => ?_⟩
    simp only [Bool.false_eq_true, if_false, if_true, get?_put, List.mem_singleton]
    split <;> simp_all

/-! ## Publication and completion -/

lemma publish (htype : w.workflowType = .conflictResolution)
    (hstate : w.state = .scheduled ∨ w.state = .transferring ∨ w.state = .publishing) (hconsumed : ∀
      n transfer, operation.transfers.get? n = some transfer → transfer = .consumed) :
    ∃ workflows w', step db (.markConflictResolutionPublishing id) = some { db with workflows } ∧
      Resolving { db with workflows } id operationID w' operation ∧ w'.state = .publishing := by
  by_cases hpublishing : w.state = .publishing
  · refine ⟨db.workflows, w, ?_, h, hpublishing⟩
    rw [step_eq_some, Act.transaction, markConflictResolutionPublishing]
    refine ok_need h.row ?_
    have hnot : ¬ (w.workflowType = .conflictResolution ∧
        (w.state = .scheduled ∨ w.state = .transferring) ∧ db.isCurrent w ∧
        (db.resolutionOf id).all (fun o => o.2.transfers.all fun _ t => t = .consumed)) := by
      simp [hpublishing]
    rw [if_neg hnot]
    exact ok_require hpublishing rfl
  · have hstate' : w.state = .scheduled ∨ w.state = .transferring := by
      rcases hstate with hs | hs | hs
      · exact .inl hs
      · exact .inr hs
      · exact absurd hs hpublishing
    have hall : (db.resolutionOf id).all (fun o => o.2.transfers.all fun _ t => t = .consumed) =
        true := by
      rw [h.operation, Option.all_some]
      exact all_eq_true.mpr fun n transfer hn => by simpa using hconsumed n transfer hn
    refine ⟨db.workflows.put id { w with state := .publishing }, { w with state := .publishing },
      ?_, ⟨h.operation, get?_put_self .., rfl, h.current⟩, rfl⟩
    rw [step_eq_some, Act.transaction, markConflictResolutionPublishing]
    refine ok_need h.row ?_
    rw [if_pos ⟨htype, hstate', h.current, hall⟩]
    rfl

lemma complete (hpublishing : w.state = .publishing) (hintact : Intact db id operation conflict)
    (entries : Digest) (now : Time) : perform db (.completeConflictResolution {
      workflowID := id, operationID, conflictID := operation.conflictID
      resultSnapshotID := operation.resultSnapshotID, entriesSHA256 := entries
      now }) = resolveConflict {
        workflowID := id, operationID, conflictID := operation.conflictID
        resultSnapshotID := operation.resultSnapshotID, entriesSHA256 := entries
        now } w operation db := by
  obtain ⟨hoperation, hlinked⟩ := h.hasOperation
  obtain ⟨m, hm, hmanifest, hbuilding⟩ := hintact.manifest
  have hunresolved : ¬ (w.state = .succeeded ∧ conflict.state = .resolved) := by
    simp [hpublishing]
  refine perform_of_ok ?_
  rw [Act.transaction, completeConflictResolution]
  refine ok_need h.row (ok_need hoperation (ok_need hintact.row ?_))
  refine ok_require ⟨hlinked, rfl, rfl⟩ ?_
  rw [if_neg hunresolved]
  refine ok_require ⟨hpublishing, hintact.frozen.1, hintact.frozen.2, hintact.resolving⟩ ?_
  refine ok_require h.current (ok_require hintact.sources (ok_need hm ?_))
  exact ok_require ⟨hmanifest, hbuilding⟩ rfl

end Resolving

/-! ## The whole execution -/

lemma transferEvidence_succeeds (nodes : List NodeID) (h : Resolving db id operationID w operation)
    (hnodes : ∀ n ∈ nodes, (operation.transfers.get? n).isSome) :
    ∃ resolutions transfers, transferEvidence operationID (fun _ => true) nodes db =
        ({ db with resolutions }, true) ∧
      Resolving { db with resolutions } id operationID w { operation with transfers } ∧
      Arrived nodes operation.transfers transfers := by
  induction nodes generalizing db operation with
  | nil => exact ⟨db.resolutions, operation.transfers, rfl, h, fun n => rfl⟩
  | cons node nodes ih =>
    obtain ⟨resolutions, transfers, hsource, hafter, harrived⟩ :=
      h.transferSource (hnodes node List.mem_cons_self)
    have hrest : ∀ n ∈ nodes, (transfers.get? n).isSome := by
      intro n hn
      rw [harrived n]
      split
      · rfl
      · exact hnodes n (List.mem_cons_of_mem node hn)
    obtain ⟨resolutions', transfers', hevidence, hafter', harrived'⟩ := ih hafter hrest
    refine ⟨resolutions', transfers', ?_, hafter', fun n => ?_⟩
    · simp only [transferEvidence, hsource]
      exact hevidence
    · rw [harrived' n, harrived n]
      by_cases hn : n ∈ nodes <;> simp [hn]

def answeredResolution : ResolutionAnswers where
  transferred := fun _ => true
  prepared := true
  published := some 0

structure Resolved (db : Db) (operation : ResolutionOperation) (db' : Db) : Prop where
  conflicts : db'.conflicts = db.conflicts.modify operation.conflictID
    fun c => { c with state := .resolved, version := c.version + 1 }
  user : db'.user = { db.user with
    homeNodeID := some operation.baseNodeID, legacyStatus := .active, globalStatus := .active }

/-- **A resolution that is answered succeeds.**  The next execution of a live resolution, with all
nodes it needs ready and every command answered, commits its completion. -/
theorem Listed.resolution_succeeds (h : Listed c db id w)
    (htype : w.workflowType = .conflictResolution)
    (hstate : w.state = .scheduled ∨ w.state = .transferring ∨ w.state = .publishing ∨
      w.state = .retryWait) (hoperation : db.resolutionOf id = some (operationID, operation))
    (hintact : Intact db id operation conflict) :
    ∃ now db', executeResolution c id answeredResolution now db = some db' ∧
      Resolved db operation db' := by
  obtain ⟨now, hdue⟩ := exists_due w
  obtain ⟨t, hclaim, hrow⟩ := claimWorkflow_of_current h.row h.live h.current h.resumable hdue
  obtain ⟨operationID', operation', base, hserved, hbase, hrole, hpath, hready, hsources⟩ :=
    h.served.resolution htype
  rw [hoperation] at hserved
  obtain ⟨rfl, rfl⟩ := Prod.mk.inj (some.inj hserved)
  have hclaimedType := (claimedRow_type w).trans htype
  have hclaimedState : (claimedRow w).state = .scheduled ∨ (claimedRow w).state = .transferring ∨
      (claimedRow w).state = .publishing := by
    unfold claimedRow
    rcases hstate with hs | hs | hs | hs <;> simp [hs, htype, WorkflowType.resumeState]
  have hclaimed : Resolving { db with workflows := t } id operationID (claimedRow w) operation :=
    { operation := hoperation, row := hrow
      live := by rcases hclaimedState with hs | hs | hs <;> rw [hs] <;> rfl
      current := by
        have hgeneration : (claimedRow w).controllerGeneration = w.controllerGeneration := by
          unfold claimedRow
          split <;> rfl
        have hcurrent := h.current
        simp only [Db.isCurrent] at hcurrent ⊢
        rw [hgeneration]
        exact hcurrent }
  have hjob : (executionJob { db with workflows := t } id (claimedRow w).workflowType).isSome =
      true := by
    rw [hclaimedType, executionJob, isSome_map]
    exact isSome_iff_exists.mpr ⟨_, hoperation⟩
  obtain ⟨e, hload, -⟩ := readFrom_of_loadExecution hclaimed.row hjob
  obtain ⟨resolutions, transfers, hevidence, hreceived, harrived⟩ :=
    transferEvidence_succeeds (pendingSources operation) hclaimed fun n hn => by
      obtain ⟨transfer, htransfer, -⟩ := mem_pendingSources.mp hn
      exact isSome_iff_exists.mpr ⟨transfer, htransfer⟩
  have hconsumed : ∀ n transfer, transfers.get? n = some transfer → transfer = .consumed := by
    intro n transfer hn
    rw [harrived n] at hn
    split at hn
    · exact (some.inj hn).symm
    next hnot =>
      by_contra hunconsumed
      exact hnot (mem_pendingSources.mpr ⟨transfer, hn, hunconsumed⟩)
  obtain ⟨workflows, w', hpublish, hpublished, hpublishing⟩ :=
    hreceived.publish hclaimedType hclaimedState hconsumed
  have hintact' : Intact { db with workflows, resolutions } id { operation with transfers }
      conflict := { hintact with }
  have hcomplete := hpublished.complete hpublishing hintact' 0 now
  have hexecute : executeResolution c id answeredResolution now db = some (resolveConflict {
      workflowID := id, operationID, conflictID := operation.conflictID
      resultSnapshotID := operation.resultSnapshotID, entriesSHA256 := 0
      now } w' { operation with transfers } { db with workflows, resolutions }) := by
    rw [executeResolution, hclaim]
    simp only [bind_eq_bind, bind_some, hload, hclaimed.row, hclaimed.operation,
      hclaimedType, ne_eq, not_true_eq_false, if_false, hbase, hrole, answeredResolution,
      Bool.true_eq_false, Bool.false_eq_true, hpath, hready, hsources, hevidence, hpublish, or_self,
      hcomplete]
  exact ⟨now, _, hexecute, ⟨rfl, rfl⟩⟩

end StControl.Controller
