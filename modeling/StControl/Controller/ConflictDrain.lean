import StControl.Controller.ConflictExit

/-!
# Conflicts on draining nodes

When independent writers collide, the reconciliations of the user on their nodes are in conflict,
and each of these nodes drains until the conflict is resolved.  The resolution reads the evidence of
the nodes and publishes its result on one of them.  `returnStep` is what happens meanwhile: all that
happens while the user is frozen, the reconciliation loop, and the heartbeats after which a node
takes the mode that the controller wants.

Draining nodes are offered the commands of a resolution, but the execution waits until the base and
every source that it still has to read are managed.  A node among them that drains because of this
very conflict never becomes managed, whether the user has made their choice or not: every source
will be the base or be read.  `draining_node_can_return` says that this is the only thing in the
way, and `conflict_deadlock` is a run that ends in such a deadlock.
-/

namespace StControl.Controller

open Store Run Transaction Option Table ReconciliationState

variable {c : RetryConfig} {db db' : Db} {conflictID id operationID : UUID} {node needed : NodeID}
  {conflict : ReplicaConflict}
variable {delay : Duration} {e : Execution} {act : ExitAct}

/-! ## What happens while a node drains with a conflict -/

inductive ReturnAct
  | exit (act : ExitAct)
  | drain (act : DrainAct)
  /-- The node reports its mode and takes the one that the controller answers; it has no user left
  to synchronise but those that the controller knows of. -/
  | heartbeat (node : NodeID)

/-- `ReconcileNodeControlMode`, with the node that follows it. -/
def followMode (db : Db) (nodeID : NodeID) (node : Node) : Node :=
  let mode := desiredControlMode db nodeID node.activeIndependentSessions 0 node.controlMode
  { node with controlMode := mode, desiredControlMode := mode }

def returnStep (c : RetryConfig) (db : Db) : ReturnAct → Option Db
  | .exit act => exitStep c db act
  | .drain act => drainStep c db act
  | .heartbeat nodeID =>
    (db.nodes.get? nodeID).map fun node =>
      { db with nodes := db.nodes.put nodeID (followMode db nodeID node) }

def CanReturn (c : RetryConfig) (db : Db) (node : NodeID) : Prop :=
  ∃ acts db' row, run (returnStep c) db acts = some db' ∧ db'.nodes.get? node = some row ∧
    row.managed

def WaitsForConflict (db : Db) (node : NodeID) : Prop :=
  (∃ row, db.nodes.get? node = some row ∧ row.controlMode = .independentDraining) ∧
    ∃ k r, db.reconciliations.get? k = some r ∧ r.nodeID = node ∧ r.state = .conflict

section

variable (h : WaitsForConflict db node)
include h

lemma WaitsForConflict.not_ready : (db.nodes.get? node).any snapshotNodeReady = false := by
  obtain ⟨⟨row, hrow, hmode⟩, -⟩ := h
  simp [hrow, snapshotNodeReady, Node.managed, hmode]

lemma WaitsForConflict.returnBlocked : db.returnBlocked node := by
  obtain ⟨-, k, r, hr, hnode, hstate⟩ := h
  exact any_eq_true.mpr ⟨k, r, hr, by simp [hnode, hstate, blocks]⟩

lemma WaitsForConflict.aside (haside : Aside db db') : WaitsForConflict db' node := by
  rw [WaitsForConflict, haside.nodes, haside.reconciliations]
  exact h

lemma WaitsForConflict.put_reconciliation {k : UUID} {r r' : IndependentReconciliation}
    (hr : db.reconciliations.get? k = some r) (hstate : r.state = .completing) :
    WaitsForConflict { db with reconciliations := db.reconciliations.put k r' } node := by
  obtain ⟨hnode, k', row, hrow, hn, hconflict⟩ := h
  have hne : k' ≠ k := by
    rintro rfl
    obtain rfl := mem_unique hr hrow
    simp [hstate] at hconflict
  exact ⟨hnode, k', row, (get?_put_of_ne hne).trans hrow, hn, hconflict⟩

lemma WaitsForConflict.heartbeat {nodeID : NodeID} {row : Node}
    (hrow : db.nodes.get? nodeID = some row) :
    WaitsForConflict { db with nodes := db.nodes.put nodeID (followMode db nodeID row) } node := by
  refine ⟨?_, h.2⟩
  have hblocked := h.returnBlocked
  by_cases hid : node = nodeID
  · subst hid
    obtain ⟨⟨row', hrow', hmode⟩, -⟩ := h
    obtain rfl := mem_unique hrow hrow'
    refine ⟨_, get?_put_self .., ?_⟩
    simp [followMode, desiredControlMode, hmode, hblocked]
  · obtain ⟨⟨row', hrow', hmode⟩, -⟩ := h
    exact ⟨row', (get?_put_of_ne hid).trans hrow', hmode⟩

end

/-! ## The deadlock -/

def needs (operation : ResolutionOperation) (node : NodeID) : Prop :=
  node = operation.baseNodeID ∨ node ∈ pendingSources operation

lemma needs_of_revoked {operation : ResolutionOperation} (h : needs operation node) :
    needs { operation with
      transfers := operation.transfers.update (fun _ t => t = .prepared) fun _ => .revoked }
      node := by
  refine h.imp_right fun hpending => ?_
  obtain ⟨transfer, htransfer, hunconsumed⟩ := mem_pendingSources.mp hpending
  refine mem_pendingSources.mpr ⟨_, by rw [get?_update, htransfer, map_some], ?_⟩
  split
  · decide
  · exact hunconsumed

lemma FrozenBy.rewrite {conflict' : ReplicaConflict} {conflicts : Table UUID ReplicaConflict}
    (h : FrozenBy db conflictID conflict) (hrow : conflicts.get? conflictID = some conflict')
    (hstate : conflict'.state = .resolving ∨ conflict'.state = .awaitingDecision)
    (hothers : ∀ k other, conflicts.get? k = some other → k ≠ conflictID →
      ∃ before, db.conflicts.get? k = some before ∧ other.state = before.state) :
    FrozenBy { db with conflicts } conflictID conflict' where
  user := h.user
  lease := h.lease
  row := hrow
  isOpen := by rcases hstate with hs | hs <;> simp [hs]
  others := by
    intro k other hother hne
    obtain ⟨before, hbefore, hsame⟩ := hothers k other hother hne
    rw [hsame]
    exact h.others k before hbefore hne

/-- The resolution of the conflict is the only live workflow, or has failed, and one of the nodes
that it needs waits for the conflict, as `node` does. -/
structure Deadlocked (conflictID id operationID : UUID) (needed node : NodeID) (db : Db) :
    Prop where
  frozen : ∃ conflict, FrozenBy db conflictID conflict ∧
    (conflict.state = .resolving ∨ conflict.state = .awaitingDecision)
  submitted : ∃ operation, db.resolutionOf id = some (operationID, operation) ∧
    operation.conflictID = conflictID ∧ needs operation needed
  sole : ∀ k o, db.resolutions.get? k = some o → o.conflictID = conflictID → k = operationID
  row : ∃ w, db.workflows.get? id = some w ∧ w.workflowType = .conflictResolution
  only : ∀ k w, db.workflows.get? k = some w → w.state.live → k = id
  waits : WaitsForConflict db needed ∧ WaitsForConflict db node

structure ReadsResolution (e : Execution) (id : UUID) : Prop where
  workflow : e.workflowID = id
  type : e.workflowType = .conflictResolution
  job : e.jobID = none

variable {id' k : UUID} {now : Time}

namespace Deadlocked

variable (h : Deadlocked conflictID id operationID needed node db)
include h

lemma put_workflow {w : Workflow} {capabilities : Table UUID TransferCapability}
    (htype : w.workflowType = .conflictResolution) :
    Deadlocked conflictID id operationID needed node
      { db with workflows := db.workflows.put id w, capabilities } := by
  obtain ⟨conflict, hfrozen, hstate⟩ := h.frozen
  exact ⟨⟨conflict, { hfrozen with }, hstate⟩, h.submitted, h.sole,
    ⟨w, get?_put_self .., htype⟩, forall_put h.only fun _ => rfl, h.waits⟩

lemma type {w : Workflow} (hw : db.workflows.get? id = some w) :
    w.workflowType = .conflictResolution := by
  obtain ⟨w', hw', htype⟩ := h.row
  exact mem_unique hw' hw ▸ htype

lemma claim (hclaim : claimWorkflow id' now db = some db') :
    id' = id ∧ Deadlocked conflictID id operationID needed node db' := by
  obtain ⟨⟨w, hw, hlive, -⟩, hclaim⟩ := of_claimWorkflow hclaim
  obtain rfl := h.only id' w hw hlive
  refine ⟨rfl, ?_⟩
  obtain rfl | hstep := hclaim
  · exact h
  rw [step_eq_some, Act.transaction, resumeSnapshotRetry] at hstep
  obtain ⟨w', hw', hstep⟩ := of_need hstep
  obtain ⟨-, hstep⟩ := of_require hstep
  obtain ⟨state, -, ⟨⟩⟩ := of_need hstep
  have htype := h.type hw'
  exact h.put_workflow htype

lemma adopt {hadRelay : Bool}
    (hstep : step db (.adoptStaleConflictResolution id' hadRelay now) = some db') :
    Deadlocked conflictID id operationID needed node db' := by
  rw [step_eq_some, Act.transaction, adoptStaleConflictResolution] at hstep
  obtain ⟨generation, -, hstep⟩ := of_need hstep
  obtain ⟨w, hw, hstep⟩ := of_need hstep
  obtain ⟨⟨htype, -, hstate⟩, ⟨⟩⟩ := of_require hstep
  have hlive : w.state.live := by rcases hstate with hs | hs | hs | hs <;> rw [hs] <;> rfl
  obtain rfl := h.only id' w hw hlive
  exact h.put_workflow htype

lemma defer : Deadlocked conflictID id operationID needed node
      (perform db (.deferConflictResolution id now delay)) := by
  rcases perform_eq db (.deferConflictResolution id now delay) with hkept | hstep
  · rwa [hkept]
  generalize perform db (.deferConflictResolution id now delay) = db' at hstep ⊢
  rw [step_eq_some, Act.transaction, deferConflictResolution] at hstep
  obtain ⟨-, hstep⟩ := of_require hstep
  obtain ⟨w, hw, hstep⟩ := of_need hstep
  obtain ⟨⟨htype, -⟩, ⟨⟩⟩ := of_require hstep
  exact h.put_workflow htype

lemma schedule (hstep : step db (.scheduleSnapshotRetry id now delay) = some db') :
    Deadlocked conflictID id operationID needed node db' := by
  rw [step_eq_some, Act.transaction, scheduleSnapshotRetry] at hstep
  obtain ⟨-, hstep⟩ := of_require hstep
  obtain ⟨w, hw, hstep⟩ := of_need hstep
  obtain ⟨-, hstep⟩ := of_require hstep
  obtain ⟨-, ⟨⟩⟩ := of_require hstep
  have htype := h.type hw
  exact h.put_workflow htype

lemma fail (hstep : step db (.failConflictResolution id) = some db') :
    Deadlocked conflictID id operationID needed node db' := by
  obtain ⟨conflict, hfrozen, hstate⟩ := h.frozen
  obtain ⟨operation, hsubmitted, hconflict, hneeds⟩ := h.submitted
  obtain ⟨hoperation, hlinked⟩ := of_find?_eq_some hsubmitted
  rw [step_eq_some, Act.transaction, failConflictResolution] at hstep
  obtain ⟨w, hw, hstep⟩ := of_need hstep
  obtain ⟨⟨operationID', operation'⟩, hsubmitted', hstep⟩ := of_need hstep
  rw [hsubmitted] at hsubmitted'
  obtain ⟨rfl, rfl⟩ := Prod.mk.inj (some.inj hsubmitted')
  obtain ⟨-, ⟨⟩⟩ := of_require hstep
  subst hconflict
  refine ⟨?_, ⟨_, find?_put_self hlinked, rfl, needs_of_revoked hneeds⟩, ?_, ?_, ?_, h.waits⟩
  · have hrow : (db.conflicts.update (fun id c => id = operation.conflictID && c.state = .resolving)
        fun c => { c with state := .awaitingDecision, version := c.version + 1 }).get?
          operation.conflictID = some (if conflict.state = .resolving then
            { conflict with state := .awaitingDecision, version := conflict.version + 1 }
            else conflict) := by
      rw [get?_update, hfrozen.row, map_some]
      simp
    have hwaits : (if conflict.state = .resolving then
        { conflict with state := .awaitingDecision, version := conflict.version + 1 }
        else conflict).state = .resolving ∨ (if conflict.state = .resolving then
        { conflict with state := .awaitingDecision, version := conflict.version + 1 }
        else conflict).state = .awaitingDecision := by
      split
      · exact .inr rfl
      · exact hstate
    have hrewritten := hfrozen.rewrite hrow hwaits fun k other hother hne => by
      rw [get?_update] at hother
      obtain ⟨before, hbefore, rfl⟩ := map_eq_some_iff.mp hother
      exact ⟨before, hbefore, by simp [hne]⟩
    exact ⟨_, { hrewritten with }, hwaits⟩
  · exact forall_put h.sole fun _ => rfl
  · have htype := h.type hw
    refine ⟨_, by rw [endWorkflow, get?_update, hw, map_some], ?_⟩
    split <;> exact htype
  · intro k v hv hlive
    rw [endWorkflow, get?_update] at hv
    obtain ⟨before, hbefore, rfl⟩ := map_eq_some_iff.mp hv
    refine h.only k before hbefore ?_
    split at hlive
    · cases hlive
    · exact hlive

/-! ## No step breaks it -/

lemma load (hload : loadExecution id db = some e) : ReadsResolution e id := by
  obtain ⟨w, hw, hload⟩ := bind_eq_some_iff.mp hload
  obtain ⟨jobID, hjob, ⟨⟩⟩ := bind_eq_some_iff.mp hload
  rw [h.type hw, executionJob] at hjob
  obtain ⟨operation, -, rfl⟩ := map_eq_some_iff.mp hjob
  exact ⟨rfl, h.type hw, rfl⟩

lemma retry (he : ReadsResolution e id) :
    Deadlocked conflictID id operationID needed node (retryWorkflow c e now db) := by
  obtain ⟨rfl, htype, hjob⟩ := he
  have hkept : e.aborted db = false := by
    rw [Execution.aborted, hjob]
    rfl
  rw [retryWorkflow, hkept, if_neg Bool.false_ne_true]
  split
  · exact h
  next scheduled hscheduled =>
    have hafter := h.schedule hscheduled
    split
    · rw [Execution.failure, htype]
      rcases perform_eq scheduled (.failConflictResolution e.workflowID) with hsame | hstep
      · rwa [hsame]
      · exact hafter.fail hstep
    · exact hafter

lemma execute {a : ResolutionAnswers} (hstep : executeResolution c id' a now db = some db') :
    Deadlocked conflictID id operationID needed node db' := by
  obtain ⟨claimed, hclaim, hstep⟩ := bind_eq_some_iff.mp hstep
  obtain ⟨e, hload, hstep⟩ := bind_eq_some_iff.mp hstep
  obtain ⟨w, hw, hstep⟩ := bind_eq_some_iff.mp hstep
  obtain ⟨⟨operationID', operation⟩, hoperation, hstep⟩ := bind_eq_some_iff.mp hstep
  obtain ⟨rfl, hclaimed⟩ := h.claim hclaim
  have hreads := hclaimed.load hload
  obtain ⟨operation', hsubmitted, -, hneeds⟩ := hclaimed.submitted
  rw [hoperation] at hsubmitted
  obtain ⟨rfl, rfl⟩ := Prod.mk.inj (some.inj hsubmitted)
  dsimp only at hstep
  split at hstep
  · cases hstep
  split at hstep
  · exact some.inj hstep ▸ hclaimed.retry hreads
  next base hbase =>
    split at hstep
    · exact some.inj hstep ▸ hclaimed.retry hreads
    split at hstep
    · exact some.inj hstep ▸ hclaimed.defer
    next hready =>
      simp only [not_or, Bool.not_eq_false] at hready
      have hnot := hclaimed.waits.1.not_ready
      rcases hneeds with rfl | hpending
      · simp [hbase, hready.1] at hnot
      · have hdelivers := List.all_eq_true.mp hready.2 needed hpending
        obtain ⟨row, hrow, hrowReady⟩ := (Option.any_eq_true _ _).mp hdelivers
        rw [Bool.and_eq_true] at hrowReady
        simp [hrow, hrowReady.1] at hnot

lemma work {act : ReconcilerAct} (hstep : reconcilerStep c db act = some db') :
    Deadlocked conflictID id operationID needed node db' := by
  cases act with
  | adoptSnapshot id' now =>
    obtain ⟨w, hw, hlive, htype⟩ := adopted_snapshot hstep
    obtain rfl := h.only id' w hw hlive
    simp [h.type hw] at htype
  | adoptResolution id' hadRelay now => exact h.adopt hstep
  | executeSnapshot id' a now | executeRestore id' a now =>
    obtain ⟨claimed, hclaim, hstep⟩ := bind_eq_some_iff.mp hstep
    obtain ⟨e, -, hstep⟩ := bind_eq_some_iff.mp hstep
    obtain ⟨w, hw, hstep⟩ := bind_eq_some_iff.mp hstep
    obtain ⟨rfl, hclaimed⟩ := h.claim hclaim
    simp [hclaimed.type hw] at hstep
  | executeResolution id' a now => exact h.execute hstep

lemma put_conflict {row row' : ReplicaConflict} (hrow : db.conflicts.get? k = some row)
    (hsame : row'.state = row.state) : Deadlocked conflictID id operationID needed node
      { db with conflicts := db.conflicts.put k row' } := by
  obtain ⟨conflict, hfrozen, hstate⟩ := h.frozen
  have hothers : ∀ k' other, (db.conflicts.put k row').get? k' = some other → k' ≠ conflictID →
      ∃ before, db.conflicts.get? k' = some before ∧ other.state = before.state := by
    intro k' other hother _
    obtain ⟨hk, rfl⟩ | hother := of_get?_put hother
    · exact ⟨row, hk ▸ hrow, hsame⟩
    · exact ⟨other, hother, rfl⟩
  refine ⟨?_, h.submitted, h.sole, h.row, h.only, h.waits⟩
  by_cases hk : conflictID = k
  · subst hk
    obtain rfl := mem_unique hrow hfrozen.row
    rw [← hsame] at hstate
    exact ⟨row', hfrozen.rewrite (get?_put_self ..) hstate hothers, hstate⟩
  · exact ⟨conflict, hfrozen.rewrite ((get?_put_of_ne hk).trans hfrozen.row) hstate hothers, hstate⟩

lemma not_inspecting {row : ReplicaConflict} (hrow : db.conflicts.get? k = some row) :
    row.state ≠ .detected ∧ row.state ≠ .inspecting := by
  obtain ⟨conflict, hfrozen, hstate⟩ := h.frozen
  by_cases hk : k = conflictID
  · subst hk
    obtain rfl := mem_unique hrow hfrozen.row
    rcases hstate with hs | hs <;> simp [hs]
  · rcases hfrozen.others k row hrow hk with hs | hs <;> simp [hs]

lemma sweep {fresh : UUID} (hstep : reconcileProtectionStates now fresh db = .ok db') :
    Deadlocked conflictID id operationID needed node db' := by
  obtain ⟨conflict, hfrozen, hstate⟩ := h.frozen
  obtain ⟨operation, hsubmitted, hconflict, hneeds⟩ := h.submitted
  have hfresh : db.conflicts.get? fresh = none := by
    exact (of_require hstep).1
  obtain ⟨protection, tickets, hsweep⟩ := hfrozen.sweep now hfresh
  obtain rfl := Except.ok.inj (hstep.symm.trans hsweep)
  have hcaptured : ∀ k, (db.captureConflicts db.conflicts).get? k = db.conflicts.get? k := by
    intro k
    cases hrow : db.conflicts.get? k with
    | none => rw [Db.captureConflicts, get?_mapRows, hrow, map_none]
    | some row =>
      by_cases hk : k = conflictID
      · -- a conflict with a resolution is not captured again
        obtain ⟨hoperation, -⟩ := of_find?_eq_some hsubmitted
        have hresolved : db.resolutions.all (fun _ o => o.conflictID ≠ k) = false := by
          rw [← Bool.not_eq_true]
          intro hall
          have hne := of_all hall hoperation
          exact hne (hconflict.trans hk.symm)
        rw [Db.captureConflicts, get?_mapRows, hrow, map_some, hresolved, Bool.and_false,
          if_neg Bool.false_ne_true]
      · exact get?_captureConflicts_of_closed hrow (hfrozen.others k row hrow hk)
  refine ⟨⟨conflict, ⟨hfrozen.user, hfrozen.lease, (hcaptured conflictID).trans hfrozen.row,
    hfrozen.isOpen, fun k other hother hne => ?_⟩, hstate⟩,
    ⟨operation, hsubmitted, hconflict, hneeds⟩,
    h.sole, h.row, h.only, h.waits⟩
  exact hfrozen.others k other ((hcaptured k).symm.trans hother) hne

lemma choose {p : CreateConflictResolutionParams}
    (hstep : createConflictResolution p db = .ok db') : db' = db := by
  obtain ⟨conflict, hfrozen, -⟩ := h.frozen
  obtain ⟨operation, hsubmitted, hconflict, -⟩ := h.submitted
  obtain ⟨hoperation, -⟩ := of_find?_eq_some hsubmitted
  obtain hsame | ⟨row, generation, hp, -⟩ := createConflictResolution_commit db' hstep
  · exact hsame
  · have hnone := hp.unresolved
    rw [hfrozen.eq_of_awaiting hp.hasConflict hp.awaits] at hnone
    exact absurd hconflict (of_all hnone hoperation)

lemma restart {operationID' : UUID} (hstep : restartConflictResolution operationID' db = .ok db') :
    Deadlocked conflictID id operationID needed node db' := by
  obtain ⟨conflict, hfrozen, -⟩ := h.frozen
  obtain ⟨operation, hsubmitted, hconflict, hneeds⟩ := h.submitted
  obtain ⟨hoperation, hlinked⟩ := of_find?_eq_some hsubmitted
  have hlinked : operation.workflowID = id := of_decide_eq_true hlinked
  obtain ⟨operation', w, row, manifest, generation, ⟨hoperation', hw, -, hawaits, -⟩, rfl⟩ :=
    restartConflictResolution_commit db' hstep
  -- the operation is the one of this conflict
  obtain ⟨_, hrow, hawaits⟩ := hawaits
  have hsame := hfrozen.eq_of_awaiting hrow hawaits
  obtain rfl := h.sole operationID' operation' hoperation' hsame
  obtain rfl := mem_unique hoperation hoperation'
  subst hlinked hconflict
  have htype := h.type hw
  have hput : (db.conflicts.put operation.conflictID
      { row with state := .resolving, version := row.version + 1 }).get? operation.conflictID =
        some { row with state := .resolving, version := row.version + 1 } :=
    get?_put_self ..
  have hrewritten := hfrozen.rewrite hput (.inl rfl) fun k other hother hne =>
    ⟨other, (get?_put_of_ne hne).symm.trans hother, rfl⟩
  exact ⟨⟨_, { hrewritten with }, .inl rfl⟩, ⟨operation, hsubmitted, rfl, hneeds⟩, h.sole,
    ⟨_, get?_put_self .., htype⟩, forall_put h.only fun _ => rfl, h.waits⟩

lemma exitStep (hstep : exitStep c db act = some db') :
    Deadlocked conflictID id operationID needed node db' := by
  cases act with
  | work act => exact h.work (ite_none_right_eq_some.mp hstep).2
  | store act =>
    obtain ⟨hact, hstep⟩ := ite_none_right_eq_some.mp hstep
    have htransaction := step_eq_some.mp hstep
    obtain ⟨conflict, hfrozen, -⟩ := h.frozen
    cases act with
    | reconcileProtectionStates now fresh => exact h.sweep htransaction
    | claimConflictEvidence k n =>
      obtain ⟨row, hrow, htransaction⟩ := of_need htransaction
      obtain ⟨hstate, -⟩ := of_require htransaction
      exact absurd hstate (not_or.mpr (h.not_inspecting hrow))
    | retryConflictEvidence k n exhausted =>
      obtain ⟨row, hrow, htransaction⟩ := of_need htransaction
      obtain ⟨evidence, -, htransaction⟩ := of_need htransaction
      obtain ⟨-, ⟨⟩⟩ := of_require htransaction
      exact h.put_conflict hrow rfl
    | completeConflictEvidence k n =>
      obtain ⟨row, hrow, htransaction⟩ := of_need htransaction
      obtain ⟨hstate, -⟩ := of_require htransaction
      exact absurd hstate (h.not_inspecting hrow).2
    | createConflictResolution p => exact h.choose htransaction ▸ h
    | restartConflictResolution operationID' => exact h.restart htransaction
    | renewActivityLease fence now ttl => exact hfrozen.renewLease htransaction ▸ h
    | updateActivityLeaseTelemetry p => exact hfrozen.leaseTelemetry htransaction ▸ h
    | endActivityLease fence now => exact hfrozen.endLease htransaction ▸ h
    | _ => cases hact

lemma no_work {r : IndependentReconciliation} : db.reconciliationWork r = none := by
  obtain ⟨conflict, hfrozen, -⟩ := h.frozen
  simp [Db.reconciliationWork, hfrozen.openConflict]

lemma put_reconciliation {r r' : IndependentReconciliation}
    (hr : db.reconciliations.get? k = some r) (hstate : r.state = .completing) :
    Deadlocked conflictID id operationID needed node
      { db with reconciliations := db.reconciliations.put k r' } := by
  obtain ⟨conflict, hfrozen, hresolving⟩ := h.frozen
  exact ⟨⟨conflict, { hfrozen with }, hresolving⟩, h.submitted, h.sole, h.row, h.only,
    h.waits.1.put_reconciliation hr hstate, h.waits.2.put_reconciliation hr hstate⟩

lemma drainStep {act : DrainAct} (hstep : drainStep c db act = some db') :
    Deadlocked conflictID id operationID needed node db' := by
  cases act with
  | work act => exact h.work hstep
  | snapshot k p | restart k | «begin» k =>
    obtain ⟨r, -, hstep⟩ := bind_eq_some_iff.mp hstep
    simp [h.no_work] at hstep
  | finish k answered =>
    obtain ⟨r, row, hr, hstate, rfl⟩ := of_finish hstep
    exact h.put_reconciliation hr hstate

lemma returnStep {act : ReturnAct} (hstep : returnStep c db act = some db') :
    Deadlocked conflictID id operationID needed node db' := by
  cases act with
  | exit act => exact h.exitStep hstep
  | drain act => exact h.drainStep hstep
  | heartbeat nodeID =>
    obtain ⟨row, hrow, rfl⟩ := map_eq_some_iff.mp hstep
    obtain ⟨conflict, hfrozen, hstate⟩ := h.frozen
    exact ⟨⟨conflict, { hfrozen with },
      hstate⟩, h.submitted, h.sole, h.row, h.only, h.waits.1.heartbeat hrow,
      h.waits.2.heartbeat hrow⟩

end Deadlocked

/-! ## Before the choice -/

/-- The choice was not made, and one of the sources waits for the conflict, as `node` does. -/
structure Contended (conflictID : UUID) (needed node : NodeID) (db : Db) : Prop
    extends Undisturbed db where
  source : ∃ conflict, FrozenBy db conflictID conflict ∧ Undecided db conflictID conflict ∧
    (conflict.sources.get? needed).isSome
  waits : WaitsForConflict db needed ∧ WaitsForConflict db node

/-- There is no way back for the node: one of the nodes that the resolution needs, or will need,
waits for the conflict. -/
def Blocked (conflictID : UUID) (needed node : NodeID) (db : Db) : Prop :=
  Contended conflictID needed node db ∨
    ∃ id operationID, Deadlocked conflictID id operationID needed node db

namespace Contended

variable (h : Contended conflictID needed node db)
include h

lemma executes (hexecutes : Executes db db') : Contended conflictID needed node db' := by
  obtain ⟨hcalm, hundisturbed⟩ := h.toUndisturbed.executes hexecutes
  obtain ⟨conflict, hfrozen, hundecided, hsource⟩ := h.source
  exact ⟨hundisturbed, ⟨conflict, hcalm.frozenBy hfrozen, hcalm.undecided hundecided, hsource⟩,
    h.waits.1.aside hexecutes.aside, h.waits.2.aside hexecutes.aside⟩

lemma choose {p : CreateConflictResolutionParams} {generation : ℤ}
    (hfrozen : FrozenBy db conflictID conflict) (hundecided : Undecided db conflictID conflict)
    (hsource : (conflict.sources.get? needed).isSome) (hid : p.conflictID = conflictID)
    (hp : ResolutionCreation p db conflict generation) :
    Deadlocked conflictID p.workflowID p.operationID needed node
      (insertConflictResolution p conflict generation db) := by
  subst hid
  have hidle := hp.accepts
  simp only [Db.acceptsWorkflow, Bool.and_eq_true, Bool.not_eq_true'] at hidle
  have hrow : (db.conflicts.put p.conflictID { conflict with
      state := .resolving, version := conflict.version + 1 }).get? p.conflictID = some _ :=
    get?_put_self ..
  have hrewritten := hfrozen.rewrite hrow (.inl rfl) fun k other hother hne =>
    ⟨other, (get?_put_of_ne hne).symm.trans hother, rfl⟩
  refine ⟨⟨_, { hrewritten with }, .inl rfl⟩, ⟨_, find?_put_self (decide_eq_true rfl), rfl, ?_⟩,
    ?_, ⟨_, get?_put_self .., rfl⟩, ?_, { h.waits.1 with }, { h.waits.2 with }⟩
  · refine (needed_of_creation hp hsource).imp_right fun hmem => mem_pendingSources.mpr ?_
    refine ⟨.prepared, ?_, by decide⟩
    rw [get?_foldl_put, if_pos hmem]
  · intro k o ho hconflict
    obtain ⟨hk, -⟩ | ho := of_get?_put ho
    · exact hk
    · exact absurd hconflict (hundecided.unresolved k o ho)
  · intro k w hw hlive
    obtain ⟨hk, -⟩ | hw := of_get?_put hw
    · exact hk
    · simp [any_eq_false.mp hidle.2 k w hw] at hlive

lemma exitStep (hstep : exitStep c db act = some db') : Blocked conflictID needed node db' := by
  cases act with
  | work act =>
    exact .inl (h.executes (executes_reconcilerStep (ite_none_right_eq_some.mp hstep).2))
  | store act =>
    obtain ⟨conflict, hfrozen, hundecided, hsource⟩ := h.source
    obtain hwaits | ⟨p, generation, hid, hp, rfl⟩ := hundecided.storeStep hfrozen hstep
    · have hundisturbed := hwaits.undisturbed h.toUndisturbed
        (wellLinked_of_storeStep h.linked hstep)
      obtain ⟨conflicts, protection, tickets, conflict', rfl, hfrozen', hundecided', hkept, -⟩ :=
        hwaits
      exact .inl ⟨hundisturbed, ⟨conflict', hfrozen', hundecided', hkept needed hsource⟩,
        { h.waits.1 with }, { h.waits.2 with }⟩
    · exact .inr ⟨_, _, h.choose hfrozen hundecided hsource hid hp⟩

lemma drainStep {act : DrainAct} (hstep : drainStep c db act = some db') :
    Contended conflictID needed node db' := by
  obtain ⟨conflict, hfrozen, hundecided, hsource⟩ := h.source
  cases act with
  | work act => exact h.executes (executes_reconcilerStep hstep)
  | snapshot k p | restart k | «begin» k =>
    obtain ⟨r, -, hstep⟩ := bind_eq_some_iff.mp hstep
    simp [Db.reconciliationWork, hfrozen.openConflict] at hstep
  | finish k answered =>
    obtain ⟨r, row, hr, hstate, rfl⟩ := of_finish hstep
    exact ⟨⟨{ h.linked with }, h.toUndisturbed.frozen, h.unresolved⟩,
      ⟨conflict, { hfrozen with }, { hundecided with }, hsource⟩,
      h.waits.1.put_reconciliation hr hstate, h.waits.2.put_reconciliation hr hstate⟩

lemma heartbeat {nodeID : NodeID} {row : Node} (hrow : db.nodes.get? nodeID = some row) :
    Contended conflictID needed node
      { db with nodes := db.nodes.put nodeID (followMode db nodeID row) } := by
  obtain ⟨conflict, hfrozen, hundecided, hsource⟩ := h.source
  exact ⟨⟨{ h.linked with }, h.toUndisturbed.frozen, h.unresolved⟩,
    ⟨conflict, { hfrozen with }, { hundecided with }, hsource⟩,
    h.waits.1.heartbeat hrow, h.waits.2.heartbeat hrow⟩

end Contended

section

variable (h : Blocked conflictID needed node db)
include h

lemma Blocked.returnStep {act : ReturnAct} (hstep : returnStep c db act = some db') :
    Blocked conflictID needed node db' := by
  obtain hcontended | ⟨id, operationID, hdeadlocked⟩ := h
  · cases act with
    | exit act => exact hcontended.exitStep hstep
    | drain act => exact .inl (hcontended.drainStep hstep)
    | heartbeat nodeID =>
      obtain ⟨row, hrow, rfl⟩ := map_eq_some_iff.mp hstep
      exact .inl (hcontended.heartbeat hrow)
  · exact .inr ⟨id, operationID, hdeadlocked.returnStep hstep⟩

lemma Blocked.waits : WaitsForConflict db node := by
  obtain hcontended | ⟨id, operationID, hdeadlocked⟩ := h
  · exact hcontended.waits.2
  · exact hdeadlocked.waits.2

lemma Blocked.not_canReturn : ¬ CanReturn c db node := by
  rintro ⟨acts, db', row, hrun, hrow, hmanaged⟩
  have hafter : Blocked conflictID needed node db' :=
    run_invariant (P := Blocked conflictID needed node)
      (fun _ _ _ hs hstep => hs.returnStep hstep) h hrun
  obtain ⟨⟨row', hrow', hmode⟩, -⟩ := hafter.waits
  obtain rfl := mem_unique hrow hrow'
  simp [Node.managed, hmode] at hmanaged

end

/-! ## The way back -/

lemma aside_of_exitStep (hstep : exitStep c db act = some db') : Aside db db' := by
  cases act with
  | work act => exact (executes_reconcilerStep (ite_none_right_eq_some.mp hstep).2).aside
  | store act =>
    obtain ⟨hact, hstep⟩ := ite_none_right_eq_some.mp hstep
    have haside : Ensures (act.transaction db) (Aside db) := by
      cases act <;> first | exact aside_of_kept rfl rfl | cases hact
    exact haside db' (step_eq_some.mp hstep)

lemma aside_of_run {acts : List ExitAct} (hrun : run (exitStep c) db acts = some db') :
    Aside db db' :=
  run_rel (R := Aside) (fun _ => ⟨rfl, rfl, rfl, rfl⟩) (fun _ _ _ h h' => h.trans h')
    (fun _ _ _ hstep => aside_of_exitStep hstep) hrun

structure KeptByConflict (db : Db) (node : NodeID) (reconciliationID : UUID)
    (r : IndependentReconciliation) : Prop where
  drains : ∃ row, db.nodes.get? node = some row ∧ row.controlMode = .independentDraining ∧
    row.activeIndependentSessions = 0
  row : db.reconciliations.get? reconciliationID = some r
  onNode : r.nodeID = node
  inConflict : r.state = .conflict
  only : ∀ k r', db.reconciliations.get? k = some r' → r'.nodeID = node → r'.state.blocks →
    k = reconciliationID

/-- The resolution of the conflict was created, and nothing is in its way but nodes that wait for
the conflict. -/
structure Disputed (c : RetryConfig) (db : Db) (conflictID : UUID) (conflict : ReplicaConflict)
    (id operationID : UUID) (w : Workflow) (operation : ResolutionOperation)
    (manifest : SnapshotManifest) : Prop where
  frozen : FrozenBy db conflictID conflict
  decided : Decided db conflictID conflict id operationID w operation manifest
  active : db.activeGeneration.isSome
  sole : ∀ k o, db.resolutions.get? k = some o → o.conflictID = conflictID → k = operationID
  base : ∃ row, db.nodes.get? operation.baseNodeID = some row ∧ row.role = .compute ∧
    (row.transferURL = "" && !c.relayAvailable) = false ∧
    ∀ n ∈ pendingSources operation, (db.nodes.get? n).all fun source => delivers source row
  needed : ∀ n, needs operation n → (db.nodes.get? n).any snapshotNodeReady ∨ WaitsForConflict db n

/-- The choice can be made, and nothing is in the way of the resolution but sources that wait for
the conflict. -/
structure Contested (c : RetryConfig) (db : Db) (conflictID : UUID) (conflict : ReplicaConflict) :
    Prop extends ChoiceOpen c db conflictID conflict where
  frozen : FrozenBy db conflictID conflict
  active : db.activeGeneration.isSome
  exit : exitOpen db conflictID conflict
  unheld : heldRestore db = false
  evidence : ∀ n, hasEvidence db conflict n → (db.nodes.get? n).any snapshotNodeReady ∨
    WaitsForConflict db n ∧ (conflict.sources.get? n).isSome

/-- The resolution of the conflict needs the node: as its base or to read its evidence, and before
the choice as one of the sources. -/
def awaits (db : Db) (conflictID : UUID) (conflict : ReplicaConflict) (node : NodeID) : Prop :=
  (∃ k o, db.resolutions.get? k = some o ∧ o.conflictID = conflictID ∧ needs o node) ∨
    (∀ k o, db.resolutions.get? k = some o → o.conflictID ≠ conflictID) ∧
      (conflict.sources.get? node).isSome

section

variable {w : Workflow} {operation : ResolutionOperation} {manifest : SnapshotManifest}
  {reconciliationID : UUID} {r : IndependentReconciliation}

lemma canReturn_of_resolved (hrow : db.reconciliations.get? reconciliationID = some r)
    (hnode : r.nodeID = node) (hconflict : r.state = .conflict)
    (honly : ∀ k r', db.reconciliations.get? k = some r' → r'.nodeID = node →
      r'.state.blocks → k = reconciliationID)
    (hdrains : ∃ row, db.nodes.get? node = some row ∧ row.controlMode = .independentDraining ∧
      row.activeIndependentSessions = 0) (huser : db.user.globalStatus = .active)
    (hsettled : db.conflictSettled) : CanReturn c db node := by
  obtain ⟨row, hnodeRow, hmode, hsessions⟩ := hdrains
  have hdrained : db.drained r := by simp [Db.drained, hnode, hnodeRow, hmode, hsessions]
  have hpeace : db.openConflict = false := by
    rw [Db.conflictSettled, Bool.and_eq_true, Bool.not_eq_true'] at hsettled
    exact hsettled.2
  have hwork : db.reconciliationWork r = some .complete := by
    simp [Db.reconciliationWork, listed, hconflict, hdrained, hpeace, huser, hsettled,
      Db.reconciliationAction]
  obtain ⟨reconciliations, hrun, hrows⟩ :=
    run_complete (c := c) hrow hwork hdrained (.inr ⟨.inl hconflict, hsettled⟩)
  have hfree : ({ db with reconciliations } : Db).returnBlocked node = false := by
    refine any_eq_false.mpr fun k r' hr' => ?_
    rw [hrows k] at hr'
    split at hr'
    · cases hr'
      simp [blocks]
    next hk =>
      by_contra hblocks
      simp only [Bool.not_eq_false, Bool.and_eq_true,
        decide_eq_true_eq] at hblocks
      exact hk (honly k r' hr' hblocks.1 hblocks.2)
  have hheartbeat : returnStep c { db with reconciliations } (.heartbeat node) = some { db with
      reconciliations
      nodes := db.nodes.put node (followMode { db with reconciliations } node row) } := by
    simp only [returnStep, hnodeRow, map_some]
  refine ⟨[.begin reconciliationID, .finish reconciliationID true].map .drain ++ [.heartbeat node],
    _, _, run_append_eq_some.mpr ⟨_, (run_map (fun _ _ => rfl) db _).trans hrun,
      run_cons_eq_some.mpr ⟨_, hheartbeat, run_nil _⟩⟩, get?_put_self .., ?_⟩
  simp [followMode, desiredControlMode, hmode, hsessions, hfree, Node.managed]

lemma Pursued.canReturn {acts : List ExitAct} {db₁ : Db}
    (hrun : run (exitStep c) db acts = some db₁) (hpursued : Pursued c db₁ conflictID)
    (hothers : OthersClosed conflictID db₁) (h : KeptByConflict db node reconciliationID r) :
    CanReturn c db node := by
  obtain ⟨act, db₂, operation', conflict', hstep, rfl, hrow, hresolved⟩ :=
    hpursued.executes (c := c)
  have haside : Aside db db₂ := (aside_of_run hrun).trans (aside_of_exitStep hstep)
  have hclosed : ∀ k other, db₂.conflicts.get? k = some other →
      other.state = .resolved ∨ other.state = .failed := by
    intro k other hother
    by_cases hk : k = operation'.conflictID
    · rw [hk, hresolved.row hrow] at hother
      exact .inl (some.inj hother ▸ rfl)
    · rw [hresolved.conflicts, get?_modify_of_ne hk] at hother
      exact hothers k other hother hk
  have hsettled : db₂.conflictSettled := by
    rw [Db.conflictSettled, Bool.and_eq_true, Bool.not_eq_true']
    refine ⟨any_eq_true.mpr ⟨_, _, hresolved.row hrow, rfl⟩,
      any_eq_false.mpr fun k other hother => ?_⟩
    rcases hclosed k other hother with hs | hs <;> simp [hs]
  have huser : db₂.user.globalStatus = .active := by rw [hresolved.user]
  have hreturn : CanReturn c db₂ node := by
    have hreconciliation : db₂.reconciliations.get? reconciliationID = some r := by
      rw [haside.reconciliations]
      exact h.row
    refine canReturn_of_resolved hreconciliation h.onNode h.inConflict ?_ ?_ huser hsettled
    · rw [haside.reconciliations]
      exact h.only
    · rw [haside.nodes]
      exact h.drains
  obtain ⟨acts', db₃, row, hrun', hmanaged⟩ := hreturn
  have hexit : run (returnStep c) db ((acts ++ [act]).map .exit) = some db₂ :=
    (run_map (fun _ _ => rfl) db _).trans
      (run_append_eq_some.mpr ⟨db₁, hrun, run_exit hstep⟩)
  exact ⟨_, db₃, row, run_append_eq_some.mpr ⟨db₂, hexit, hrun'⟩, hmanaged⟩

lemma KeptByConflict.waits (h : KeptByConflict db node reconciliationID r) :
    WaitsForConflict db node := by
  obtain ⟨row, hrow, hmode, -⟩ := h.drains
  exact ⟨⟨row, hrow, hmode⟩, reconciliationID, r, h.row, h.onNode, h.inConflict⟩

section

variable (h : Disputed c db conflictID conflict id operationID w operation manifest)
include h

lemma Disputed.served (hready : ∀ n, needs operation n → ¬ WaitsForConflict db n) :
    ResolutionServed c db id := by
  obtain ⟨base, hbase, hrole, hpath, hdelivers⟩ := h.base
  have hneeded : ∀ n, needs operation n → (db.nodes.get? n).any snapshotNodeReady := fun n hn =>
    (h.needed n hn).resolve_right (hready n hn)
  have hbaseReady := hneeded operation.baseNodeID (.inl rfl)
  rw [hbase, any_some] at hbaseReady
  refine ⟨operationID, operation, base, h.decided.submitted, hbase, hrole, hpath, hbaseReady,
    List.all_eq_true.mpr fun n hn => ?_⟩
  obtain ⟨source, hsource, hsourceReady⟩ := (Option.any_eq_true _ _).mp (hneeded n (.inr hn))
  have hdelivered := hdelivers n hn
  rw [hsource, Option.all_some] at hdelivered
  simp [hsource, hsourceReady, hdelivered]

lemma Disputed.deadlocked (hone : db.OneLive) (hneeds : needs operation needed)
    (hneeded : WaitsForConflict db needed) (hnode : WaitsForConflict db node) :
    Deadlocked conflictID id operationID needed node db := by
  refine ⟨⟨conflict, h.frozen, ?_⟩, ⟨operation, h.decided.submitted, h.decided.ofConflict, hneeds⟩,
    h.sole, ⟨w, h.decided.row, h.decided.type⟩, ?_, hneeded, hnode⟩
  · rcases h.decided.stage with ⟨-, -, hs, -⟩ | ⟨-, hs, -, -⟩
    · exact .inl hs
    · exact .inr hs
  · intro k v hv hlive
    rcases h.decided.stage with ⟨hs, -⟩ | ⟨-, -, -, hidle⟩
    · have hlive' : w.state.live := by rcases hs with hs | hs | hs | hs <;> rw [hs] <;> rfl
      exact hone k id v w hv h.decided.row hlive hlive'
    · simp [any_eq_false.mp hidle k v hv] at hlive

end

end

/-- The evidence of a source of conflict `90` is taken. -/
def sampleEvidence (node : NodeID) : List Act :=
  [.claimConflictEvidence 90 node, .completeConflictEvidence 90 node]

/-- The user chooses node `1` as the base of the resolution of conflict `90`. -/
def sampleChoice (source : NodeID) : CreateConflictResolutionParams where
  operationID := 92
  requestDigest := 0
  workflowID := 93
  conflictID := 90
  resultSnapshotID := 94
  expectedConflictVersion := 4
  baseNodeID := 1
  transfers := [source]
  now := 140

/-- The user has data on nodes `1` and `4` and writes on node `2` in independent mode, where there
is an account without a replica row; the resolution reads node `4`. -/
def returningRun : List Act :=
  [ .environment (.node 4 sampleCompute), .completeAccountImportClaim 4 "user" 20 ] ++
  frozenByWriter ++ sampleEvidence 1 ++ sampleEvidence 4 ++
  [ .createConflictResolution (sampleChoice 4) ]

def returningDb : Db := (run step sampleDb returningRun).getD sampleDb

def returningConflict : ReplicaConflict := (returningDb.conflicts.get? 90).get (by decide +kernel)

def returningWorkflow : Workflow := (returningDb.workflows.get? 93).get (by decide +kernel)

def returningOperation : ResolutionOperation :=
  (returningDb.resolutions.get? 92).get (by decide +kernel)

def returningManifest : SnapshotManifest := (returningDb.manifests.get? 94).get (by decide +kernel)

def returningReconciliation : IndependentReconciliation :=
  (returningDb.reconciliations.get? 70).get (by decide +kernel)

lemma returningDb_needed {n : NodeID} (hn : needs returningOperation n) :
    (returningDb.nodes.get? n).any snapshotNodeReady := by
  have hpending : pendingSources returningOperation = [4] := by decide +kernel
  rcases hn with rfl | hn
  · decide +kernel
  · rw [hpending, List.mem_singleton] at hn
    subst hn
    decide +kernel

lemma returningDb_disputed : Disputed ⟨5, 1, by decide, false⟩ returningDb 90
    returningConflict 93 92
    returningWorkflow returningOperation returningManifest where
  frozen := by decide +kernel
  decided :=
    { submitted := rfl, ofConflict := by decide +kernel
      row := (some_get _).symm, type := by decide +kernel
      sources := by decide +kernel
      result := rfl, ofWorkflow := by decide +kernel
      stage := .inl ⟨.inl (by decide +kernel), fun hwaits => absurd hwaits (by decide +kernel),
        by decide +kernel, by decide +kernel⟩ }
  active := by decide +kernel
  sole := by decide +kernel
  base := ⟨sampleCompute, by decide +kernel, rfl, rfl, by decide +kernel⟩
  needed := fun _ hn => .inl (returningDb_needed hn)

lemma returningDb_kept : KeptByConflict returningDb 2 70 returningReconciliation where
  drains := ⟨drainingCompute, by decide +kernel⟩
  row := (some_get _).symm
  onNode := by decide +kernel
  inConflict := by decide +kernel
  only := by decide +kernel

/-- The user has data on nodes `1` and `2` and writes on node `2` in independent mode; the
resolution reads node `2`. -/
def deadlockedRun : List Act :=
  [ .completeAccountImportClaim 2 "user" 20, .environment (.node 2 drainingCompute),
    .recordIndependentSyncFact 70 2 "user" 71 1,
    .reconcileProtectionStates 130 90 ] ++
  sampleEvidence 1 ++ sampleEvidence 2 ++
  [ .createConflictResolution (sampleChoice 2) ]

def deadlockedDb : Db := (run step sampleDb deadlockedRun).getD sampleDb

lemma deadlockedDb_deadlocked : Deadlocked 90 93 92 2 2 deadlockedDb where
  frozen := by
    obtain ⟨conflict, -, hfrozen, hstate⟩ : ∃ conflict ∈ deadlockedDb.conflicts.get? 90,
        FrozenBy deadlockedDb 90 conflict ∧ conflict.state = .resolving := by decide +kernel
    exact ⟨conflict, hfrozen, .inl hstate⟩
  submitted := by
    obtain ⟨⟨k, operation⟩, hoperation, rfl, hconflict, hpending⟩ :
        ∃ o ∈ deadlockedDb.resolutionOf 93,
          o.1 = 92 ∧ o.2.conflictID = 90 ∧ pendingSources o.2 = [2] := by decide +kernel
    exact ⟨operation, hoperation, hconflict, .inr (hpending ▸ List.mem_singleton_self 2)⟩
  sole := by decide +kernel
  row := by
    have hrow : (deadlockedDb.workflows.get? 93).map (·.workflowType) =
        some .conflictResolution := by decide +kernel
    exact map_eq_some_iff.mp hrow
  only := by decide +kernel
  waits := by
    obtain ⟨r, hr, hvalues⟩ : ∃ r ∈ deadlockedDb.reconciliations.get? 70,
        r.nodeID = 2 ∧ r.state = .conflict := by decide +kernel
    have hwaits : WaitsForConflict deadlockedDb 2 :=
      ⟨⟨drainingCompute, by decide +kernel⟩, 70, r, hr, hvalues⟩
    exact ⟨hwaits, hwaits⟩

end StControl.Controller
