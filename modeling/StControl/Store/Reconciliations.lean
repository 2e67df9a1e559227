import StControl.Store.Writes

/-!
# Reconciliations of independent writes

A node that was cut off comes back in draining mode.  It may not become managed again before every
reconciliation of one of its users is over, that is, succeeded or superseded
(`desiredControlMode`).  The controller works on the open reconciliations: it takes a snapshot of
the node's data, restarts it when the snapshot has failed, and tells the node that the user is
settled when it has succeeded (`reconciliationWork` and the transactions below).

The columns that only delay the next attempt are left out.  A reconciliation in conflict is settled
by a conflict of the user that was resolved after the reconciliation was first observed; the times
are not in the rows, so that any resolved conflict counts here.
-/

namespace StControl.Store

open Transaction Option Table

variable {r : IndependentReconciliation}

/-! ## The mode that the controller wants -/

/-- `NOT IN ('succeeded','superseded')`: the reconciliation keeps its node from becoming managed. -/
def ReconciliationState.blocks : ReconciliationState → Bool
  | .succeeded | .superseded => false
  | _ => true

section

variable (db : Db)

/-- `durablePending`: some reconciliation keeps the node from becoming managed. -/
def Db.returnBlocked (nodeID : NodeID) : Bool :=
  db.reconciliations.any fun _ r => r.nodeID = nodeID && r.state.blocks

/-- `desired` of `ReconcileNodeControlMode`, for a node that reports its mode, its independent
sessions and the number of users that it has still to synchronise. -/
def desiredControlMode (nodeID : NodeID) (sessions pendingSyncs : ℕ) :
    ControlMode → ControlMode
  | .controllerUnreachable => .managed
  | .independent => .independentDraining
  | .independentDraining =>
    if sessions = 0 ∧ pendingSyncs = 0 ∧ db.returnBlocked nodeID = false then .managed
    else .independentDraining
  | .managed => .managed

/-! ## The work of the controller -/

def Db.drained (r : IndependentReconciliation) : Bool :=
  (db.nodes.get? r.nodeID).any fun n =>
    n.controlMode = .independentDraining && n.activeIndependentSessions = 0

def Db.conflictSettled : Bool :=
  db.conflicts.any (fun _ c => c.state = .resolved) && !db.openConflict

def Db.snapshotState (r : IndependentReconciliation) : Option WorkflowState :=
  (r.workflowID.bind db.workflows.get?).map (·.state)

inductive ReconciliationAction
  | snapshot | restart | complete | execute
  deriving DecidableEq

def Db.reconciliationAction (r : IndependentReconciliation) : ReconciliationAction :=
  match r.state with
  | .pending | .retryWait => .snapshot
  | .snapshotting =>
    match db.snapshotState r with
    | some .failed | some .cancelled => .restart
    | some .succeeded => .complete
    | _ => .execute
  | _ => .complete

/-- The clause of `ListIndependentReconciliationWork` on the state. -/
def ReconciliationState.listed : ReconciliationState → Bool
  | .pending | .snapshotting | .completing | .completionRetry | .conflict | .retryWait => true
  | .unmapped | .succeeded | .superseded | .failed => false

/-- `ListIndependentReconciliationWork`, for one row: the action, if the row is listed. -/
def Db.reconciliationWork (r : IndependentReconciliation) : Option ReconciliationAction :=
  if r.state.listed && db.drained r && !db.openConflict &&
      (r.state ≠ .conflict || (db.user.globalStatus = .active && db.conflictSettled)) then
    some (db.reconciliationAction r)
  else none

end

/-- `BeginIndependentReconciliationCompletion`. -/
def beginReconciliationCompletion (id marker : UUID) (db : Db) : Except StoreError Db := do
  let r ← need (db.reconciliations.get? id) .independentReconciliationConflict
  require (r.marker = marker ∧ db.drained r) .independentReconciliationConflict
  require (((r.state = .snapshotting ∨ r.state = .completing ∨ r.state = .completionRetry) ∧
      db.snapshotState r = some .succeeded) ∨
    ((r.state = .conflict ∨ r.state = .completing ∨ r.state = .completionRetry) ∧
      db.conflictSettled)) .independentReconciliationConflict
  return { db with reconciliations := db.reconciliations.put id { r with state := .completing } }

/-- `CompleteIndependentReconciliation`. -/
def completeReconciliation (id marker : UUID) (db : Db) : Except StoreError Db := do
  let r ← need (db.reconciliations.get? id) .independentReconciliationConflict
  require (r.marker = marker ∧ r.state = .completing) .independentReconciliationConflict
  return { db with reconciliations := db.reconciliations.put id { r with state := .succeeded } }

/-- `RetryIndependentReconciliationCompletion`: the tenth failure is the last. -/
def retryReconciliationCompletion (id marker : UUID) (db : Db) : Except StoreError Db := do
  let r ← need (db.reconciliations.get? id) .independentReconciliationConflict
  require (r.marker = marker ∧ r.state = .completing) .independentReconciliationConflict
  return { db with
    reconciliations := db.reconciliations.put id { r with
      state := if 9 ≤ r.attempt then .failed else .completionRetry
      attempt := r.attempt + 1 } }

/-- `RestartIndependentReconciliationSnapshot`: the fifth failure is the last. -/
def restartReconciliationSnapshot (id marker : UUID) (db : Db) : Except StoreError Db := do
  let r ← need (db.reconciliations.get? id) .independentReconciliationConflict
  require (r.marker = marker ∧ r.state = .snapshotting ∧
    (db.snapshotState r = some .failed ∨ db.snapshotState r = some .cancelled))
    .independentReconciliationConflict
  return { db with
    reconciliations := db.reconciliations.put id { r with
      state := if 4 ≤ r.attempt then .failed else .retryWait
      workflowID := none, attempt := r.attempt + 1 } }

/-! ## What the transactions write -/

section

variable {db db' : Db} {id marker : UUID}

def WritesOpen (id : UUID) (db db' : Db) : Prop :=
  ∃ r row, db.reconciliations.get? id = some r ∧ r.state.isOpen ∧
    db' = { db with reconciliations := db.reconciliations.put id row }

lemma beginReconciliationCompletion_writes :
    Ensures (beginReconciliationCompletion id marker db) (WritesOpen id db) := by
  simp only [beginReconciliationCompletion, ensures_steps]
  rintro r hr - hready
  refine ⟨r, _, hr, ?_, rfl⟩
  rcases hready with ⟨hs | hs | hs, -⟩ | ⟨hs | hs | hs, -⟩ <;> rw [hs] <;> rfl

lemma restartReconciliationSnapshot_writes :
    Ensures (restartReconciliationSnapshot id marker db) (WritesOpen id db) := by
  simp only [restartReconciliationSnapshot, ensures_steps]
  rintro r hr ⟨-, hs, -⟩
  exact ⟨r, _, hr, by rw [hs]; rfl, rfl⟩

lemma WritesOpen.closed {id' : UUID} (h : WritesOpen id' db db')
    (hr : db.reconciliations.get? id = some r) (hclosed : r.state.isOpen = false) :
    db'.reconciliations.get? id = some r := by
  obtain ⟨r', row, hr', hopen, rfl⟩ := h
  have hne : id ≠ id' := by
    rintro rfl
    obtain rfl := mem_unique hr hr'
    simp [hopen] at hclosed
  exact (get?_put_of_ne hne).trans hr

def Act.setsReconciliation : Act → Bool
  | .environment (.reconciliation ..) => true
  | _ => false

lemma reconciliations_kept {act : Act} (hact : act.writesReconciliations = false) :
    Ensures (act.transaction db) (fun db' => db'.reconciliations = db.reconciliations) :=
  tables_kept.mono fun _ hkept => hkept.reconciliations hact

lemma of_admitIndependentSnapshot {p : CreateSnapshotWorkflowParams}
    {reconciliationID marker : UUID} {generation : ℤ}
    (h : admitIndependentSnapshot p reconciliationID marker generation db = .ok ()) :
    ∃ r, db.reconciliations.get? reconciliationID = some r ∧
      (r.state = .pending ∨ r.state = .retryWait) ∧ r.controllerGeneration = generation := by
  obtain ⟨-, h⟩ := of_require h
  obtain ⟨r, hr, h⟩ := of_need h
  obtain ⟨node, -, h⟩ := of_need h
  obtain ⟨hstate, h⟩ := of_require h
  obtain ⟨⟨-, -, -, hgeneration⟩, -⟩ := of_require h
  exact ⟨r, hr, hstate, hgeneration⟩

lemma settleIndependentConflicts_closed (hr : db.reconciliations.get? id = some r)
    (hclosed : r.state.isOpen = false) :
    (settleIndependentConflicts db).reconciliations.get? id = some r := by
  simp only [settleIndependentConflicts]
  split
  · rw [get?_update, hr, map_some, hclosed, if_neg Bool.false_ne_true]
  · exact hr

lemma closed_kept {act : Act} (hact : act.setsReconciliation = false)
    (hr : db.reconciliations.get? id = some r) (hclosed : r.state.isOpen = false) :
    Ensures (act.transaction db) fun db' => db'.reconciliations.get? id = some r := by
  by_cases hwrites : act.writesReconciliations = false
  · exact (reconciliations_kept hwrites).mono fun db' hkept => hkept ▸ hr
  cases act with
  | createSnapshotWorkflow p =>
    refine createSnapshotWorkflow_commit.mono ?_
    rintro db' ⟨generation, accounts, hcommit, rfl⟩
    have hadmitted := hcommit.admitted
    simp only [insertSnapshotWorkflow]
    split
    next reconciliationID marker jobID hrequest =>
      -- only an open reconciliation is given a snapshot
      rw [admitSnapshot, hrequest] at hadmitted
      obtain ⟨r', hr', hstate, -⟩ := of_admitIndependentSnapshot hadmitted
      have hne : id ≠ reconciliationID := by
        rintro rfl
        obtain rfl := mem_unique hr hr'
        rcases hstate with hs | hs <;> rw [hs] at hclosed <;> cases hclosed
      exact (get?_modify_of_ne hne).trans hr
    · exact hr
  | recordIndependentSyncFact reconciliationID nodeID handle marker generation =>
    simp only [Act.transaction, recordIndependentSyncFact, ensures_steps]
    intro account _ _ hfresh
    refine settleIndependentConflicts_closed ?_ hclosed
    have hkept : (db.reconciliations.update (fun _ r => r.nodeID = nodeID &&
        r.localHandle = handle && r.marker ≠ marker && r.state.isOpen)
        fun r => { r with state := .superseded }).get? id = some r := by
      rw [get?_update, hr, map_some, hclosed, Bool.and_false, if_neg Bool.false_ne_true]
    have hne : id ≠ reconciliationID := by
      rintro rfl
      simp [hfresh] at hr
    split
    · exact hkept
    · exact (get?_put_of_ne hne).trans hkept
  | settleIndependentConflicts =>
    exact ensures_ok.mpr (settleIndependentConflicts_closed hr hclosed)
  | environment w =>
    cases w with
    | reconciliation => cases hact
    | _ => exact absurd rfl hwrites
  | _ => exact absurd rfl hwrites

end

end StControl.Store
