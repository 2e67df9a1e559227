import StControl.Controller.Draining

/-!
# Retirements and reconciliations after a promotion

A promotion starts a new controller generation in the middle of whatever is going on.  Snapshots and
conflict resolutions of the old generation are adopted by the new one.  A node retirement is not: it
keeps the generation it was opened under, and the claim with which every round of its execution
starts (`executeNodeRetirement`) compares it with the active one.  A reconciliation of independent
writes keeps its generation too, and the creation of its next snapshot compares the two.
-/

namespace StControl.Controller

open Store Run Transaction Option Table

variable {c : RetryConfig} {db db' db'' : Db} {id : UUID} {node : NodeID}
/-! ## One round of a retirement -/

/-- `UserBusy` of `GetNextNodeRetirementItem`. -/
def retirementUserBusy (l : ActivityLease) (now : Time) : Bool :=
  l.state ≠ .ended && (now < l.leaseExpiresAt || 0 < l.inFlightReads || 0 < l.inFlightWrites ||
    l.state = .quiescing || l.state = .drained || l.state = .independent || l.state = .conflict)

/-- `GetNextNodeRetirementItem`: the item of this user that is not over. -/
def nextRetirementItem (db : Db) (retirementID : UUID) : Option (UUID × RetirementItem) :=
  db.retirementItems.find? fun _ i => i.retirementID = retirementID && !i.state.terminal

structure RetirementRound where
  /-- The next item is one of another user, which leaves the operation in this state. -/
  other : Option RetirementState
  (othersUnfinished othersDepend : Bool)
  /-- The first available target in the order of capacity, if there is one. -/
  target : Option NodeID
  relay : Bool
  (workflowID operationID snapshotID capabilityID : UUID)
  capabilityHash : Digest
  jobID : ℤ
  ttl : Duration
  now : Time

section

variable (round : RetirementRound)

/-- `createNodeRetirementSnapshotWorkflow`. -/
def RetirementRound.params (itemID : UUID) (source target : NodeID) (kind : CopyKind) :
    CreateSnapshotWorkflowParams where
  workflowID := round.workflowID
  operationID := round.operationID
  snapshotID := round.snapshotID
  capabilityID := round.capabilityID
  capabilityHash := round.capabilityHash
  capabilityExpires := round.now + round.ttl
  sourceNodeID := source
  targetNodeID := target
  destinationKind := kind
  relay := round.relay
  request := .retirement itemID round.jobID
  now := round.now

def nodeCanServeRetirementSnapshot (n : Node) : Bool :=
  n.role = .compute && n.connectivityState = .online && n.compatibilityState = .compatible &&
    n.managed && (n.operationalState = .draining || n.operationalState = .retiring)

/-- `selectNodeRetirementSnapshotPath`: source, target and kind of the copy, or nothing. -/
def selectNodeRetirementSnapshotPath (item : RetirementItem) (db : Db) :
    Option (NodeID × NodeID × CopyKind) :=
  match item.itemKind, round.target with
  | .authoritativeHome, some target =>
    if (db.nodes.get? item.sourceNodeID).any nodeCanServeRetirementSnapshot then
      some (item.sourceNodeID, target, .hotStandby)
    else none
  | .archiveReplica, some target => do
    let home ← db.user.homeNodeID
    let node ← db.nodes.get? home
    if node.serving && node.managed && node.role = .compute then some (home, target, .archive)
    else none
  | _, _ => none

def completeRetirementItem (complete : Act) (itemID : UUID) (db : Db) : Db :=
  match complete.transaction db with
  | .ok db' => db'
  | .error .snapshotUserActive => perform db (.retryNodeRetirementItem itemID .waitingOffline false)
  | .error .retirementConflict => perform db (.retryNodeRetirementItem itemID .blocked false)
  | .error _ => db

def reconcileNodeRetirementSnapshot (itemID : UUID) (item : RetirementItem) (db : Db) : Db :=
  match item.workflowID with
  | some workflowID =>
    match (db.workflows.get? workflowID).map Workflow.state with
    | some .succeeded =>
      completeRetirementItem
        (if item.itemKind = .authoritativeHome then
          .completeNodeRetirementHomeMigration itemID workflowID round.now
        else .completeNodeRetirementReplicaItem itemID) itemID db
    | some .failed | some .cancelled => perform db (.retryNodeRetirementItem itemID .retryWait true)
    | _ => (deferNodeRetirement item.retirementID db).toOption.getD db
  | none =>
    match selectNodeRetirementSnapshotPath round item db with
    | none => perform db (.retryNodeRetirementItem itemID .blocked false)
    | some (source, target, kind) =>
      match step db (.createSnapshotWorkflow (round.params itemID source target kind)) with
      | some db' => db'
      | none => perform db (.retryNodeRetirementItem itemID .retryWait false)

def workOnRetirementItem (itemID : UUID) (item : RetirementItem) (db : Db) : Db :=
  if db.lease.any fun l => retirementUserBusy l round.now then
    perform db (.retryNodeRetirementItem itemID .waitingOffline false)
  else
    match item.itemKind with
    | .authoritativeHome | .archiveReplica => reconcileNodeRetirementSnapshot round itemID item db
    | .redundantReplica | .accountMetadata =>
      match (Act.completeNodeRetirementReplicaItem itemID).transaction db with
      | .ok db' => db'
      | .error .retirementConflict => perform db (.retryNodeRetirementItem itemID .blocked false)
      | .error _ => db

end

/-- `executeNodeRetirement`: nothing happens if the claim is refused. -/
def executeNodeRetirement (retirementID : UUID) (round : RetirementRound) (db : Db) : Option Db :=
  (step db (.claimNodeRetirement retirementID)).map fun db =>
    match round.other, nextRetirementItem db retirementID with
    | some state, _ =>
      { db with retirements := db.retirements.modify retirementID fun r => { r with state } }
    | none, none =>
      (finalizeNodeRetirement retirementID round.othersUnfinished round.othersDepend round.now
        db).toOption.getD db
    | none, some (itemID, item) => workOnRetirementItem round itemID item db

inductive ControllerAct
  | drain (act : DrainAct)
  | retirement (retirementID : UUID) (round : RetirementRound)

def controllerStep (c : RetryConfig) (db : Db) : ControllerAct → Option Db
  | .drain act => drainStep c db act
  | .retirement retirementID round => executeNodeRetirement retirementID round db

def CanFinish (c : RetryConfig) (db : Db) (id : UUID) : Prop :=
  ∃ acts db' operation, run (controllerStep c) db acts = some db' ∧
    db'.retirements.get? id = some operation ∧ operation.state.isOpen = false

/-! ## What a round leaves alone -/

section

variable {retirementID itemID : UUID} {item : RetirementItem} {round : RetirementRound}

structure OthersKept (retirementID : UUID) (db db' : Db) : Prop where
  generation : db'.activeGeneration = db.activeGeneration
  retirements : ∀ id, id ≠ retirementID → db'.retirements.get? id = db.retirements.get? id

/-- The same, the reconciliations are the same too, and snapshots that have ended stay as they
are. -/
structure Elsewhere (retirementID : UUID) (db db' : Db) : Prop
    extends OthersKept retirementID db db' where
  reconciliations : db'.reconciliations = db.reconciliations
  linked : db.WellLinked → db'.WellLinked
  lost : db.WellLinked → ∀ r, SnapshotLost db r → SnapshotLost db' r

lemma Elsewhere.refl (retirementID : UUID) (db : Db) : Elsewhere retirementID db db :=
  ⟨⟨rfl, fun _ _ => rfl⟩, rfl, id, fun _ _ => id⟩

lemma Elsewhere.trans (h : Elsewhere retirementID db db') (h' : Elsewhere retirementID db' db'') :
    Elsewhere retirementID db db'' where
  generation := h'.generation.trans h.generation
  reconciliations := h'.reconciliations.trans h.reconciliations
  retirements := fun id hne => (h'.retirements id hne).trans (h.retirements id hne)
  linked := fun hlinked => h'.linked (h.linked hlinked)
  lost := fun hlinked r hr => h'.lost (h.linked hlinked) r (h.lost hlinked r hr)

lemma elsewhere_put (operation : NodeRetirement) (nodes : Table NodeID Node) :
    Elsewhere retirementID db
      { db with nodes, retirements := db.retirements.put retirementID operation } where
  generation := rfl
  reconciliations := rfl
  retirements := fun _ hne => get?_put_of_ne hne
  linked := fun h => { h with }
  lost := fun _ _ h => h

lemma Elsewhere.of_step {act : Act} (hstep : step db act = some db')
    (hact : act.writesReconciliations = false)
    (h : Ensures (act.transaction db) (OthersKept retirementID db)) :
    Elsewhere retirementID db db' where
  toOthersKept := h db' (step_eq_some.mp hstep)
  reconciliations := reconciliations_kept hact db' (step_eq_some.mp hstep)
  linked := (step_committed hstep).wellLinked
  lost := fun hlinked _ hlost => hlost.after_step hlinked hstep

lemma Elsewhere.perform {act : Act} (h : ∀ db', step db act = some db' →
    Elsewhere retirementID db db') : Elsewhere retirementID db (perform db act) := by
  rw [Controller.perform]
  cases hstep : step db act with
  | none => exact .refl retirementID db
  | some db' => exact h db' hstep

lemma elsewhere_claim (hstep : step db (.claimNodeRetirement retirementID) = some db') :
    Elsewhere retirementID db db' := by
  refine .of_step hstep rfl ?_
  simp only [Act.transaction, claimNodeRetirement, ensures_steps]
  intro operation _ _ _ node _ _
  exact ⟨rfl, fun id hne => get?_put_of_ne hne⟩

lemma elsewhere_retry {state : RetirementItemState} {clearWorkflow : Bool}
    (hitem : db.retirementItems.get? itemID = some item) (hof : item.retirementID = retirementID) :
    Elsewhere retirementID db
      (perform db (.retryNodeRetirementItem itemID state clearWorkflow)) := by
  refine .perform fun db' hstep => .of_step hstep rfl ?_
  simp only [Act.transaction, retryNodeRetirementItem, ensures_steps]
  intro _ item' hitem' operation _ _ _
  obtain rfl := mem_unique hitem hitem'
  subst hof
  exact ⟨rfl, fun id hne => get?_put_of_ne hne⟩

lemma elsewhere_migration {workflowID : UUID} {now : Time}
    (hstep : step db (.completeNodeRetirementHomeMigration itemID workflowID now) = some db') :
    Elsewhere retirementID db db' := by
  refine .of_step hstep rfl (completeNodeRetirementHomeMigration_commit.mono ?_)
  rintro db' (⟨rfl, -⟩ | ⟨_, _, _, _, -, rfl⟩) <;> exact ⟨rfl, fun _ _ => rfl⟩

lemma elsewhere_replicaItem (hstep : step db (.completeNodeRetirementReplicaItem itemID) =
    some db') :
    Elsewhere retirementID db db' := by
  refine .of_step hstep rfl ?_
  simp only [Act.transaction, completeNodeRetirementReplicaItem, ensures_steps, ensures_ite]
  intro item' _ operation _ _ _
  refine ⟨fun _ _ => ⟨rfl, fun _ _ => rfl⟩, fun _ => ?_⟩
  cases item'.itemKind <;> simp only [ensures_steps, ensures_error]
  all_goals exact fun _ => ⟨rfl, fun _ _ => rfl⟩

lemma elsewhere_create {source target : NodeID} {kind : CopyKind}
    (hstep : step db (.createSnapshotWorkflow (round.params itemID source target kind)) =
      some db') :
    Elsewhere retirementID db db' := by
  obtain ⟨generation, accounts, -, rfl⟩ :=
    createSnapshotWorkflow_commit db' (step_eq_some.mp hstep)
  exact
    { generation := rfl, reconciliations := rfl, retirements := fun _ _ => rfl
      linked := (step_committed hstep).wellLinked
      lost := fun hlinked _ hlost => hlost.after_step hlinked hstep }

lemma Elsewhere.getD {transaction : Except StoreError Db}
    (h : Ensures transaction (Elsewhere retirementID db)) :
    Elsewhere retirementID db (transaction.toOption.getD db) := by
  cases htransaction : transaction with
  | error => exact .refl retirementID db
  | ok db' => exact h db' htransaction

lemma elsewhere_defer :
    Elsewhere retirementID db ((deferNodeRetirement retirementID db).toOption.getD db) := by
  refine .getD ?_
  simp only [deferNodeRetirement, ensures_steps]
  intro operation _ _ _
  exact elsewhere_put _ db.nodes

lemma elsewhere_finalize {othersUnfinished othersDepend : Bool} {now : Time} :
    Elsewhere retirementID db ((finalizeNodeRetirement retirementID othersUnfinished othersDepend
      now db).toOption.getD db) := by
  refine .getD ?_
  simp only [finalizeNodeRetirement, ensures_steps, ensures_ite, revokeNodeAccess, pure_bind]
  intro operation _ node _
  refine ⟨fun _ => .refl retirementID db, fun _ _ _ => ⟨fun _ => elsewhere_put _ db.nodes, ?_⟩⟩
  intro _ _
  exact
    { generation := rfl, reconciliations := rfl, retirements := fun _ hne => get?_put_of_ne hne
      linked := fun h => { h with }
      lost := fun _ _ h => h }

section

variable (hitem : db.retirementItems.get? itemID = some item)
  (hof : item.retirementID = retirementID)
include hitem hof

lemma elsewhere_complete {complete : Act}
    (h : ∀ db', step db complete = some db' → Elsewhere retirementID db db') :
    Elsewhere retirementID db (completeRetirementItem complete itemID db) := by
  rw [completeRetirementItem]
  split
  next db' hok => exact h db' (step_eq_some.mpr hok)
  · exact elsewhere_retry hitem hof
  · exact elsewhere_retry hitem hof
  · exact .refl retirementID db

lemma elsewhere_snapshot :
    Elsewhere retirementID db (reconcileNodeRetirementSnapshot round itemID item db) := by
  rw [reconcileNodeRetirementSnapshot]
  split
  next workflowID _ =>
    split
    · refine elsewhere_complete hitem hof fun db' hstep => ?_
      split at hstep
      · exact elsewhere_migration hstep
      · exact elsewhere_replicaItem hstep
    · exact elsewhere_retry hitem hof
    · exact elsewhere_retry hitem hof
    · exact hof ▸ elsewhere_defer
  · split
    · exact elsewhere_retry hitem hof
    next source target kind _ =>
      split
      next db' hstep => exact elsewhere_create hstep
      · exact elsewhere_retry hitem hof

lemma elsewhere_work : Elsewhere retirementID db (workOnRetirementItem round itemID item db) := by
  rw [workOnRetirementItem]
  split
  · exact elsewhere_retry hitem hof
  split
  · exact elsewhere_snapshot hitem hof
  · exact elsewhere_snapshot hitem hof
  all_goals
    split
    next db' hok => exact elsewhere_replicaItem (step_eq_some.mpr hok)
    · exact elsewhere_retry hitem hof
    · exact .refl retirementID db

end

section

variable (h : executeNodeRetirement retirementID round db = some db')
include h

lemma elsewhere_of_execute : Elsewhere retirementID db db' := by
  obtain ⟨claimed, hclaim, rfl⟩ := map_eq_some_iff.mp h
  refine (elsewhere_claim hclaim).trans ?_
  split
  next state _ _ _ =>
    exact
      { generation := rfl, reconciliations := rfl, retirements := fun _ hne => get?_modify_of_ne hne
        linked := fun h => { h with }
        lost := fun _ _ h => h }
  · exact elsewhere_finalize
  next itemID item _ hnext =>
    obtain ⟨hitem, hof⟩ := of_find?_eq_some hnext
    simp only [Bool.and_eq_true, Bool.not_eq_true', decide_eq_true_eq] at hof
    exact elsewhere_work hitem hof.1

lemma current_of_execute :
    ∃ operation, db.retirements.get? retirementID = some operation ∧
      db.activeGeneration = some operation.controllerGeneration := by
  obtain ⟨claimed, hclaim, -⟩ := map_eq_some_iff.mp h
  have hclaim := step_eq_some.mp hclaim
  obtain ⟨operation, hoperation, hclaim⟩ := of_need hclaim
  obtain ⟨-, hclaim⟩ := of_require hclaim
  obtain ⟨hcurrent, -⟩ := of_require hclaim
  exact ⟨operation, hoperation, hcurrent⟩

end

end

/-! ## Records of an earlier generation -/

lemma retirements_of_drainStep {act : DrainAct} (hstep : drainStep c db act = some db') :
    db'.retirements = db.retirements ∧ db'.activeGeneration = db.activeGeneration := by
  rcases drainStep_cases hstep with hexecutes | ⟨id', r, p, rfl⟩ | ⟨id', r, row, -, -, rfl⟩
  · exact ⟨hexecutes.aside.retirements, hexecutes.aside.generation⟩
  · rw [createReconciliationSnapshot]
    split
    next db' hcreate =>
      obtain ⟨generation, accounts, -, rfl⟩ :=
        createSnapshotWorkflow_commit db' (step_eq_some.mp hcreate)
      exact ⟨rfl, rfl⟩
    · exact ⟨rfl, rfl⟩
  · exact ⟨rfl, rfl⟩

def StaleRetirement (id : UUID) (db : Db) : Prop :=
  ∃ operation, db.retirements.get? id = some operation ∧ operation.state.isOpen ∧
    db.activeGeneration ≠ some operation.controllerGeneration

variable {act : ControllerAct}

lemma StaleRetirement.after_step (h : StaleRetirement id db)
    (hstep : controllerStep c db act = some db') : StaleRetirement id db' := by
  obtain ⟨operation, hoperation, hopen, hstale⟩ := h
  cases act with
  | drain act =>
    obtain ⟨hretirements, hgeneration⟩ := retirements_of_drainStep hstep
    exact ⟨operation, by rw [hretirements, hoperation], hopen, by rwa [hgeneration]⟩
  | retirement retirementID round =>
    have helsewhere := elsewhere_of_execute hstep
    have hne : id ≠ retirementID := by
      rintro rfl
      obtain ⟨operation', hoperation', hcurrent⟩ := current_of_execute hstep
      obtain rfl := mem_unique hoperation hoperation'
      exact hstale hcurrent
    exact ⟨operation, by rw [helsewhere.retirements id hne, hoperation], hopen,
      by rwa [helsewhere.generation]⟩

lemma StaleRetirement.not_canFinish (h : StaleRetirement id db) : ¬ CanFinish c db id := by
  rintro ⟨acts, db', operation, hrun, hoperation, hclosed⟩
  have hstale : StaleRetirement id db' := run_invariant (P := StaleRetirement id)
    (fun _ _ _ hs hstep => hs.after_step hstep) h hrun
  obtain ⟨operation', hoperation', hopen, -⟩ := hstale
  obtain rfl := mem_unique hoperation hoperation'
  simp [hopen] at hclosed

/-- By steps of the controller, retirements included, the reconciliation can come to a state in
which it no longer keeps its node from becoming managed. -/
def Settles (c : RetryConfig) (db : Db) (id : UUID) : Prop :=
  ∃ acts db' r, run (controllerStep c) db acts = some db' ∧
    db'.reconciliations.get? id = some r ∧ r.state.blocks = false

lemma CanSettle.settles (h : CanSettle c db id) : Settles c db id := by
  obtain ⟨acts, db', r, hrun, hr⟩ := h
  exact ⟨acts.map .drain, db', r, (run_map (fun _ _ => rfl) db acts).trans hrun, hr⟩

lemma Stuck.controllerStep (h : Stuck id node db) (hstep : controllerStep c db act = some db') :
    Stuck id node db' := by
  cases act with
  | drain act => exact h.drainStep hstep
  | retirement retirementID round =>
    have helsewhere := elsewhere_of_execute hstep
    obtain ⟨r, hr, hnode, hstuck⟩ := h.row
    refine ⟨helsewhere.linked h.linked, r, by rw [helsewhere.reconciliations, hr], hnode, ?_⟩
    unfold StuckRow
    rw [helsewhere.generation]
    exact hstuck.imp_right (Or.imp_right fun ⟨hs, hlost, hlast⟩ =>
      ⟨hs, helsewhere.lost h.linked r hlost, hlast⟩)

lemma Stuck.not_settles (h : Stuck id node db) : ¬ Settles c db id := by
  rintro ⟨acts, db', r, hrun, hr, hfree⟩
  have hstuck : Stuck id node db' := run_invariant (P := Stuck id node)
    (fun _ _ _ hs hstep => hs.controllerStep hstep) h hrun
  obtain ⟨r', hr', -, hrow⟩ := hstuck.row
  obtain rfl := mem_unique hr hr'
  simp [hrow.blocks] at hfree

def pastSnapshot (db : Db) (r : IndependentReconciliation) : Bool :=
  match r.state with
  | .succeeded | .superseded | .completing | .completionRetry => true
  | .snapshotting => (db.snapshotState r).any fun s => s = .succeeded || s.live
  | _ => false

lemma settleable_of_stale {r : IndependentReconciliation}
    (hstale : db.activeGeneration ≠ some r.controllerGeneration) :
    settleable db r = pastSnapshot db r := by
  unfold settleable pastSnapshot
  split <;> simp_all

/-- **What a promotion leaves of the records of an earlier generation.**  In every state of the
tables, the controller can bring a retirement that was not opened under the active generation to an
end if and only if it has ended; and it can settle a reconciliation that was not recorded under the
active generation, with nothing in its way, if and only if the reconciliation needs no further
snapshot. -/
theorem stale_records_can_end {db₀ : Db} {acts : List Act} (hfresh : Fresh db₀)
    (hrun : run step db₀ acts = some db) :
    (∀ id operation, db.retirements.get? id = some operation →
      db.activeGeneration ≠ some operation.controllerGeneration →
        (CanFinish c db id ↔ operation.state.isOpen = false)) ∧
    ∀ id r, db.reconciliations.get? id = some r →
      db.activeGeneration ≠ some r.controllerGeneration → Clear c db r →
        (Settles c db id ↔ pastSnapshot db r = true) := by
  constructor
  · intro id operation hoperation hstale
    refine ⟨fun hcan => ?_, fun hclosed => ⟨[], db, operation, run_nil _, hoperation, hclosed⟩⟩
    by_contra hopen
    have hopen' : operation.state.isOpen := by simpa using hopen
    exact StaleRetirement.not_canFinish ⟨operation, hoperation, hopen', hstale⟩ hcan
  · intro id r hr hstale hclear
    rw [← settleable_of_stale hstale]
    refine ⟨fun hcan => ?_, fun h => (canSettle_of_settleable hr hclear h).settles⟩
    by_contra hnot
    have hrow := stuckRow_of_not_settleable hclear (Bool.eq_false_iff.mpr hnot)
    exact Stuck.not_settles ⟨run_wellLinked hfresh.wellLinked hrun, r, hr, rfl, hrow⟩ hcan

/-- Node `1` reports writes in independent mode, and the retirement of node `2` is opened, which
nobody lives on.  Then the controller is promoted, and all nodes come back. -/
def sampleInterrupted : List Act :=
  sampleReport ++
    [ .startNodeRetirement 90 91 2 false, .promoteControllerEpoch 2000,
      .environment (.node 1 { drainingCompute with controllerGeneration := 2 }),
      .environment (.node 2
        { sampleCompute with operationalState := .draining, controllerGeneration := 2 }),
      .environment (.node 3 { sampleStorage with controllerGeneration := 2 }) ]

def interruptedDb : Db := (run step sampleDb sampleInterrupted).getD sampleDb

lemma run_sampleInterrupted : run step sampleDb sampleInterrupted = some interruptedDb := rfl

lemma interruptedDb_clear : Clear ⟨5, 1, by decide, false⟩ interruptedDb sampleReconciliation where
  mapped := by decide
  undisputed := by decide
  positive := by decide
  source := ⟨{ drainingCompute with controllerGeneration := 2 }, by decide +kernel⟩
  peace := by decide +kernel
  running := fun workflowID w hw hlive => by
    have hidle : interruptedDb.liveWorkflow = false := by decide +kernel
    simp [Table.any_eq_false.mp hidle workflowID w hw] at hlive
  active := by decide +kernel
  usable := fun _ => ⟨sampleReconciliationSnapshot 80, 80, by decide +kernel, nofun⟩
  unassigned := fun _ => rfl
  linked := nofun
  completion := nofun

theorem stale_records_of_interruptedDb : ¬ CanFinish ⟨5, 1, by decide, false⟩ interruptedDb 90 ∧
      ¬ Settles ⟨5, 1, by decide, false⟩ interruptedDb 70 := by
  obtain ⟨hretirements, hreconciliations⟩ := stale_records_can_end (c := ⟨5, 1, by decide, false⟩)
    sampleDb_registered.toFresh run_sampleInterrupted
  have hoperation : interruptedDb.retirements.get? 90 =
    some { nodeID := 2, state := .verifying, controllerGeneration := 1 } := by decide +kernel
  have hr : interruptedDb.reconciliations.get? 70 = some sampleReconciliation := by decide +kernel
  have hpromoted : interruptedDb.activeGeneration = some 2 := by decide +kernel
  constructor
  · rw [hretirements 90 _ hoperation (by rw [hpromoted]; decide)]
    decide
  · rw [hreconciliations 70 _ hr (by rw [hpromoted]; decide) interruptedDb_clear]
    decide

/-- A promotion that leaves a retirement and a reconciliation behind: all nodes are online, and no
steps of the controller ever retire node `2` or let node `1` become managed again.  Without the
promotion one round would have retired node `2`. -/
theorem records_stranded_by_promotion : run step sampleDb sampleInterrupted = some interruptedDb ∧
      (interruptedDb.nodes.all fun _ n => n.connectivityState = .online &&
        n.compatibilityState = .compatible && n.controllerGeneration = 2) = true ∧
      ∀ acts db, run (controllerStep ⟨5, 1, by decide, false⟩) interruptedDb acts = some db →
        (db.retirements.get? 90).any (fun operation => operation.state.isOpen) = true ∧
        desiredControlMode db 1 0 0 .independentDraining = .independentDraining := by
  refine ⟨rfl, by decide +kernel, fun acts db hrun => ?_⟩
  have hretirement : StaleRetirement 90 interruptedDb :=
    ⟨{ nodeID := 2, state := .verifying, controllerGeneration := 1 }, by decide +kernel⟩
  have hreconciliation : Stuck 70 1 interruptedDb :=
    ⟨run_wellLinked sampleDb_registered.toFresh.wellLinked run_sampleInterrupted,
      sampleReconciliation, by decide +kernel, rfl, .inr (.inl ⟨.inl rfl, by decide +kernel⟩)⟩
  have hretirement' : StaleRetirement 90 db := run_invariant (P := StaleRetirement 90)
    (fun _ _ _ hs hstep => hs.after_step hstep) hretirement hrun
  have hreconciliation' : Stuck 70 1 db := run_invariant (P := Stuck 70 1)
    (fun _ _ _ hs hstep => hs.controllerStep hstep) hreconciliation hrun
  constructor
  · obtain ⟨operation, hoperation, hopen, -⟩ := hretirement'
    rwa [hoperation]
  · simp [desiredControlMode, hreconciliation'.returnBlocked]

/-- The round that would have retired node `2` if there had been no promotion. -/
example : ((run step sampleDb (sampleInterrupted.take 3)).bind
    (executeNodeRetirement 90 { other := none, othersUnfinished := false, othersDepend := false
                                target := none, relay := false, workflowID := 0, operationID := 0
                                snapshotID := 0, capabilityID := 0, capabilityHash := 0, jobID := 0
                                ttl := 1, now := 1500 })).map
    (fun db => ((db.retirements.get? 90).map (·.state),
      (db.nodes.get? 2).map (·.operationalState))) =
      some (some .decommissioned, some .decommissioned) := by decide +kernel

end StControl.Controller
