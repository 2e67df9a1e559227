import StControl.Controller.SnapshotSuccess
import StControl.Store.Reconciliations

/-!
# Draining a node

A node that has come back from independent mode drains until every reconciliation of its users is
over.  `drainStep` is what the controller does about it: the reconciliation loop of this module next
to the reconcilers of the workflows.

A reconciliation gets five snapshots and ten completions; after the last failure its state is
`failed`.  The controller lists no failed reconciliation, no later report of the node supersedes
one, and it keeps the node from becoming managed, so that the node drains for ever.  A
reconciliation whose next snapshot would be taken under a later generation than the one it was
recorded under is stuck in the same way, because the creation of the snapshot compares the two.
`reconciliation_can_settle` says that there is no other way to be stuck when nothing is in the way,
and `drained_node_blocked` is a run after which a node can never become managed.
-/

namespace StControl.Controller

open Store Run Transaction Option Table ReconciliationState Db

variable {c : RetryConfig} {db db' : Db} {id : UUID} {node : NodeID}
  {r : IndependentReconciliation}

/-! ## The reconciliation loop -/

structure ReconciliationSnapshot where
  (workflowID operationID snapshotID capabilityID : UUID)
  capabilityHash : Digest
  targetNodeID : NodeID
  relay : Bool
  jobID : ℤ
  now : Time

def ReconciliationSnapshot.params (p : ReconciliationSnapshot) (c : RetryConfig) (id : UUID)
    (r : IndependentReconciliation) : CreateSnapshotWorkflowParams where
  workflowID := p.workflowID
  operationID := p.operationID
  snapshotID := p.snapshotID
  capabilityID := p.capabilityID
  capabilityHash := p.capabilityHash
  capabilityExpires := p.now + 28800 * c.second
  sourceNodeID := r.nodeID
  targetNodeID := p.targetNodeID
  destinationKind := .archive
  relay := p.relay
  request := .independent id r.marker p.jobID
  now := p.now

def ReconciliationSnapshot.job (p : ReconciliationSnapshot) (r : IndependentReconciliation)
    (status : BackupJobStatus) : BackupJob where
  srcNodeID := r.nodeID
  dstNodeID := p.targetNodeID
  status := status
  workflowID := none

/-- `createIndependentReconciliationSnapshot`: the job fails if the workflow is refused. -/
def createReconciliationSnapshot (c : RetryConfig) (id : UUID) (r : IndependentReconciliation)
    (p : ReconciliationSnapshot) (db : Db) : Db :=
  let created := perform db (.environment (.job p.jobID (p.job r .pending)))
  match step created (.createSnapshotWorkflow (p.params c id r)) with
  | some db' => db'
  | none => perform created (.environment (.job p.jobID (p.job r .failed)))

inductive DrainAct
  | work (act : ReconcilerAct)
  | snapshot (id : UUID) (p : ReconciliationSnapshot)
  | restart (id : UUID)
  | begin (id : UUID)
  /-- The node has answered the command to settle the user, or it has not. -/
  | finish (id : UUID) (answered : Bool)

/-- One step: the reconcilers of the workflows, or the action that is due for a reconciliation. -/
def drainStep (c : RetryConfig) (db : Db) : DrainAct → Option Db
  | .work act => reconcilerStep c db act
  | .snapshot id p => do
    let r ← db.reconciliations.get? id
    if db.reconciliationWork r = some .snapshot ∧ db.jobs.get? p.jobID = none then
      some (createReconciliationSnapshot c id r p db)
    else none
  | .restart id => do
    let r ← db.reconciliations.get? id
    if db.reconciliationWork r = some .restart then
      (restartReconciliationSnapshot id r.marker db).toOption
    else none
  | .begin id => do
    let r ← db.reconciliations.get? id
    if db.reconciliationWork r = some .complete then
      (beginReconciliationCompletion id r.marker db).toOption
    else none
  | .finish id answered => do
    let r ← db.reconciliations.get? id
    if answered then (completeReconciliation id r.marker db).toOption
    else (retryReconciliationCompletion id r.marker db).toOption

/-- By steps of the controller the reconciliation can come to a state in which it no longer keeps
its node from becoming managed. -/
def CanSettle (c : RetryConfig) (db : Db) (id : UUID) : Prop :=
  ∃ acts db' r, run (drainStep c) db acts = some db' ∧ db'.reconciliations.get? id = some r ∧
    r.state.blocks = false

/-! ## What the reconcilers of the workflows leave alone -/

structure Aside (db db' : Db) : Prop where
  reconciliations : db'.reconciliations = db.reconciliations
  generation : db'.activeGeneration = db.activeGeneration
  nodes : db'.nodes = db.nodes
  retirements : db'.retirements = db.retirements

lemma aside_of_kept {act : Act} (hreconciliations : act.writesReconciliations = false)
    (hnodes : act.writesNodes = false) : Ensures (act.transaction db) (Aside db) := by
  refine tables_kept.mono fun db' hkept => ?_
  obtain ⟨hnodes, hretirements, hgeneration⟩ := hkept.nodes hnodes
  exact ⟨hkept.reconciliations hreconciliations, hgeneration, hnodes, hretirements⟩

lemma aside_of_inExecution {act : Act} (hact : Act.inExecution act) :
    Ensures (act.transaction db) (Aside db) := by
  cases act with
  | environment w => cases w <;> first | exact aside_of_kept rfl rfl | cases hact
  | _ => first | exact aside_of_kept rfl rfl | cases hact

lemma Aside.trans {db'' : Db} (h : Aside db db') (h' : Aside db' db'') : Aside db db'' :=
  ⟨h'.reconciliations.trans h.reconciliations, h'.generation.trans h.generation,
    h'.nodes.trans h.nodes, h'.retirements.trans h.retirements⟩

lemma Executes.aside (h : Executes db db') : Aside db db' := by
  obtain ⟨acts, hacts, hrun⟩ := h
  refine run_invariant_of_meets (P := Aside db) (fun s a s' hs ha hstep => ?_) ⟨rfl, rfl, rfl, rfl⟩
    (meets_of_forall hacts db) hrun
  exact hs.trans (aside_of_inExecution ha s' (step_eq_some.mp hstep))

/-! ## Settling a reconciliation -/

lemma CanSettle.of_step {act : DrainAct} (hstep : drainStep c db act = some db')
    (h : CanSettle c db' id) : CanSettle c db id := by
  obtain ⟨acts, db'', r, hrun, hr⟩ := h
  exact ⟨act :: acts, db'', r, run_cons_eq_some.mpr ⟨db', hstep, hrun⟩, hr⟩

section

variable (hr : db.reconciliations.get? id = some r)
include hr

lemma drainStep_finish (hstate : r.state = .completing) :
    drainStep c db (.finish id true) = some { db with
      reconciliations := db.reconciliations.put id { r with state := .succeeded } } := by
  have hcomplete : completeReconciliation id r.marker db = .ok { db with
      reconciliations := db.reconciliations.put id { r with state := .succeeded } } := by
    exact ok_need hr (ok_require ⟨rfl, hstate⟩ rfl)
  simp only [drainStep, hr, bind_eq_bind, bind_some, if_true, hcomplete]
  rfl

lemma canSettle_of_completing (hstate : r.state = .completing) : CanSettle c db id :=
  .of_step (drainStep_finish hr hstate)
    ⟨[], _, { r with state := .succeeded }, run_nil _, get?_put_self .., rfl⟩

lemma run_complete (hwork : db.reconciliationWork r = some .complete) (hdrained : db.drained r)
    (hready : ((r.state = .snapshotting ∨ r.state = .completing ∨ r.state = .completionRetry) ∧
        db.snapshotState r = some .succeeded) ∨
      ((r.state = .conflict ∨ r.state = .completing ∨ r.state = .completionRetry) ∧
        db.conflictSettled)) :
    ∃ reconciliations, run (drainStep c) db [.begin id, .finish id true] =
        some { db with reconciliations } ∧ ∀ k, reconciliations.get? k =
        if k = id then some { r with state := .succeeded } else db.reconciliations.get? k := by
  have hbegin : beginReconciliationCompletion id r.marker db = .ok { db with
      reconciliations := db.reconciliations.put id { r with state := .completing } } := by
    exact ok_need hr (ok_require ⟨rfl, hdrained⟩ (ok_require hready rfl))
  have hstep : drainStep c db (.begin id) = some { db with
      reconciliations := db.reconciliations.put id { r with state := .completing } } := by
    simp only [drainStep, hr, bind_eq_bind, bind_some, hwork, if_true, hbegin]
    rfl
  have hcompleting : ({ db with
      reconciliations := db.reconciliations.put id { r with state := .completing } } :
        Db).reconciliations.get? id = some { r with state := .completing } :=
    get?_put_self ..
  have hfinish := drainStep_finish (c := c) hcompleting rfl
  refine ⟨_, run_cons_eq_some.mpr ⟨_, hstep, run_cons_eq_some.mpr ⟨_, hfinish, run_nil _⟩⟩,
    fun k => ?_⟩
  rw [get?_put, get?_put]
  split <;> rfl

lemma canSettle_of_complete (hdrained : db.drained r) (hpeace : db.openConflict = false)
    (hstate : (r.state = .snapshotting ∧ db.snapshotState r = some .succeeded) ∨
      (r.state = .completionRetry ∧
        (db.snapshotState r = some .succeeded ∨ db.conflictSettled))) : CanSettle c db id := by
  have hwork : db.reconciliationWork r = some .complete := by
    rcases hstate with ⟨hs, hdone⟩ | ⟨hs, -⟩
    · simp [reconciliationWork, listed, hs, hdrained, hpeace, reconciliationAction, hdone]
    · simp [reconciliationWork, listed, hs, hdrained, hpeace, reconciliationAction]
  obtain ⟨reconciliations, hrun, hrows⟩ := run_complete (c := c) hr hwork hdrained (by
    rcases hstate with ⟨hs, hdone⟩ | ⟨hs, hdone | hsettled⟩
    · exact .inl ⟨.inl hs, hdone⟩
    · exact .inl ⟨.inr (.inr hs), hdone⟩
    · exact .inr ⟨.inr (.inr hs), hsettled⟩)
  exact ⟨_, _, _, hrun, (hrows id).trans (if_pos rfl), rfl⟩

end

lemma canSettle_of_published {workflowID : UUID} (hr : db.reconciliations.get? id = some r)
    (hstate : r.state = .snapshotting) (hid : r.workflowID = some workflowID)
    (hdrained : db.drained r) (hpeace : db.openConflict = false)
    (h : ∃ acts db', run (reconcilerStep c) db acts = some db' ∧ Published db workflowID db') :
    CanSettle c db id := by
  obtain ⟨acts, db', hrun, hconflicts, w', hw', hsucceeded⟩ := h
  have haside : Aside db db' := by
    refine run_invariant (P := Aside db) (fun s a s' hs hstep => ?_) ⟨rfl, rfl, rfl, rfl⟩ hrun
    exact hs.trans (executes_reconcilerStep hstep).aside
  obtain ⟨acts', db'', r'', hrun', hr''⟩ := canSettle_of_complete (c := c)
    ((congrArg (·.get? id) haside.reconciliations).trans hr)
    (by unfold Db.drained at hdrained ⊢; rwa [haside.nodes])
    (by unfold Db.openConflict at hpeace ⊢; rwa [hconflicts])
    (.inl ⟨hstate, by simp [Db.snapshotState, hid, hw', hsucceeded]⟩)
  refine ⟨acts.map .work ++ acts', db'', r'', run_append_eq_some.mpr ⟨db', ?_, hrun'⟩, hr''⟩
  exact (run_map (fun _ _ => rfl) db acts).trans hrun

/-- A target and identities with which the snapshot of a reconciliation can be created. -/
@[mk_iff]
structure Usable (db : Db) (r : IndependentReconciliation) (p : ReconciliationSnapshot)
    (cleanupID : UUID) : Prop where
  target : ∃ n, db.nodes.get? p.targetNodeID = some n ∧
    n.takesSnapshot .archive p.relay ∧ n.managed
  positive : 0 < p.targetNodeID
  ne : r.nodeID ≠ p.targetNodeID
  cleanups : db.activeCleanup r.nodeID = false ∧ db.activeCleanup p.targetNodeID = false
  lease : db.lease.all (fun l => !l.refusesIndependentSnapshot r.nodeID p.now)
  workflow : db.workflows.get? p.workflowID = none
  operation : db.workflows.all (fun _ w => w.operationID ≠ p.operationID)
  snapshot : db.manifests.get? p.snapshotID = none
  manifests : ∀ k m, db.manifests.get? k = some m → m.workflowID ≠ p.workflowID
  capability : db.capabilities.get? p.capabilityID = none
  capabilities : ∀ k t, db.capabilities.get? k = some t → t.workflowID ≠ p.workflowID ∧
    t.tokenHash ≠ p.capabilityHash
  job : db.jobs.get? p.jobID = none
  jobs : ∀ k j, db.jobs.get? k = some j → j.workflowID ≠ some p.workflowID
  cleanup : db.cleanups.get? cleanupID = none

instance {p : ReconciliationSnapshot} {cleanupID : UUID} : Decidable (Usable db r p cleanupID) :=
  decidable_of_iff _ (usable_iff ..).symm

/-- Nothing is in the way of the reconciliation: its node drains and is ready, no conflict of the
user is open and no workflow but the snapshot of the reconciliation itself, which can then still be
published.  Otherwise there is a storage node to take a snapshot.  The row is linked as the
controller links it. -/
structure Clear (c : RetryConfig) (db : Db) (r : IndependentReconciliation) : Prop where
  mapped : r.state ≠ .unmapped
  undisputed : r.state ≠ .conflict
  positive : 0 < r.nodeID
  source : ∃ n, db.nodes.get? r.nodeID = some n ∧
    snapshotSourceReady n .independentReconciliation ∧ n.activeIndependentSessions = 0
  peace : db.openConflict = false
  running : ∀ workflowID w, db.workflows.get? workflowID = some w → w.state.live →
    r.state = .snapshotting ∧ r.workflowID = some workflowID ∧
      ∃ cleanupID, Publishable c db workflowID w cleanupID
  active : db.activeGeneration.isSome
  usable : db.liveWorkflow = false → ∃ p cleanupID, Usable db r p cleanupID ∧
    (p.relay → c.relayAvailable)
  unassigned : r.state = .pending ∨ r.state = .retryWait → r.workflowID = none
  linked : r.state = .snapshotting → ∃ workflowID w, r.workflowID = some workflowID ∧
    db.workflows.get? workflowID = some w ∧ w.workflowType = .snapshot
  completion : r.state = .completionRetry →
    db.snapshotState r = some .succeeded ∨ db.conflictSettled

lemma Clear.drained (h : Clear c db r) : db.drained r := by
  obtain ⟨n, hn, hready, hsessions⟩ := h.source
  simp only [snapshotSourceReady, Bool.and_eq_true,
    decide_eq_true_eq] at hready
  simp [Db.drained, hn, hready, hsessions]

lemma Clear.idle (h : Clear c db r)
    (hended : r.state = .snapshotting → ∃ s, db.snapshotState r = some s ∧ s.live = false) :
    db.liveWorkflow = false := by
  refine Table.any_eq_false.mpr fun workflowID w hw => Bool.eq_false_iff.mpr fun hlive => ?_
  obtain ⟨hstate, hid, -⟩ := h.running workflowID w hw hlive
  obtain ⟨s, hs, hended⟩ := hended hstate
  simp only [Db.snapshotState, hid, hw, bind_some, map_some, some.injEq] at hs
  simp [hs, hended] at hlive

/-! ## A new snapshot -/

section

variable {p : ReconciliationSnapshot} {cleanupID : UUID} {generation : ℤ}

def createdSnapshot (c : RetryConfig) (id : UUID) (r : IndependentReconciliation)
    (p : ReconciliationSnapshot) (generation : ℤ) (db : Db) : Db :=
  insertSnapshotWorkflow (p.params c id r) generation db.accounts
    { db with jobs := db.jobs.put p.jobID (p.job r .pending) }

open ReconciliationSnapshot

lemma createReconciliationSnapshot_eq (hr : db.reconciliations.get? id = some r)
    (hclear : Clear c db r) (hidle : db.liveWorkflow = false)
    (hstate : r.state = .pending ∨ r.state = .retryWait)
    (hactive : db.activeGeneration = some generation)
    (hcurrent : r.controllerGeneration = generation) (husable : Usable db r p cleanupID) :
    createReconciliationSnapshot c id r p db = createdSnapshot c id r p generation db := by
  obtain ⟨source, hsource, hready, hsessions⟩ := hclear.source
  obtain ⟨target, htarget, htakes, -⟩ := husable.target
  simp only [snapshotSourceReady, Bool.and_eq_true,
    decide_eq_true_eq] at hready
  have hexpires : p.now < p.now + 28800 * c.second :=
    Int.lt_add_of_pos_right _ (Int.mul_pos (by decide) c.second_pos)
  have hstep : step { db with jobs := db.jobs.put p.jobID (p.job r .pending) }
      (.createSnapshotWorkflow (p.params c id r)) =
        some (createdSnapshot c id r p generation db) := by
    rw [step_eq_some, Act.transaction, createSnapshotWorkflow]
    refine ok_require ⟨hclear.positive, husable.positive, husable.ne, .inl rfl, hexpires⟩
      (ok_need hactive (bind_eq_ok.mpr ⟨(), ?_, ok_require husable.cleanups
        (ok_require husable.lease (ok_require ?_ ?_))⟩))
    · refine ok_require rfl (ok_need hr (ok_need hsource (ok_require hstate
        (ok_require ⟨hclear.unassigned hstate, rfl, rfl, hcurrent⟩
          (ok_require ⟨hready.1.2, hsessions⟩ (ok_need htarget ?_))))))
      exact require_eq_ok.mpr htakes
    · simp only [acceptsWorkflow, Bool.and_eq_true, Bool.not_eq_true']
      exact ⟨⟨isNone_iff_eq_none.mpr husable.workflow, husable.operation⟩, hidle⟩
    · have hnew : db.acceptsTransfer p.snapshotID p.capabilityID p.capabilityHash := by
        rw [acceptsTransfer, husable.snapshot, husable.capability]
        simp only [isNone_none, Bool.true_and]
        exact Table.all_eq_true.mpr fun k t ht => by simpa using (husable.capabilities k t ht).2
      have hfits : (((db.jobs.put p.jobID (p.job r .pending)).get? p.jobID).any fun j =>
          j.srcNodeID = r.nodeID && j.dstNodeID = p.targetNodeID) := by
        simp [job]
      exact bind_eq_ok.mpr ⟨db.accounts, rfl, ok_require hnew (ok_require hfits rfl)⟩
  rw [createReconciliationSnapshot]
  have hjob : perform db (.environment (.job p.jobID (p.job r .pending))) =
      { db with jobs := db.jobs.put p.jobID (p.job r .pending) } := rfl
  simp only [hjob, hstep]

def createdWorkflow (r : IndependentReconciliation) (p : ReconciliationSnapshot) (generation : ℤ)
    (db : Db) : Workflow :=
  newWorkflow p.operationID .snapshot .independentReconciliation r.nodeID p.targetNodeID
    db.leaseEpoch generation p.relay

lemma createdSnapshot_completable (husable : Usable db r p cleanupID) :
    Completable (createdSnapshot c id r p generation db) p.workflowID
      (createdWorkflow r p generation db) cleanupID where
  building := by
    intro snapshotID m hm hlinked
    have hm' : (db.manifests.put p.snapshotID (newManifest p.workflowID r.nodeID
      db.leaseEpoch)).get? snapshotID = some m := hm
    obtain ⟨-, rfl⟩ | hm' := of_get?_put hm'
    · exact rfl
    · exact absurd hlinked (husable.manifests snapshotID m hm')
  job := by
    have hjobs : ∀ jobID, (createdSnapshot c id r p generation db).jobs.get? jobID =
        if jobID = p.jobID then some { p.job r .pending with workflowID := some p.workflowID }
        else db.jobs.get? jobID := by
      intro jobID
      have hlinked : (createdSnapshot c id r p generation db).jobs =
          (db.jobs.put p.jobID (p.job r .pending)).modify p.jobID
            fun j => { j with workflowID := some p.workflowID } := rfl
      rw [hlinked]
      split
      next heq => rw [heq, get?_modify_self, get?_put_self, map_some]
      next hne => rw [get?_modify_of_ne hne, get?_put_of_ne hne]
    refine ⟨p.jobID, ⟨_, by rw [hjobs, if_pos rfl], rfl⟩, fun jobID job hjob hlinked => ?_⟩
    rw [hjobs] at hjob
    split at hjob
    next heq => exact heq
    · exact absurd hlinked (husable.jobs jobID job hjob)
  replica := by
    have hreplica : (announceReplica db.replicas p.targetNodeID .archive).get? p.targetNodeID ≠
        none := by
      rw [announceReplica, Table.upsert, get?_put_self]
      exact nofun
    exact isSome_iff_ne_none.mpr hreplica
  target := husable.positive
  cleanups := by
    refine Table.all_eq_true.mpr fun k t ht => ?_
    have hidle := Table.any_eq_false.mp husable.cleanups.2 k t ht
    have htarget : (createdWorkflow r p generation db).targetNodeID = p.targetNodeID := rfl
    rw [htarget]
    by_cases hnode : t.nodeID = p.targetNodeID
    · by_cases hrunning : t.state = .running
      · simp [hnode, hrunning] at hidle
      · simp [hrunning]
    · simp [hnode]
  fresh := husable.cleanup

lemma createdSnapshot_capable (f : FreshCapability) (husable : Usable db r p cleanupID) :
    Capable c (createdSnapshot c id r p generation db) p.workflowID .scheduled p.now f := by
  have hfound : (preparedCapability (createdSnapshot c id r p generation db)
      p.workflowID).isSome := by
    rw [preparedCapability, isSome_map]
    exact isSome_find?.mpr ⟨p.capabilityID, _, get?_put_self .., by
      simp [newCapability, params]⟩
  obtain ⟨cap, hcap⟩ := isSome_iff_exists.mp hfound
  refine .inl ⟨cap, hcap, fun _ => ?_⟩
  obtain ⟨⟨key, cap'⟩, hcap', rfl⟩ := map_eq_some_iff.mp hcap
  obtain ⟨hrow, hprepared⟩ := of_find?_eq_some hcap'
  simp only [Bool.and_eq_true, decide_eq_true_eq] at hprepared
  -- the identity of the workflow is new, so that its capability is the new one
  have hrow' : (db.capabilities.put p.capabilityID (newCapability p.workflowID p.snapshotID
    p.capabilityHash generation (p.now + 28800 * c.second))).get? key = some cap' := hrow
  obtain ⟨-, rfl⟩ | hrow' := of_get?_put hrow'
  · exact Int.add_lt_add_left (Int.mul_lt_mul_of_pos_right (by decide) c.second_pos) _
  · exact absurd hprepared.1 (husable.capabilities key cap' hrow').1

lemma createdSnapshot_publishable (c : RetryConfig) (id : UUID) (hclear : Clear c db r)
    (hactive : db.activeGeneration = some generation) (husable : Usable db r p cleanupID)
    (hrelay : p.relay → c.relayAvailable) :
    Publishable c (createdSnapshot c id r p generation db) p.workflowID
      (createdWorkflow r p generation db) cleanupID where
  row := get?_put_self ..
  live := rfl
  type := rfl
  active := hclear.active
  served :=
    { manifest := by
        rw [workflowSnapshot, isSome_map]
        exact isSome_find?.mpr ⟨p.snapshotID, _, get?_put_self .., by simp [newManifest, params]⟩
      source := by
        obtain ⟨source, hsource, hready, -⟩ := hclear.source
        exact ⟨source, hsource, hready⟩
      target := by
        obtain ⟨target, htarget, htakes, hmanaged⟩ := husable.target
        simp only [Node.takesSnapshot, if_true, Bool.and_eq_true, Bool.or_eq_true,
          decide_eq_true_eq] at htakes
        refine ⟨target, htarget, ?_, ?_, fun hcompute => ?_⟩
        · simp [snapshotNodeReady, htakes.1.1.1.2, hmanaged]
        · cases hmode : p.relay with
          | true => simp [RetryConfig.dataPath, createdWorkflow, newWorkflow, hmode, hrelay hmode]
          | false => simpa [RetryConfig.dataPath, createdWorkflow, newWorkflow, hmode]
            using htakes.1.2
        · simp [htakes.1.1.1.1] at hcompute }
  resumable := nofun
  completable := createdSnapshot_completable husable
  recovery := by
    intro hreset
    simp [resetDue, isCurrent, createdSnapshot, insertSnapshotWorkflow, createdWorkflow,
      newWorkflow, hactive] at hreset
  capability := fun _ => ⟨p.now, ⟨0, 0⟩, nofun, createdSnapshot_capable _ husable⟩

lemma canSettle_of_pending (hr : db.reconciliations.get? id = some r) (hclear : Clear c db r)
    (hstate : r.state = .pending ∨ r.state = .retryWait)
    (hcurrent : db.activeGeneration = some r.controllerGeneration) : CanSettle c db id := by
  have hidle : db.liveWorkflow = false := hclear.idle fun hsnapshotting => by
    rcases hstate with hs | hs <;> simp [hs] at hsnapshotting
  obtain ⟨p, cleanupID, husable, hrelay⟩ := hclear.usable hidle
  have hwork : db.reconciliationWork r = some .snapshot := by
    rcases hstate with hs | hs <;> simp [Db.reconciliationWork, ReconciliationState.listed, hs,
      hclear.drained, hclear.peace, Db.reconciliationAction]
  have hcreate : drainStep c db (.snapshot id p) =
      some (createdSnapshot c id r p r.controllerGeneration db) := by
    simp only [drainStep, hr, bind_eq_bind, bind_some, hwork, husable.job, and_self, if_true,
      createReconciliationSnapshot_eq hr hclear hidle hstate hcurrent rfl husable]
  have hr' : (createdSnapshot c id r p r.controllerGeneration db).reconciliations.get? id = some {
      r with state := .snapshotting, workflowID := some p.workflowID } := by
    have hmodified : (createdSnapshot c id r p r.controllerGeneration db).reconciliations =
      db.reconciliations.modify id fun r => { r with
        state := .snapshotting, workflowID := some p.workflowID } := rfl
    rw [hmodified, get?_modify_self, hr, map_some]
  exact .of_step hcreate (canSettle_of_published hr' rfl rfl hclear.drained hclear.peace
    (createdSnapshot_publishable c id hclear hcurrent husable hrelay).succeeds)

end

lemma canSettle_of_lost (hr : db.reconciliations.get? id = some r) (hclear : Clear c db r)
    (hstate : r.state = .snapshotting)
    (hlost : db.snapshotState r = some .failed ∨ db.snapshotState r = some .cancelled)
    (hattempt : ¬ 4 ≤ r.attempt) (hcurrent : db.activeGeneration = some r.controllerGeneration) :
    CanSettle c db id := by
  have hwork : db.reconciliationWork r = some .restart := by
    rcases hlost with hlost | hlost <;> simp [reconciliationWork, listed, hstate, hclear.drained,
      hclear.peace, reconciliationAction, hlost]
  have hidle : db.liveWorkflow = false := hclear.idle fun _ =>
    hlost.elim (fun hs => ⟨_, hs, rfl⟩) fun hs => ⟨_, hs, rfl⟩
  let r₁ : IndependentReconciliation :=
    { r with state := .retryWait, workflowID := none, attempt := r.attempt + 1 }
  let db₁ : Db := { db with reconciliations := db.reconciliations.put id r₁ }
  have hrestart : restartReconciliationSnapshot id r.marker db = .ok db₁ := by
    refine ok_need hr (ok_require ⟨rfl, hstate, hlost⟩ ?_)
    rw [if_neg hattempt]
    rfl
  have hstep : drainStep c db (.restart id) = some db₁ := by
    simp only [drainStep, hr, bind_eq_bind, bind_some, hwork, if_true, hrestart]
    rfl
  have hclear₁ : Clear c db₁ r₁ :=
    { hclear with
      mapped := nofun, undisputed := nofun
      running := fun workflowID w hw hlive => by
        simp [Table.any_eq_false.mp hidle workflowID w hw] at hlive
      usable := fun _ => by
        obtain ⟨p, cleanupID, husable, hrelay⟩ := hclear.usable hidle
        exact ⟨p, cleanupID, { husable with }, hrelay⟩
      unassigned := fun _ => rfl
      linked := nofun, completion := nofun }
  exact .of_step hstep (canSettle_of_pending (get?_put_self ..) hclear₁ (.inr rfl) hcurrent)

/-! ## Reconciliations that are stuck -/

def SnapshotLost (db : Db) (r : IndependentReconciliation) : Prop :=
  ∃ workflowID w, r.workflowID = some workflowID ∧ db.workflows.get? workflowID = some w ∧
    w.workflowType = .snapshot ∧ (w.state = .failed ∨ w.state = .cancelled)

/-- The reconciliation has failed, or a next snapshot is refused for its generation, or the snapshot
that has ended was the last one or would be followed by one that is refused. -/
def StuckRow (db : Db) (r : IndependentReconciliation) : Prop :=
  r.state = .failed ∨ ((r.state = .pending ∨ r.state = .retryWait) ∧
      db.activeGeneration ≠ some r.controllerGeneration) ∨
    (r.state = .snapshotting ∧ SnapshotLost db r ∧
      (4 ≤ r.attempt ∨ db.activeGeneration ≠ some r.controllerGeneration))

/-- The reconciliation of the node is stuck, in a state in which operations and workflows belong
together. -/
structure Stuck (id : UUID) (node : NodeID) (db : Db) : Prop where
  linked : db.WellLinked
  row : ∃ r, db.reconciliations.get? id = some r ∧ r.nodeID = node ∧ StuckRow db r

lemma StuckRow.blocks (h : StuckRow db r) : r.state.blocks := by
  rcases h with hs | ⟨hs | hs, -⟩ | ⟨hs, -⟩ <;> rw [hs] <;> rfl

variable {act : Act} {id' marker : UUID}

lemma of_finish {answered : Bool} (hstep : drainStep c db (.finish id answered) = some db') :
    ∃ r row, db.reconciliations.get? id = some r ∧ r.state = .completing ∧
      db' = { db with reconciliations := db.reconciliations.put id row } := by
  obtain ⟨_, -, hstep⟩ := bind_eq_some_iff.mp hstep
  split at hstep
  all_goals
    obtain ⟨r, hr, hstep⟩ := of_need (toOption_eq_some.mp hstep)
    obtain ⟨⟨-, hstate⟩, hstep⟩ := of_require hstep
    exact ⟨r, _, hr, hstate, (pure_eq_ok.mp hstep).symm⟩

lemma SnapshotLost.after_step (h : SnapshotLost db r) (hlinked : db.WellLinked)
    (hstep : step db act = some db') : SnapshotLost db' r := by
  obtain ⟨workflowID, w, hid, hw, htype, hstate⟩ := h
  have hended : w.state.live = false := by
    rcases hstate with hs | hs <;> rw [hs] <;> rfl
  have hnot : w.workflowType ≠ .conflictResolution := by rw [htype]; decide
  obtain ⟨w', hw', hcontinues⟩ := continues_of_step hstep hlinked.resolutions hw hnot
  exact ⟨workflowID, w', hid, hw', hcontinues.type.trans htype, hcontinues.ended hended ▸ hstate⟩

lemma StuckRow.after_step (h : StuckRow db r) (hlinked : db.WellLinked)
    (hgeneration : db'.activeGeneration = db.activeGeneration) (hstep : step db act = some db') :
    StuckRow db' r := by
  unfold StuckRow
  rw [hgeneration]
  exact h.imp_right (Or.imp_right fun ⟨hs, hlost, hlast⟩ =>
    ⟨hs, hlost.after_step hlinked hstep, hlast⟩)

section

variable (h : Stuck id node db)
include h

namespace Stuck

lemma after_execution (hact : Act.inExecution act) (hstep : step db act = some db') :
    Stuck id node db' := by
  obtain ⟨r, hr, hnode, hstuck⟩ := h.row
  have haside := aside_of_inExecution hact db' (step_eq_some.mp hstep)
  refine ⟨(step_committed hstep).wellLinked h.linked, r, by rw [haside.reconciliations, hr],
    hnode, ?_⟩
  exact hstuck.after_step h.linked haside.generation hstep

lemma executes (hexecutes : Executes db db') : Stuck id node db' := by
  obtain ⟨acts, hacts, hrun⟩ := hexecutes
  exact run_invariant_of_meets (fun _ _ _ hs ha hstep => hs.after_execution ha hstep) h
    (meets_of_forall hacts db) hrun

lemma put_other (hne : id ≠ id') (r' : IndependentReconciliation) :
    Stuck id node { db with reconciliations := db.reconciliations.put id' r' } := by
  obtain ⟨r, hr, hnode, hstuck⟩ := h.row
  refine ⟨⟨h.linked.oneLive, h.linked.resolutions, h.linked.restores⟩, r, ?_, hnode, hstuck⟩
  exact (get?_put_of_ne hne).trans hr

lemma snapshot {p : ReconciliationSnapshot} :
    Stuck id node (createReconciliationSnapshot c id' r p db) := by
  have hjob : Stuck id node (perform db (.environment (.job p.jobID (p.job r .pending)))) :=
    h.executes (.perform rfl)
  rw [createReconciliationSnapshot]
  split
  next db' hstep =>
    obtain ⟨generation, accounts, hcommit, rfl⟩ :=
      createSnapshotWorkflow_commit db' (step_eq_some.mp hstep)
    obtain ⟨r₀, hr₀, hnode, hstuck⟩ := hjob.row
    refine ⟨(step_committed hstep).wellLinked hjob.linked, r₀, ?_, hnode,
      hstuck.after_step hjob.linked rfl hstep⟩
    have hne : id ≠ id' := by
      rintro rfl
      obtain ⟨r', hr', hstate, hgeneration⟩ := of_admitIndependentSnapshot hcommit.admitted
      obtain rfl := mem_unique hr₀ hr'
      rcases hstuck with hs | ⟨-, hstale⟩ | ⟨hs, -⟩
      · rw [hs] at hstate
        simp at hstate
      · exact hstale (hgeneration ▸ hcommit.current)
      · rw [hs] at hstate
        simp at hstate
    exact (get?_modify_of_ne hne).trans hr₀
  · exact hjob.executes (.perform rfl)

lemma restart (hrestart : restartReconciliationSnapshot id' marker db = .ok db') :
    Stuck id node db' := by
  obtain ⟨r', hr', hrestart⟩ := of_need hrestart
  obtain ⟨⟨-, hsnapshotting, -⟩, ⟨⟩⟩ := of_require hrestart
  by_cases hne : id = id'
  · subst hne
    obtain ⟨r, hr, hnode, hstuck⟩ := h.row
    obtain rfl := mem_unique hr hr'
    refine ⟨⟨h.linked.oneLive, h.linked.resolutions, h.linked.restores⟩, _,
      get?_put_self .., hnode, ?_⟩
    by_cases hlast : 4 ≤ r.attempt
    · exact .inl (if_pos hlast)
    refine .inr (.inl ⟨.inr (if_neg hlast), ?_⟩)
    rcases hstuck with hs | ⟨hs | hs, -⟩ | ⟨-, -, hrefused⟩
    · simp [hsnapshotting] at hs
    · simp [hsnapshotting] at hs
    · simp [hsnapshotting] at hs
    · exact hrefused.resolve_left hlast
  · exact h.put_other hne _

lemma begin (hbegin : beginReconciliationCompletion id' marker db = .ok db') :
    Stuck id node db' := by
  obtain ⟨r', hr', hbegin⟩ := of_need hbegin
  obtain ⟨-, hbegin⟩ := of_require hbegin
  obtain ⟨hready, ⟨⟩⟩ := of_require hbegin
  refine h.put_other ?_ _
  rintro rfl
  obtain ⟨r, hr, hnode, hstuck⟩ := h.row
  obtain rfl := mem_unique hr hr'
  rcases hstuck with hs | ⟨hs | hs, -⟩ | ⟨hs, ⟨workflowID, w, hid, hw, -, hstate⟩, -⟩
  · simp [hs] at hready
  · simp [hs] at hready
  · simp [hs] at hready
  · have hlost : db.snapshotState r ≠ some .succeeded := by
      rcases hstate with hstate | hstate <;> simp [snapshotState, hid, hw, hstate]
    simp [hs, hlost] at hready

lemma ne_of_completing (hr : db.reconciliations.get? id' = some r)
    (hstate : r.state = .completing) : id ≠ id' := by
  rintro rfl
  obtain ⟨r', hr', -, hstuck⟩ := h.row
  obtain rfl := mem_unique hr hr'
  rcases hstuck with hs | ⟨hs | hs, -⟩ | ⟨hs, -⟩ <;> simp [hstate] at hs

lemma drainStep {act : DrainAct} (hstep : drainStep c db act = some db') : Stuck id node db' := by
  cases act with
  | work act => exact h.executes (executes_reconcilerStep hstep)
  | snapshot id' p =>
    obtain ⟨r, -, -, ⟨⟩⟩ := of_bind_guarded hstep
    exact h.snapshot
  | restart id' =>
    obtain ⟨r, -, -, hstep⟩ := of_bind_guarded hstep
    exact h.restart (toOption_eq_some.mp hstep)
  | «begin» id' =>
    obtain ⟨r, -, -, hstep⟩ := of_bind_guarded hstep
    exact h.begin (toOption_eq_some.mp hstep)
  | finish id' answered =>
    obtain ⟨r, row, hr, hstate, rfl⟩ := of_finish hstep
    exact h.put_other (h.ne_of_completing hr hstate) row

lemma returnBlocked : db.returnBlocked node := by
  obtain ⟨r, hr, hnode, hstuck⟩ := h.row
  exact Table.any_eq_true.mpr ⟨id, r, hr, by simp [hnode, hstuck.blocks]⟩

lemma not_canSettle : ¬ CanSettle c db id := by
  rintro ⟨acts, db', r, hrun, hr, hfree⟩
  have hstuck : Stuck id node db' :=
    run_invariant (P := Stuck id node) (fun _ _ _ hs hstep => hs.drainStep hstep) h hrun
  obtain ⟨r', hr', -, hrow⟩ := hstuck.row
  obtain rfl := mem_unique hr hr'
  simp [hrow.blocks] at hfree

end Stuck

end

/-! ## Which reconciliations settle -/

/-- The reconciliation is over or about to be, its snapshot is under way, or its next snapshot will
be admitted and is not one too many. -/
def settleable (db : Db) (r : IndependentReconciliation) : Bool :=
  match r.state with
  | .succeeded | .superseded | .completing | .completionRetry => true
  | .pending | .retryWait => db.activeGeneration = some r.controllerGeneration
  | .snapshotting => (db.snapshotState r).any (fun s => s = .succeeded || s.live) ||
      (r.attempt < 4 && db.activeGeneration = some r.controllerGeneration)
  | .failed | .unmapped | .conflict => false

lemma Clear.snapshot_cases (hclear : Clear c db r) (hstate : r.state = .snapshotting) :
    (∃ workflowID w, r.workflowID = some workflowID ∧ db.workflows.get? workflowID = some w ∧
      db.snapshotState r = some w.state ∧ w.state.live) ∨
    db.snapshotState r = some .succeeded ∨ SnapshotLost db r := by
  obtain ⟨workflowID, w, hid, hw, htype⟩ := hclear.linked hstate
  have hread : db.snapshotState r = some w.state := by simp [snapshotState, hid, hw]
  cases hs : w.state with
  | succeeded => exact .inr (.inl (hread.trans (congrArg some hs)))
  | failed => exact .inr (.inr ⟨workflowID, w, hid, hw, htype, .inl hs⟩)
  | cancelled => exact .inr (.inr ⟨workflowID, w, hid, hw, htype, .inr hs⟩)
  | _ => exact .inl ⟨workflowID, w, hid, hw, hread, by rw [hs]; rfl⟩

lemma SnapshotLost.snapshotState (h : SnapshotLost db r) :
    db.snapshotState r = some .failed ∨ db.snapshotState r = some .cancelled := by
  obtain ⟨workflowID, w, hid, hw, -, hstate⟩ := h
  rcases hstate with hs | hs <;> simp [Db.snapshotState, hid, hw, hs]

lemma canSettle_of_settleable (hr : db.reconciliations.get? id = some r) (hclear : Clear c db r)
    (hsettleable : settleable db r) : CanSettle c db id := by
  unfold settleable at hsettleable
  split at hsettleable
  next hs => exact ⟨[], db, r, run_nil _, hr, by rw [hs]; rfl⟩
  next hs => exact ⟨[], db, r, run_nil _, hr, by rw [hs]; rfl⟩
  next hs => exact canSettle_of_completing hr hs
  next hs =>
    exact canSettle_of_complete hr hclear.drained hclear.peace (.inr ⟨hs, hclear.completion hs⟩)
  next hs => exact canSettle_of_pending hr hclear (.inl hs) (of_decide_eq_true hsettleable)
  next hs => exact canSettle_of_pending hr hclear (.inr hs) (of_decide_eq_true hsettleable)
  next hs =>
    rcases hclear.snapshot_cases hs with ⟨workflowID, w, hid, hw, -, hlive⟩ | hdone | hlost
    · obtain ⟨-, -, cleanupID, hpublishable⟩ := hclear.running workflowID w hw hlive
      exact canSettle_of_published hr hs hid hclear.drained hclear.peace hpublishable.succeeds
    · exact canSettle_of_complete hr hclear.drained hclear.peace (.inl ⟨hs, hdone⟩)
    · have hnext : r.attempt < 4 ∧ db.activeGeneration = some r.controllerGeneration := by
        rcases hlost.snapshotState with hended | hended <;>
          simpa [hended, WorkflowState.live] using hsettleable
      exact canSettle_of_lost hr hclear hs hlost.snapshotState (Int.not_le.mpr hnext.1) hnext.2
  all_goals cases hsettleable

lemma stuckRow_of_not_settleable (hclear : Clear c db r) (hnot : settleable db r = false) :
    StuckRow db r := by
  unfold settleable at hnot
  split at hnot
  case h_5 hs => exact .inr (.inl ⟨.inl hs, of_decide_eq_false hnot⟩)
  case h_6 hs => exact .inr (.inl ⟨.inr hs, of_decide_eq_false hnot⟩)
  case h_7 hs =>
    rw [Bool.or_eq_false_iff] at hnot
    have hlast : 4 ≤ r.attempt ∨ db.activeGeneration ≠ some r.controllerGeneration := by
      simpa [or_iff_not_imp_left] using hnot.2
    rcases hclear.snapshot_cases hs with ⟨workflowID, w, -, -, hread, hlive⟩ | hdone | hlost
    · simp [hread, hlive] at hnot
    · simp [hdone] at hnot
    · exact .inr (.inr ⟨hs, hlost, hlast⟩)
  case h_8 hs => exact .inl hs
  case h_9 hs => exact absurd hs hclear.mapped
  case h_10 hs => exact absurd hs hclear.undisputed
  all_goals cases hnot

/-- **When a reconciliation can settle.**  In every state of the tables, when nothing is in the way
of a reconciliation and its node drains, it can come to a state that no longer keeps the node from
becoming managed if and only if it is over or about to be, its snapshot is under way, or its next
snapshot will be admitted and is not one too many. -/
theorem reconciliation_can_settle {db₀ : Db} {acts : List Act} (hfresh : Fresh db₀)
    (hrun : run step db₀ acts = some db) (hr : db.reconciliations.get? id = some r)
    (hclear : Clear c db r) : CanSettle c db id ↔ settleable db r = true := by
  refine ⟨fun hcan => ?_, canSettle_of_settleable hr hclear⟩
  by_contra hnot
  have hlinked : db.WellLinked := run_wellLinked hfresh.wellLinked hrun
  have hstuck : Stuck id r.nodeID db :=
    ⟨hlinked, r, hr, rfl, stuckRow_of_not_settleable hclear (Bool.eq_false_iff.mpr hnot)⟩
  exact hstuck.not_canSettle hcan

/-- The identities of a snapshot of the sample user, all taken from `id`. -/
def sampleReconciliationSnapshot (id : UUID) : ReconciliationSnapshot where
  workflowID := id
  operationID := id
  snapshotID := id
  capabilityID := id
  capabilityHash := id.setWidth 256
  targetNodeID := 3
  relay := false
  jobID := (id.toNat : ℤ)
  now := 1000

def drainingCompute : Node := { sampleCompute with
  controlMode := .independentDraining, desiredControlMode := .independentDraining }

/-- Node `1` comes back from independent mode and reports that the user wrote there. -/
def sampleReport : List Act :=
  [ .environment (.node 1 drainingCompute), .recordIndependentSyncFact 70 1 "user" 71 1 ]

def reportedDb : Db :=
  (run step sampleDb sampleReport).getD sampleDb

def sampleReconciliation : IndependentReconciliation where
  nodeID := 1
  localHandle := "user"
  marker := 71
  state := .pending
  workflowID := none
  attempt := 0
  controllerGeneration := 1

lemma reportedDb_clear : Clear ⟨5, 1, by decide, false⟩ reportedDb sampleReconciliation where
  mapped := by decide
  undisputed := by decide
  positive := by decide
  source := ⟨drainingCompute, by decide +kernel⟩
  peace := by decide +kernel
  running := fun workflowID w hw hlive => by
    have hidle : reportedDb.liveWorkflow = false := by decide +kernel
    simp [Table.any_eq_false.mp hidle workflowID w hw] at hlive
  active := by decide +kernel
  usable := fun _ => ⟨sampleReconciliationSnapshot 80, 80, by decide +kernel, nofun⟩
  unassigned := fun _ => rfl
  linked := nofun
  completion := nofun

theorem reported_reconciliation_can_settle : run step sampleDb sampleReport = some reportedDb ∧
      reportedDb.reconciliations.get? 70 = some sampleReconciliation ∧
      CanSettle ⟨5, 1, by decide, false⟩ reportedDb 70 :=
  have hrun : run step sampleDb sampleReport = some reportedDb := rfl
  have hr : reportedDb.reconciliations.get? 70 = some sampleReconciliation := by decide +kernel
  ⟨hrun, hr, (reconciliation_can_settle sampleDb_registered.toFresh hrun hr
    reportedDb_clear).mpr (by decide +kernel)⟩

/-! ## A node that drains for ever -/

/-- What happens to a node that drains: the steps of the controller about it, and every transaction
of the store. -/
inductive SystemAct
  | controller (act : DrainAct)
  | store (act : Act)

def systemStep (c : RetryConfig) (db : Db) : SystemAct → Option Db
  | .controller act => drainStep c db act
  | .store act => if act.setsReconciliation then none else step db act

lemma perform_closed (hact : act.setsReconciliation = false)
    (hr : db.reconciliations.get? id = some r) (hclosed : r.state.isOpen = false) :
    (perform db act).reconciliations.get? id = some r := by
  rw [perform]
  cases hstep : step db act with
  | none => exact hr
  | some db' => exact closed_kept hact hr hclosed db' (step_eq_some.mp hstep)

lemma drainStep_cases {act : DrainAct} (hstep : drainStep c db act = some db') :
    Executes db db' ∨ (∃ id r p, db' = createReconciliationSnapshot c id r p db) ∨
      ∃ id, WritesOpen id db db' := by
  cases act with
  | work act => exact .inl (executes_reconcilerStep hstep)
  | snapshot id p =>
    obtain ⟨r, -, -, ⟨⟩⟩ := of_bind_guarded hstep
    exact .inr (.inl ⟨id, r, p, rfl⟩)
  | restart id =>
    obtain ⟨r, -, -, hstep⟩ := of_bind_guarded hstep
    exact .inr (.inr ⟨id, restartReconciliationSnapshot_writes db' (toOption_eq_some.mp hstep)⟩)
  | «begin» id =>
    obtain ⟨r, -, -, hstep⟩ := of_bind_guarded hstep
    exact .inr (.inr ⟨id, beginReconciliationCompletion_writes db' (toOption_eq_some.mp hstep)⟩)
  | finish id answered =>
    obtain ⟨r, row, hr, hstate, rfl⟩ := of_finish hstep
    exact .inr (.inr ⟨id, r, row, hr, by rw [hstate]; rfl, rfl⟩)

lemma closed_kept_by_drainStep {act : DrainAct} (hr : db.reconciliations.get? id = some r)
    (hclosed : r.state.isOpen = false) (hstep : drainStep c db act = some db') :
    db'.reconciliations.get? id = some r := by
  rcases drainStep_cases hstep with hexecutes | ⟨id', r', p, rfl⟩ | ⟨id', hwrites⟩
  · rwa [hexecutes.aside.reconciliations]
  · have hjob : (perform db (.environment (.job p.jobID
      (p.job r' .pending)))).reconciliations.get? id = some r := perform_closed rfl hr hclosed
    rw [createReconciliationSnapshot]
    split
    next db' hcreate => exact closed_kept rfl hjob hclosed db' (step_eq_some.mp hcreate)
    · exact perform_closed rfl hjob hclosed
  · exact hwrites.closed hr hclosed

lemma closed_kept_by_systemStep {act : SystemAct} (hr : db.reconciliations.get? id = some r)
    (hclosed : r.state.isOpen = false) (hstep : systemStep c db act = some db') :
    db'.reconciliations.get? id = some r := by
  cases act with
  | controller act => exact closed_kept_by_drainStep hr hclosed hstep
  | store act =>
    obtain ⟨hact, hstep⟩ := ite_none_left_eq_some.mp hstep
    exact closed_kept (Bool.eq_false_iff.mpr hact) hr hclosed db' (step_eq_some.mp hstep)

def sampleFailure (id : UUID) : List SystemAct :=
  [ .controller (.snapshot 70 (sampleReconciliationSnapshot id)),
    .store (.failSnapshotWorkflow id 1001),
    .controller (.restart 70) ]

/-- A run after which node `1` can never become managed again, although every node is online and all
the others are managed: the five snapshots of its reconciliation have failed, and no transaction
touches the row that is left. -/
theorem drained_node_blocked : ∃ acts db,
    run (systemStep ⟨5, 1, by decide, false⟩) sampleDb (sampleReport.map .store ++ acts) = some db ∧
      (db.nodes.all fun id n => n.connectivityState = .online && n.operationalState = .active &&
        (if id = 1 then n.controlMode = .independentDraining else n.managed)) = true ∧
      ∀ acts' db', run (systemStep ⟨5, 1, by decide, false⟩) db acts' = some db' →
        db'.returnBlocked 1 = true ∧
        desiredControlMode db' 1 0 0 .independentDraining = .independentDraining := by
  obtain ⟨db, hrun, ⟨r, hr, hnode, hfailed⟩, hnodes⟩ :
      ∃ db ∈ run (systemStep ⟨5, 1, by decide, false⟩) sampleDb (sampleReport.map .store ++
        [80, 81, 82, 83, 84].flatMap sampleFailure),
        (∃ r ∈ db.reconciliations.get? 70, r.nodeID = 1 ∧ r.state = .failed) ∧
        db.nodes.all fun id n => n.connectivityState = .online && n.operationalState = .active &&
          (if id = 1 then n.controlMode = .independentDraining else n.managed) := by decide +kernel
  have hclosed : r.state.isOpen = false := by rw [hfailed]; rfl
  refine ⟨_, db, hrun, hnodes, fun acts' db' hrun' => ?_⟩
  have hkept : db'.reconciliations.get? 70 = some r := run_invariant
    (P := fun db => db.reconciliations.get? 70 = some r)
    (fun _ _ _ hr hstep => closed_kept_by_systemStep hr hclosed hstep) hr hrun'
  have hblocked : db'.returnBlocked 1 :=
    Table.any_eq_true.mpr ⟨70, r, hkept, by simp [hnode, hfailed, blocks]⟩
  exact ⟨hblocked, by simp [desiredControlMode, hblocked]⟩

end StControl.Controller
