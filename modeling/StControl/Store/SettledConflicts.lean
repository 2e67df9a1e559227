import StControl.Store.UsableHome

/-!
# Sweeps and heartbeats after a resolved conflict

`ReconcileProtectionStates` runs under `READ COMMITTED`: each of its statements reads what was
committed when the statement started, and a row that it writes stays locked until the sweep ends.
This module splits the sweep into its statements and interleaves them with the heartbeats of nodes
that report writes in independent mode and with completions of conflict resolutions.  A completion
writes the protection row, so it commits only while no sweep holds it.

Two things can undo a completed resolution.  The completion leaves the reconciliations of the user
in state `conflict`, so a heartbeat that repeats a marker marks every replica again; and the
projection of a sweep that read the old conflict overwrites, once it gets the lock, the row that
the completion has just written.  `resolved_conflict_settled` shows that nothing else does.
-/

namespace StControl.Store

open Transaction Run Option Table

variable {id : ℕ} {now : Time} {conflictID marker : UUID} {nodeID : NodeID} {handle : String}
  {written : Option ProtectionState}

/-! ## The statements of a sweep -/

def Db.desiredProtection (db : Db) : ProtectionState where
  state := db.desiredStatus
  reasonCode := db.desiredReason
  authoritativeNodeID := db.user.homeNodeID
  recoveryNodeID := db.desiredRecovery.map (·.nodeID)
  latestRecoverySnapshotID := db.desiredRecovery.map (·.snapshotID)
  latestRecoveryAt := db.desiredRecovery.map (·.publishedAt)
  version := 1

/-- `ON CONFLICT (user_id) DO UPDATE`: the proposed row replaces the one that is there by now. -/
def ProtectionState.upsertOver (excluded : ProtectionState) :
    Option ProtectionState → ProtectionState
  | none => excluded
  | some before =>
    if { excluded with version := before.version } = before then before
    else { excluded with version := before.version + 1 }

lemma upsertOver_state (excluded : ProtectionState) (before : Option ProtectionState) :
    (excluded.upsertOver before).state = excluded.state := by
  unfold ProtectionState.upsertOver
  split
  · rfl
  next before =>
    split
    next heq => rw [← heq]
    · rfl

/-- A sweep between two of its statements: what it has read or written and not yet committed.  The
projected row is `none` for a user whom the projection leaves out. -/
inductive Sweep
  /-- The projection has read its facts and waits for the row. -/
  | projecting (excluded : Option ProtectionState)
  | projected (written : Option ProtectionState)
  | opened (written : Option ProtectionState) (conflicts : Table UUID ReplicaConflict)
  | captured (written : Option ProtectionState) (conflicts : Table UUID ReplicaConflict)
  | frozen (written : Option ProtectionState) (conflicts : Table UUID ReplicaConflict)
      (freezes : Bool)

def Sweep.locks : Sweep → Bool
  | .projecting _ => false
  | .projected written | .opened written _ | .captured written _ => written.isSome
  | .frozen written _ freezes => written.isSome || freezes

def Db.withConflict (db : Db) (conflictID : UUID) (row : Option ProtectionState) :
    Table UUID ReplicaConflict :=
  match row with
  | none => db.conflicts
  | some row =>
    if row.state = .conflict ∧ db.openConflict = false then
      db.conflicts.put conflictID
        { state := .detected, version := 1, protectionVersion := row.version
          sourcesCaptured := false, sources := ∅ }
    else db.conflicts

def Db.captureConflicts (db : Db) (conflicts : Table UUID ReplicaConflict) :
    Table UUID ReplicaConflict :=
  conflicts.mapRows fun id c =>
    if (c.state = .detected || c.state = .inspecting || c.state = .awaitingDecision) &&
        db.resolutions.all (fun _ o => o.conflictID ≠ id) then
      captureSources db c
    else c

def Db.commitSweep (db : Db) (written : Option ProtectionState)
    (conflicts : Table UUID ReplicaConflict) (freezes : Bool) (now : Time) : Db :=
  let swept := { db with protection := written.or db.protection, conflicts }
  if freezes then
    { swept with
      user := { db.user with globalStatus := .conflict, legacyStatus := .conflict }
      tickets := revokeTickets db.tickets now
      lease := updateLease db.lease (fun l => l.state ≠ .conflict)
        fun l => { l with state := .conflict, leaseExpiresAt := now } }
  else swept

/-! ## Interleavings -/

structure Sweeping where
  db : Db
  sweeps : Table ℕ Sweep

inductive SweepAct
  /-- The projection of a new sweep reads its facts. -/
  | begin (sweep : ℕ)
  /-- The projection gets the row and writes it. -/
  | project (sweep : ℕ)
  | openConflict (sweep : ℕ) (conflictID : UUID)
  | capture (sweep : ℕ)
  | freeze (sweep : ℕ)
  | commit (sweep : ℕ) (now : Time)
  | rollback (sweep : ℕ)
  | heartbeat (reconciliationID : UUID) (nodeID : NodeID) (handle : String) (marker : UUID)
      (generation : ℤ)
  | complete (p : CompleteConflictResolutionParams)

def Sweeping.unlocked (s : Sweeping) : Bool := s.sweeps.all fun _ t => !t.locks

def sweepStep (s : Sweeping) : SweepAct → Option Sweeping
  | .begin id =>
    match s.sweeps.get? id with
    | none => some { s with
        sweeps := s.sweeps.put id (.projecting
          (if s.db.user.globalStatus = .deleted then none else some s.db.desiredProtection)) }
    | some _ => none
  | .project id =>
    match s.sweeps.get? id with
    | some (.projecting excluded) =>
      if s.unlocked then
        some { s with
          sweeps := s.sweeps.put id
            (.projected (excluded.map fun row => row.upsertOver s.db.protection)) }
      else none
    | _ => none
  | .openConflict id conflictID =>
    match s.sweeps.get? id with
    | some (.projected written) =>
      if s.db.conflicts.get? conflictID = none then
        some { s with
          sweeps := s.sweeps.put id
            (.opened written (s.db.withConflict conflictID (written.or s.db.protection))) }
      else none
    | _ => none
  | .capture id =>
    match s.sweeps.get? id with
    | some (.opened written conflicts) =>
      some { s with
        sweeps := s.sweeps.put id (.captured written (s.db.captureConflicts conflicts)) }
    | _ => none
  | .freeze id =>
    match s.sweeps.get? id with
    | some (.captured written conflicts) =>
      some { s with
        sweeps := s.sweeps.put id (.frozen written conflicts
          ((written.or s.db.protection).any fun row => row.state = .conflict)) }
    | _ => none
  | .commit id now =>
    match s.sweeps.get? id with
    | some (.frozen written conflicts freezes) =>
      some {
        db := s.db.commitSweep written conflicts freezes now
        sweeps := s.sweeps.delete fun k _ => k = id }
    | _ => none
  | .rollback id => some { s with sweeps := s.sweeps.delete fun k _ => k = id }
  | .heartbeat reconciliationID nodeID handle marker generation =>
    (step s.db (.recordIndependentSyncFact reconciliationID nodeID handle marker generation)).map
      fun db => { s with db }
  | .complete p =>
    if s.unlocked then
      (step s.db (.completeConflictResolution p)).map fun db => { s with db }
    else none

def wholeSweep (id : ℕ) (conflictID : UUID) (now : Time) : List SweepAct :=
  [.begin id, .project id, .openConflict id conflictID, .capture id, .freeze id, .commit id now]

variable {db db' : Db} {s s' : Sweeping}

/-! ## What a completed resolution leaves -/

structure Unfrozen (db : Db) : Prop where
  replicas : ∀ n r, db.replicas.get? n = some r → r.state ≠ .conflict
  copies : ∀ n c, db.copies.get? n = some c → c.state ≠ .conflict
  protection : ∀ row, db.protection = some row → row.state ≠ .conflict
  user : db.user.globalStatus ≠ .conflict ∧ db.user.legacyStatus ≠ .conflict

lemma Unfrozen.hasConflict (h : Unfrozen db) : db.hasConflict = false := by
  have hprotection : db.protection.any (fun row => row.state = .conflict) = false := by
    cases hrow : db.protection with
    | none => rfl
    | some row => simpa using h.protection row hrow
  have hreplicas : db.replicas.any (fun _ r => r.state = .conflict) = false :=
    any_eq_false.mpr fun n r hr => by simpa using h.replicas n r hr
  have hcopies : db.copies.any (fun _ c => c.state = .conflict) = false :=
    any_eq_false.mpr fun n c hc => by simpa using h.copies n c hc
  simp [Db.hasConflict, hprotection, hreplicas, hcopies]

lemma unfrozen_resolveConflict {p : CompleteConflictResolutionParams} {w : Workflow}
    {operation : ResolutionOperation} : Unfrozen (resolveConflict p w operation db) where
  replicas := by
    intro n r hr
    dsimp only [resolveConflict, resolvedReplicas] at hr
    by_cases hbase : n = operation.baseNodeID
    · subst hbase
      rw [get?_upsert_self] at hr
      cases hr
      cases (db.replicas.mapRows fun _ r => { r with state := .stale }).get?
        operation.baseNodeID <;> exact nofun
    · rw [get?_upsert_of_ne hbase, get?_mapRows] at hr
      obtain ⟨before, -, rfl⟩ := map_eq_some_iff.mp hr
      exact nofun
  copies := by
    intro n c hc
    dsimp only [resolveConflict, resolvedCopies] at hc
    by_cases hbase : n = operation.baseNodeID
    · subst hbase
      rw [get?_upsert_self] at hc
      cases hc
      cases (db.copies.mapRows fun _ c => { c with
        isAuthoritative := false, state := if c.state = .conflict then .stale else c.state }).get?
        operation.baseNodeID <;> exact nofun
    · rw [get?_upsert_of_ne hbase, get?_mapRows] at hc
      obtain ⟨before, -, rfl⟩ := map_eq_some_iff.mp hc
      by_cases hstate : before.state = .conflict <;> simp [hstate]
  protection := by
    intro row hrow
    obtain ⟨before, -, rfl⟩ := map_eq_some_iff.mp hrow
    exact nofun
  user := ⟨nofun, nofun⟩

/-! ## Heartbeats -/

def markerRecorded (t : Table UUID IndependentReconciliation) (nodeID : NodeID) (handle : String)
    (marker : UUID) : Bool :=
  t.any fun _ r => r.nodeID = nodeID && r.localHandle = handle && r.marker = marker

def Db.reconciliationsSettled (db : Db) : Bool :=
  db.reconciliations.all (fun _ r => r.state ≠ .conflict) && !independentCollision
  db.reconciliations

abbrev MarkersKept (t t' : Table UUID IndependentReconciliation) : Prop :=
  Rel (fun _ r r' => r'.nodeID = r.nodeID ∧ r'.localHandle = r.localHandle ∧
    r'.marker = r.marker) t t'

variable {t : Table UUID IndependentReconciliation} {p : UUID → IndependentReconciliation → Bool}

lemma MarkersKept.markerRecorded {t' : Table UUID IndependentReconciliation} (h : MarkersKept t t')
    (hrecorded : markerRecorded t nodeID handle marker) :
    Store.markerRecorded t' nodeID handle marker := by
  obtain ⟨id, r, hr, hmatch⟩ := any_eq_true.mp hrecorded
  obtain ⟨r', hr', hnode, hhandle, hmarker⟩ := Table.Rel.after h hr
  exact any_eq_true.mpr ⟨id, r', hr', by rwa [hnode, hhandle, hmarker]⟩

lemma markersKept_update {state : ReconciliationState} :
    MarkersKept t (t.update p fun r => { r with state }) :=
  rel_update (R := fun _ (r r' : IndependentReconciliation) => r'.nodeID = r.nodeID ∧
    r'.localHandle = r.localHandle ∧ r'.marker = r.marker) (fun _ _ => ⟨rfl, rfl, rfl⟩)
    fun _ _ _ => ⟨rfl, rfl, rfl⟩

lemma get?_of_superseded {id : UUID} {r : IndependentReconciliation}
    (hr : (t.update p fun r => { r with state := .superseded }).get? id = some r)
    (hstate : r.state ≠ .superseded) : t.get? id = some r := by
  rw [get?_update] at hr
  obtain ⟨before, hbefore, heq⟩ := map_eq_some_iff.mp hr
  split at heq
  · exact absurd (heq ▸ rfl) hstate
  · exact heq ▸ hbefore

lemma settled_superseded (hconflict : ∀ id r, t.get? id = some r → r.state ≠ .conflict)
    (hcollision : independentCollision t = false) :
    (t.update p fun r => { r with state := .superseded }).any (fun _ r => r.state = .conflict) =
        false ∧
      independentCollision (t.update p fun r => { r with state := .superseded }) = false := by
  have hopen : ∀ r : IndependentReconciliation, r.state.isOpen → r.state ≠ .superseded := by
    rintro r hr heq
    rw [heq] at hr
    cases hr
  constructor
  · refine any_eq_false.mpr fun id r hr => ?_
    by_cases hstate : r.state = .superseded
    · simp [hstate]
    · simpa using hconflict id r (get?_of_superseded hr hstate)
  · refine Bool.eq_false_iff.mpr fun hany => ?_
    obtain ⟨id, r, hr, hboth⟩ := any_eq_true.mp hany
    obtain ⟨hr_open, hother⟩ := Bool.and_eq_true_iff.mp hboth
    obtain ⟨id', r', hr', hrest⟩ := any_eq_true.mp hother
    obtain ⟨hr'_open, hne⟩ := Bool.and_eq_true_iff.mp hrest
    refine Bool.eq_false_iff.mp hcollision (any_eq_true.mpr
      ⟨id, r, get?_of_superseded hr (hopen r hr_open), ?_⟩)
    rw [hr_open, Bool.true_and]
    exact any_eq_true.mpr
      ⟨id', r', get?_of_superseded hr' (hopen r' hr'_open), by rw [hr'_open, hne]; rfl⟩

lemma settleIndependentConflicts_of_settled (db : Db)
    (hconflict : db.reconciliations.any (fun _ r => r.state = .conflict) = false)
    (hcollision : independentCollision db.reconciliations = false) :
    (settleIndependentConflicts db).reconciliations = db.reconciliations ∧
      (settleIndependentConflicts db).copies = db.copies ∧
      (settleIndependentConflicts db).replicas = db.replicas := by
  simp [settleIndependentConflicts, hcollision, hconflict]

lemma recordIndependentSyncFact_settled {reconciliationID : UUID} {generation : ℤ}
    (hrecorded : markerRecorded db.reconciliations nodeID handle marker)
    (hsettled : db.reconciliationsSettled) :
    Ensures (recordIndependentSyncFact reconciliationID nodeID handle marker generation db)
      fun db' => MarkersKept db.reconciliations db'.reconciliations ∧ db'.copies = db.copies ∧
        db'.replicas = db.replicas ∧ db'.protection = db.protection ∧ db'.user = db.user := by
  obtain ⟨hconflict, hcollision⟩ := Bool.and_eq_true_iff.mp hsettled
  have hconflicts : ∀ id r, db.reconciliations.get? id = some r → r.state ≠ .conflict :=
    fun id r hr => by simpa using all_eq_true.mp hconflict id r hr
  simp only [recordIndependentSyncFact, ensures_steps]
  intro account _ _ _
  obtain ⟨hnone, hfree⟩ := settled_superseded
    (p := fun _ r => r.nodeID = nodeID && r.localHandle = handle && r.marker ≠ marker &&
      r.state.isOpen) hconflicts (by simpa using hcollision)
  have hkept : MarkersKept db.reconciliations (db.reconciliations.update
      (fun _ r => r.nodeID = nodeID && r.localHandle = handle && r.marker ≠ marker &&
        r.state.isOpen) fun r => { r with state := .superseded }) := markersKept_update
  generalize db.reconciliations.update _ _ = superseded at hnone hfree hkept ⊢
  -- the marker is still recorded, so that nothing is inserted
  have hstill := hkept.markerRecorded hrecorded
  unfold markerRecorded at hstill
  rw [if_pos hstill]
  obtain ⟨hreconciliations, hcopies, hreplicas⟩ := settleIndependentConflicts_of_settled
    { db with
      reconciliations := superseded
      workflows := cancelReconciliationWorkflows superseded
        (fun r => r.nodeID = nodeID && r.localHandle = handle && r.state = .superseded)
        db.workflows
      capabilities := revokeReconciliationCapabilities superseded
        (fun r => r.nodeID = nodeID && r.localHandle = handle && r.state = .superseded)
        db.capabilities } hnone hfree
  exact ⟨hreconciliations ▸ hkept, hcopies, hreplicas, rfl, rfl⟩

/-! ## Runs after the completion -/

def Sweep.Peaceful : Sweep → Prop
  | .projecting _ => True
  | .projected written | .opened written _ | .captured written _ =>
    ∀ row, written = some row → row.state ≠ .conflict
  | .frozen written _ freezes =>
    (∀ row, written = some row → row.state ≠ .conflict) ∧ freezes = false

/-- What holds in every state after the completion: nothing is in conflict, no sweep brings the
conflict back, and the recorded markers are still recorded. -/
structure Settled (recorded : Table UUID IndependentReconciliation) (s : Sweeping) : Prop where
  unfrozen : Unfrozen s.db
  peaceful : ∀ id sweep, s.sweeps.get? id = some sweep → sweep.Peaceful
  markers : MarkersKept recorded s.db.reconciliations

def SweepAct.repeats (recorded : Table UUID IndependentReconciliation) : SweepAct → Bool
  | .heartbeat _ nodeID handle marker _ => markerRecorded recorded nodeID handle marker
  | _ => true

/-- A projection that has read a conflict writes while there still is one, and a heartbeat finds
the reconciliations of the user settled. -/
def keepsSettled (s : Sweeping) : SweepAct → Bool
  | .project id =>
    match s.sweeps.get? id with
    | some (.projecting (some row)) => row.state ≠ .conflict || s.db.hasConflict
    | _ => true
  | .heartbeat .. => s.db.reconciliationsSettled
  | _ => true

variable {recorded : Table UUID IndependentReconciliation}

section

variable (h : Settled recorded s)
include h

lemma Settled.seen (hwritten : ∀ row, written = some row → row.state ≠ .conflict) :
    ∀ row, written.or s.db.protection = some row → row.state ≠ .conflict := by
  intro row hrow
  cases hw : written with
  | none =>
    rw [hw, none_or] at hrow
    exact h.unfrozen.protection row hrow
  | some own =>
    rw [hw, some_or] at hrow
    exact hwritten row (hw.trans hrow)

lemma Settled.put {sweep : Sweep} (hsweep : sweep.Peaceful) :
    Settled recorded { s with sweeps := s.sweeps.put id sweep } :=
  { h with peaceful := forall_put h.peaceful hsweep }

lemma Settled.delete {p : ℕ → Sweep → Bool} :
    Settled recorded { s with sweeps := s.sweeps.delete p } :=
  { h with peaceful := forall_delete h.peaceful }

lemma Settled.commit {conflicts : Table UUID ReplicaConflict}
    (hwritten : ∀ row, written = some row → row.state ≠ .conflict) :
    Settled recorded { s with db := s.db.commitSweep written conflicts false now } :=
  { h with
    unfrozen :=
      { replicas := h.unfrozen.replicas, copies := h.unfrozen.copies, protection := h.seen hwritten
        user := h.unfrozen.user } }

end

lemma settled_complete {p : CompleteConflictResolutionParams}
    (hstep : sweepStep s (.complete p) = some s') (hmoved : s'.db ≠ s.db) :
    Settled s'.db.reconciliations s' := by
  obtain ⟨hunlocked, hstep⟩ := ite_none_right_eq_some.mp hstep
  obtain ⟨db', hdb', rfl⟩ := map_eq_some_iff.mp hstep
  refine ⟨?_, fun id sweep hsweep => ?_, Table.Rel.refl (fun _ _ => ⟨rfl, rfl, rfl⟩) _⟩
  · obtain heq | ⟨w, operation, -, rfl⟩ :=
      completeConflictResolution_commit db' (step_eq_some.mp hdb')
    · exact absurd heq hmoved
    · exact unfrozen_resolveConflict
  · -- no sweep has written its row, so none of them has anything to report yet
    have hfree := all_eq_true.mp hunlocked id sweep hsweep
    cases sweep with
    | projecting => trivial
    | projected written | opened written _ | captured written _ =>
      rintro row rfl
      cases hfree
    | frozen written _ freezes =>
      simp only [Sweep.locks, Bool.not_or, Bool.and_eq_true, Bool.not_eq_true',
        isSome_eq_false_iff] at hfree
      refine ⟨?_, hfree.2⟩
      rintro row rfl
      cases hfree.1

/-- **One step.** -/
lemma Settled.after_step (h : Settled recorded s) {act : SweepAct} (hrepeats : act.repeats recorded)
    (hkeeps : keepsSettled s act) (hstep : sweepStep s act = some s') : Settled recorded s' := by
  cases act with
  | begin id =>
    simp only [sweepStep] at hstep
    split at hstep
    · exact some.inj hstep ▸ h.put trivial
    · cases hstep
  | project id =>
    simp only [sweepStep] at hstep
    split at hstep
    next excluded hsweep =>
      obtain ⟨-, hstep⟩ := ite_none_right_eq_some.mp hstep
      refine some.inj hstep ▸ h.put fun row hrow => ?_
      obtain ⟨wanted, rfl, rfl⟩ := map_eq_some_iff.mp hrow
      rw [upsertOver_state]
      simp only [keepsSettled, hsweep, h.unfrozen.hasConflict, Bool.or_false,
        decide_eq_true_eq] at hkeeps
      exact hkeeps
    · cases hstep
  | openConflict id conflictID =>
    simp only [sweepStep] at hstep
    split at hstep
    next written hsweep =>
      obtain ⟨-, hstep⟩ := ite_none_right_eq_some.mp hstep
      have hwritten : ∀ row, written = some row → row.state ≠ .conflict := h.peaceful id _ hsweep
      exact some.inj hstep ▸ h.put hwritten
    · cases hstep
  | capture id =>
    simp only [sweepStep] at hstep
    split at hstep
    next written conflicts hsweep =>
      have hwritten : ∀ row, written = some row → row.state ≠ .conflict := h.peaceful id _ hsweep
      exact some.inj hstep ▸ h.put hwritten
    · cases hstep
  | freeze id =>
    simp only [sweepStep] at hstep
    split at hstep
    next written conflicts hsweep =>
      have hwritten : ∀ row, written = some row → row.state ≠ .conflict := h.peaceful id _ hsweep
      refine some.inj hstep ▸ h.put ⟨hwritten, ?_⟩
      cases hrow : written.or s.db.protection with
      | none => rfl
      | some row => simpa using h.seen hwritten row hrow
    · cases hstep
  | commit id now =>
    simp only [sweepStep] at hstep
    split at hstep
    next written conflicts freezes hsweep =>
      obtain ⟨hwritten, rfl⟩ := h.peaceful id _ hsweep
      have hcommitted : Settled recorded
          { s with db := s.db.commitSweep written conflicts false now } := h.commit hwritten
      exact some.inj hstep ▸ hcommitted.delete
    · cases hstep
  | rollback id => exact some.inj hstep ▸ h.delete
  | heartbeat reconciliationID nodeID handle marker generation =>
    obtain ⟨db', hdb', rfl⟩ := map_eq_some_iff.mp hstep
    obtain ⟨hmarkers, hcopies, hreplicas, hprotection, huser⟩ :=
      recordIndependentSyncFact_settled (h.markers.markerRecorded hrepeats) hkeeps db'
        (step_eq_some.mp hdb')
    exact
      { unfrozen :=
          { replicas := hreplicas ▸ h.unfrozen.replicas, copies := hcopies ▸ h.unfrozen.copies
            protection := hprotection ▸ h.unfrozen.protection, user := huser ▸ h.unfrozen.user }
        peaceful := h.peaceful
        markers := Table.Rel.trans
          (fun _ _ _ _ hrs hsu =>
            ⟨hsu.1.trans hrs.1, hsu.2.1.trans hrs.2.1, hsu.2.2.trans hrs.2.2⟩)
          h.markers hmarkers }
  | complete p =>
    obtain ⟨-, hstep⟩ := ite_none_right_eq_some.mp hstep
    obtain ⟨db', hdb', rfl⟩ := map_eq_some_iff.mp hstep
    obtain rfl | ⟨w, operation, hcommit, -⟩ :=
      completeConflictResolution_commit db' (step_eq_some.mp hdb')
    · exact h
    · exact absurd hcommit.frozen.1 h.unfrozen.user.1

/-- **A resolved conflict stays resolved.**  After the completion of a resolution, in every
interleaving of sweeps and of heartbeats that only repeat recorded markers in which no projection
overwrites a conflict that is gone and no heartbeat finds the reconciliations of the user
unsettled, nothing of the user is in conflict. -/
theorem resolved_conflict_settled {p : CompleteConflictResolutionParams} {s₁ s₂ : Sweeping}
    {after : List SweepAct} (hcomplete : sweepStep s₁ (.complete p) = some s₂)
    (hmoved : s₂.db ≠ s₁.db) (hrepeats : ∀ act ∈ after, act.repeats s₂.db.reconciliations = true)
    (hmeets : Meets sweepStep (fun s act => keepsSettled s act = true) s₂ after)
    (hafter : run sweepStep s₂ after = some s) : Unfrozen s.db := by
  have hboth : Meets sweepStep (fun s act => act.repeats s₂.db.reconciliations ∧
      keepsSettled s act) s₂ after :=
    meets_iff.mpr fun acts₁ act acts₂ t hsplit ht =>
      ⟨hrepeats act (by simp [hsplit]), meets_iff.mp hmeets acts₁ act acts₂ t hsplit ht⟩
  have hsettled : Settled s₂.db.reconciliations s :=
    run_invariant_of_meets (fun t act t' ht hact => ht.after_step hact.1 hact.2)
      (settled_complete hcomplete hmoved) hboth hafter
  exact hsettled.unfrozen

/-- The home on node `1` was written in independent mode, and an account on node `2` is imported.
The user resolves the conflict in favour of node `1`. -/
def importedConflict : List Act :=
  [.recordIndependentSyncFact 70 1 "user" 71 1, .linkImportCandidate 2 "user" false 10] ++
    sampleResolution 1 2 11

theorem resolved_conflict_settled_after_sweep :
    ∃ db s₂ s, run step sampleDb importedConflict = some db ∧
      sweepStep ⟨db, ∅⟩ (.complete (sampleResolved 20)) = some s₂ ∧
      run sweepStep s₂ (wholeSweep 1 5 30 ++ [.heartbeat 72 1 "user" 71 1]) = some s ∧
      Unfrozen s.db := by
  let after : List SweepAct := wholeSweep 1 5 30 ++ [.heartbeat 72 1 "user" 71 1]
  obtain ⟨db, hdb, s₂, hs₂, s, hs, hmoved, hrepeats, hmeets⟩ :
      ∃ db ∈ run step sampleDb importedConflict,
        ∃ s₂ ∈ sweepStep ⟨db, ∅⟩ (.complete (sampleResolved 20)),
        ∃ s ∈ run sweepStep s₂ after, s₂.db ≠ db ∧
          (∀ act ∈ after, act.repeats s₂.db.reconciliations) ∧
          Meets sweepStep (fun s act => keepsSettled s act) s₂ after := by
    decide +kernel
  exact ⟨db, s₂, s, hdb, hs₂, hs, resolved_conflict_settled hs₂ hmoved hrepeats hmeets hs⟩

/-- **A sweep undoes the resolution.**  An account on node `2` is imported, and the user resolves
the conflict in favour of node `2`.  A sweep has read the conflict before the completion: its
projection waits for the completion to release the row and overwrites it, and its later statements
freeze the user again. -/
theorem conflict_returns_with_sweep :
    ¬ ∀ (start : Db) (first : NodeID) (acts : List Act) (db : Db)
      (p : CompleteConflictResolutionParams) (before after : List SweepAct) (s₁ s₂ s : Sweeping),
      Registered start first → run step start acts = some db →
      run sweepStep ⟨db, ∅⟩ before = some s₁ → sweepStep s₁ (.complete p) = some s₂ →
      s₂.db ≠ s₁.db → (∀ act ∈ after, act.repeats s₂.db.reconciliations = true) →
      run sweepStep s₂ after = some s → Unfrozen s.db := by
  intro hclaim
  let acts : List Act := .linkImportCandidate 2 "user" false 10 :: sampleResolution 2 1 11
  let after : List SweepAct := (wholeSweep 1 81 30).drop 1
  obtain ⟨db, hdb, s₁, hs₁, s₂, hs₂, s, hs, hmoved, hrepeats, hfrozen⟩ :
      ∃ db ∈ run step sampleDb acts, ∃ s₁ ∈ run sweepStep ⟨db, ∅⟩ [.begin 1],
        ∃ s₂ ∈ sweepStep s₁ (.complete (sampleResolved 20)),
        ∃ s ∈ run sweepStep s₂ after, s₂.db ≠ s₁.db ∧
          (∀ act ∈ after, act.repeats s₂.db.reconciliations) ∧
            s.db.user.globalStatus = .conflict := by
    decide +kernel
  have hunfrozen := hclaim sampleDb 1 _ db _ _ after s₁ s₂ s sampleDb_registered hdb hs₁ hs₂ hmoved
    hrepeats hs
  exact hunfrozen.user.1 hfrozen

end StControl.Store
