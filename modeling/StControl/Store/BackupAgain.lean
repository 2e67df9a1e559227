import StControl.Store.SingleWriter

/-!
# Backups after the home has moved

A takeover, a restore, a retirement migration and a conflict resolution all leave the user on a
home that nothing backs yet.  The next snapshot is taken from that home, and
`CreateSnapshotWorkflow` refuses it as long as the lease row names another writer, has not expired
or has requests in flight.

The completion of a conflict resolution makes the base the writer of the row and clears its
counters.  The other three only end the lease: the old home stays its writer, and the counters of
its last report stay as they are, so that no backup of the new home is possible until somebody logs
in there.  `backup_refused_after_takeover` is such a run.  `backup_after_home_change` says exactly
when a backup is possible again: when there is no lease row, or its writer is the new home already
and nothing is in flight.
-/

namespace StControl.Store

open Transaction Run Option ActivityLease CreateSnapshotWorkflowParams

variable {db db' : Db} {act : Act} {home : NodeID} {now T : Time}

def Act.promotionTime : Act → Option Time
  | .confirmReplicaTakeover p => some p.now
  | .completeRestoreWorkflow p => some p.now
  | .completeNodeRetirementHomeMigration _ _ now => some now
  | .completeConflictResolution p => some p.now
  | _ => none

def Act.leavesHome : Act → Bool
  | .createLoginHandoff _ | .confirmReplicaTakeover _ | .completeRestoreWorkflow _
  | .completeNodeRetirementHomeMigration .. | .completeConflictResolution _ => false
  | _ => true

/-- From time `t` on the lease does not keep a snapshot of `home` from being taken, and no report
about its session brings it back. -/
def ActivityLease.idle (l : ActivityLease) (home : NodeID) (t : Time) : Bool :=
  l.writerNodeID = home && l.leaseExpiresAt ≤ t && !l.inFlight && l.state ≠ .active &&
    l.state ≠ .independent && l.state ≠ .quiescing

/-- The lease facts from which a move of the home to `home` leaves a lease that is idle there. -/
def leaseFollows (db : Db) (act : Act) (home : NodeID) (now : Time) : Bool :=
  match act with
  | .completeConflictResolution p => db.lease.all fun l =>
      (db.workflows.get? p.workflowID).any (fun w => w.activityEpoch = l.activityEpoch) ||
        l.idle home now
  | _ => db.lease.all fun l => l.writerNodeID = home && !l.inFlight

/-- In every later state without a login, the lease refuses no snapshot from `home`, and does not
hide the user from the candidates for a storage repair. -/
def BackupPossible (db : Db) (home : NodeID) (now : Time) : Prop :=
  ∀ later db' T, run step db later = some db' → (∀ a ∈ later, a.leavesHome) →
    (∀ a ∈ later, ∀ t, a.leaseTime = some t → t ≤ T) → now ≤ T → ∀ l, db'.lease = some l →
    (∀ p : CreateSnapshotWorkflowParams, p.sourceNodeID = home → p.now = T →
      p.refusedBy l = false) ∧ l.blocksRepair T = false

/-! ## An idle lease -/

variable {l : ActivityLease}

lemma ActivityLease.idle_iff :
    l.idle home T ↔ l.writerNodeID = home ∧ l.leaseExpiresAt ≤ T ∧ l.inFlight = false ∧
      l.state ≠ .active ∧ l.state ≠ .independent ∧ l.state ≠ .quiescing := by
  simp only [idle, Bool.and_eq_true, Bool.not_eq_true', decide_eq_true_eq]
  tauto

lemma ActivityLease.idle_mono {T' : Time} (hT : T ≤ T') (h : l.idle home T) : l.idle home T' := by
  rw [idle_iff] at h ⊢
  exact ⟨h.1, Int.le_trans h.2.1 hT, h.2.2⟩

lemma ActivityLease.not_refuses_of_idle (h : l.idle home T) :
    (∀ p : CreateSnapshotWorkflowParams, p.sourceNodeID = home → p.now = T →
      p.refusedBy l = false) ∧ l.blocksRepair T = false := by
  obtain ⟨hwriter, hexpired, hdrained, -, hindependent, hquiescing⟩ := idle_iff.mp h
  have hlate : ¬ T < l.leaseExpiresAt := Int.not_lt.mpr hexpired
  constructor
  · rintro p rfl rfl
    unfold refusedBy
    split
    · simp [refusesIndependentSnapshot, hwriter, hlate, hdrained, hquiescing]
    · simp [refusesSnapshot, hwriter, hlate, hdrained, hindependent, hquiescing]
  · simp [blocksRepair, hlate, hdrained, hindependent, hquiescing]

lemma ActivityLease.of_not_refused
    (h : ∀ p : CreateSnapshotWorkflowParams, p.sourceNodeID = home → p.now = T →
      p.refusedBy l = false) : l.writerNodeID = home ∧ l.leaseExpiresAt ≤ T ∧ l.inFlight = false ∧
      l.state ≠ .independent ∧ l.state ≠ .quiescing := by
  have hordinary := h
    { workflowID := 0, operationID := 0, snapshotID := 0, capabilityID := 0, capabilityHash := 0
      capabilityExpires := T, sourceNodeID := home, targetNodeID := home
      destinationKind := .archive, relay := false, request := .ordinary 0, now := T } rfl rfl
  simp only [refusedBy, refusesSnapshot, Bool.or_eq_false_iff, decide_eq_false_iff_not, not_not,
    Int.not_lt] at hordinary
  tauto

def LeaseIdle (home : NodeID) (T : Time) (db : Db) : Prop :=
  ∀ l, db.lease = some l → l.idle home T

lemma ActivityLease.idle_of_closed {l' : ActivityLease} (h : l.idle home T)
    (hcloses : l.Closes now l') (hnow : now ≤ T) : l'.idle home T := by
  obtain ⟨hhome, -, hbefore, -⟩ := idle_iff.mp h
  have hstate := hcloses.after
  refine idle_iff.mpr ⟨hcloses.same.writer.trans hhome, hcloses.expires ▸ hnow,
    hcloses.drained hbefore, ?_, ?_, ?_⟩
  all_goals
    intro hs
    rw [hs] at hstate
    cases hstate

/-- **The lease stays idle** under everything but logins and further moves of the home. -/
theorem LeaseIdle.after_step (h : LeaseIdle home T db) (hact : act.leavesHome)
    (htime : ∀ t, act.leaseTime = some t → t ≤ T) (hstep : step db act = some db') :
    LeaseIdle home T db' := by
  have hlogin : ∀ n, ¬ act.requests n := by
    rintro n ⟨p, rfl, -⟩
    cases hact
  rcases (step_committed hstep).lease with hsame | ⟨now, hnow, hchange⟩
  · exact fun l hl => h l (hsame ▸ hl)
  intro l' hl'
  rw [hl'] at hchange
  generalize hlease : db.lease = o at hchange
  cases hchange with
  | unchanged => exact h l' hlease
  | touched _ _ before => exact absurd before (idle_iff.mp (h _ hlease)).2.2.2.1
  | closed closes => exact idle_of_closed (h _ hlease) closes (htime now hnow)
  | renewed requested | acquired requested => exact absurd requested (hlogin _)
  | rebased resolved =>
    obtain ⟨⟨p, rfl⟩, -⟩ := resolved
    cases hact

lemma LeaseIdle.after_run {later : List Act} (h : LeaseIdle home T db)
    (hlater : ∀ a ∈ later, a.leavesHome) (htimes : ∀ a ∈ later, ∀ t, a.leaseTime = some t → t ≤ T)
    (hrun : run step db later = some db') : LeaseIdle home T db' := by
  exact run_invariant_of_meets (fun _ _ _ hs ha hstep => hs.after_step ha.1 ha.2 hstep) h
    (meets_of_forall (fun a ha => And.intro (hlater a ha) (htimes a ha)) db) hrun

/-! ## What a move of the home leaves -/

def ActivityLease.fence (l : ActivityLease) : LeaseFence where
  writerNodeID := l.writerNodeID
  sessionID := l.sessionID
  activityEpoch := l.activityEpoch
  controllerGeneration := l.controllerGeneration

lemma renewed_at_once (hl : db.lease = some l) (hactive : l.state = .active) (now : Time) :
    ∃ mid, run step db [.renewActivityLease l.fence now 1] = some mid ∧
      mid.lease = some { l with leaseExpiresAt := now + 1, lastPageHeartbeatAt := now } := by
  refine ⟨{ db with
    lease := updateLease db.lease (fun l' => l'.matchesFence l.fence && l'.state = .active)
      fun l => { l with leaseExpiresAt := now + 1, lastPageHeartbeatAt := now } }, ?_, ?_⟩
  · exact run_cons_eq_some.mpr
      ⟨_, step_eq_some.mpr (ok_require Int.one_pos rfl), run_nil _⟩
  · simp [updateLease, hl, hactive, matchesFence, fence]

lemma backupPossible_iff : BackupPossible db home now ↔ LeaseIdle home now db := by
  constructor
  · intro hpossible l hl
    have hnone : ∀ a ∈ ([] : List Act), False := by simp
    obtain ⟨hfree, -⟩ := hpossible [] db now (run_nil _) (fun a ha => (hnone a ha).elim)
      (fun a ha => (hnone a ha).elim) (Int.le_refl _) l hl
    obtain ⟨hwriter, hexpired, hdrained, hindependent, hquiescing⟩ :=
      of_not_refused hfree
    refine idle_iff.mpr
      ⟨hwriter, hexpired, hdrained, fun hactive => ?_, hindependent, hquiescing⟩
    -- the session of an active row renews it at once, and then the row has not expired
    obtain ⟨mid, hmid, hlease⟩ := renewed_at_once hl hactive now
    obtain ⟨-, hrepair⟩ := hpossible _ mid now hmid (by simp [Act.leavesHome])
      (by simp [Act.leaseTime]) (Int.le_refl _) _ hlease
    have hblocked : now < now + 1 := Int.lt_succ now
    simp [blocksRepair, hblocked] at hrepair
  · intro hidle later db' T hrun hlater htimes hnow l hl
    have hlate : LeaseIdle home T db := fun l hl => idle_mono hnow (hidle l hl)
    exact not_refuses_of_idle (hlate.after_run hlater htimes hrun l hl)

lemma leaseIdle_endedAt_iff (hlease : db'.lease = db.lease.map fun l => l.endedAt now) :
    LeaseIdle home now db' ↔ (db.lease.all fun l => l.writerNodeID = home && !l.inFlight) := by
  have hended : ∀ l : ActivityLease, (l.endedAt now).idle home now ↔
      l.writerNodeID = home ∧ l.inFlight = false := by
    intro l
    constructor
    · intro hidle
      obtain ⟨hwriter, -, hdrained, -⟩ := idle_iff.mp hidle
      exact ⟨hwriter, hdrained⟩
    · rintro ⟨hwriter, hdrained⟩
      exact idle_iff.mpr ⟨hwriter, Int.le_refl _, hdrained, nofun, nofun, nofun⟩
  cases hl : db.lease with
  | none => simp [LeaseIdle, hlease, hl]
  | some l => simp [LeaseIdle, hlease, hl, hended]

lemma leaseIdle_resolveConflict_iff {p : CompleteConflictResolutionParams} {w : Workflow}
    {operation : ResolutionOperation} (hw : db.workflows.get? p.workflowID = some w)
    (hhome : (resolveConflict p w operation db).user.homeNodeID = some home) :
    LeaseIdle home p.now (resolveConflict p w operation db) ↔
      leaseFollows db (.completeConflictResolution p) home p.now := by
  have hbase : operation.baseNodeID = home := some.inj hhome
  cases hl : db.lease with
  | none => simp [LeaseIdle, leaseFollows, resolveConflict, updateLease, hl]
  | some l =>
    by_cases hepoch : l.activityEpoch = w.activityEpoch
    · simp [LeaseIdle, leaseFollows, resolveConflict, updateLease, hl, hw, hepoch, hbase, idle,
        rebasedTo, inFlight]
    · simp [LeaseIdle, leaseFollows, resolveConflict, updateLease, hl, hw, hepoch, Ne.symm hepoch]

/-- **Backups after a move of the home.**  Once a takeover, restore, retirement migration or
conflict resolution has moved the home, the lease facts refuse no backup of the new home as long as
nobody logs in there, exactly when the lease followed the home. -/
theorem backup_after_home_change (hact : act.promotionTime = some now)
    (hstep : step db act = some db') (hmoved : db' ≠ db) (hhome : db'.user.homeNodeID = some home) :
    BackupPossible db' home now ↔ leaseFollows db act home now = true := by
  have hok := step_eq_some.mp hstep
  rw [backupPossible_iff]
  cases act with
  | confirmReplicaTakeover p =>
    cases hact
    obtain heq | ⟨source, point, generation, -, rfl⟩ := confirmReplicaTakeover_commit db' hok
    · exact absurd heq hmoved
    · exact leaseIdle_endedAt_iff rfl
  | completeRestoreWorkflow p =>
    cases hact
    obtain ⟨heq, -⟩ | ⟨w, operationID, operation, before, -, rfl⟩ :=
      completeRestoreWorkflow_commit db' hok
    · exact absurd heq hmoved
    · exact leaseIdle_endedAt_iff rfl
  | completeNodeRetirementHomeMigration itemID workflowID time =>
    cases hact
    obtain ⟨heq, -⟩ | ⟨item, operation, w, target, -, rfl⟩ :=
      completeNodeRetirementHomeMigration_commit db' hok
    · exact absurd heq hmoved
    · exact leaseIdle_endedAt_iff rfl
  | completeConflictResolution p =>
    cases hact
    obtain heq | ⟨w, operation, hcommit, rfl⟩ := completeConflictResolution_commit db' hok
    · exact absurd heq hmoved
    · exact leaseIdle_resolveConflict_iff hcommit.workflow hhome
  | _ => cases hact

/-- A standby on node `2` that is ready since time `15`. -/
def sampleStandby : List Act :=
  sampleTransfer 50 1 2 .hotStandby 10 ++ [sampleCompletion 50 2 .hotStandby 15]

theorem backup_after_resolution : ∃ db db', run step sampleDb disputedFirstLease = some db ∧
      step db (.completeConflictResolution (sampleResolved 20)) = some db' ∧
      db'.lease.isSome ∧ BackupPossible db' 2 20 := by
  obtain ⟨db, hrun, db', hstep, hmoved, hafter, hlease, hfollows⟩ :
      ∃ db ∈ run step sampleDb disputedFirstLease,
        ∃ db' ∈ step db (.completeConflictResolution (sampleResolved 20)),
          db' ≠ db ∧ db'.user.homeNodeID = some 2 ∧ db'.lease.isSome ∧
            leaseFollows db (.completeConflictResolution (sampleResolved 20)) 2 20 := by
    decide +kernel
  exact ⟨db, db', hrun, hstep, hlease,
    (backup_after_home_change rfl hstep hmoved hafter).mpr hfollows⟩

/-- **A takeover after a login leaves the old home as the writer.**  The user logs in on node `1`
at time `20`; the lease ends at `620` and node `2` takes over at `700`.  No snapshot can be taken
from node `2`. -/
theorem backup_refused_after_takeover :
    ¬ ∀ (start : Db) (first : NodeID) (acts : List Act) (db db' : Db) (act : Act) (home : NodeID)
      (now : Time), Registered start first → run step start acts = some db →
      act.promotionTime = some now → step db act = some db' → db' ≠ db →
      db'.user.homeNodeID = some home → BackupPossible db' home now := by
  intro hclaim
  obtain ⟨db, hrun, db', hstep, hmoved, hafter, l, hl, hbusy⟩ :
      ∃ db ∈ run step sampleDb (sampleStandby ++ [.createLoginHandoff (sampleLogin 30 1 20)]),
        ∃ db' ∈ step db (.confirmReplicaTakeover (sampleTakeover 60 2 15 700)),
          db' ≠ db ∧ db'.user.homeNodeID = some 2 ∧ ∃ l ∈ db'.lease, ¬ l.idle 2 700 := by
    decide +kernel
  have hpossible := hclaim sampleDb 1 _ db db' _ 2 700 sampleDb_registered hrun rfl hstep hmoved
    hafter
  exact hbusy (backupPossible_iff.mp hpossible l hl)

end StControl.Store
