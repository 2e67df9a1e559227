import StControl.Store.Writes

/-!
# Integrity checks of stored copies

The controller checks every ready archive once a day, and in depth once a month.  A check is claimed
in the integrity columns of the copy, under an operation identity and a lease; the node is asked to
verify its files; and the outcome is written back to the copy: verified, to be repeated, to be
repeated in depth, or corrupt.  A check takes up to nine hours, and meanwhile everything else goes
on.

The integrity columns are a layer over the tables: `CheckedDb` is a database with the columns of
each copy and the checks that the controller has claimed so far, and `checkedStep` is a step of the
store, or a claim, or the end of a check.  A statement of the store that does not name the columns
leaves them alone; `integrityAfter` says what the others do.

`CompleteReplicaIntegrityTask` makes sure that the copy is still ready and still holds the snapshot
that the check was claimed for.  `FailReplicaIntegrityTask` and `EscalateReplicaIntegrityTask` do
not: a check that fails because the node is unavailable writes `ready` into a copy that has become
disputed in the meantime (`disputed_copy_resurrected`).

Durations are in seconds.
-/

namespace StControl.Store

open Run Transaction Option Table

variable {p : NodeID → ReplicaCopy → Bool} {f : ReplicaCopy → ReplicaCopy} {node : NodeID}
  {operationID : UUID}

/-! ## The integrity columns -/

/-- `replica_copies.integrity_state`. -/
inductive IntegrityState
  | due | checking | verified | retryWait | corrupt
  deriving DecidableEq

/-- `replica_copies.integrity_check_kind`. -/
inductive CheckKind
  | light | deep
  deriving DecidableEq

/-- The integrity columns of a row of `replica_copies`. -/
structure IntegrityColumns where
  state : IntegrityState
  operationID : Option UUID
  controllerGeneration : Option ℤ
  leaseUntil : Option Time
  checkKind : CheckKind
  attempt : ℕ
  (nextCheckAt deepCheckAt : Time)
  errorCode : Option String
  deriving DecidableEq

def IntegrityColumns.inserted (now : Time) : IntegrityColumns where
  state := .due
  operationID := none
  controllerGeneration := none
  leaseUntil := none
  checkKind := .deep
  attempt := 0
  nextCheckAt := now
  deepCheckAt := now
  errorCode := none

def replicaIntegrityLightInterval : Duration := 24 * 60 * 60

def replicaIntegrityDeepInterval : Duration := 30 * 24 * 60 * 60

/-- The columns that `CompleteSnapshotWorkflow` gives to a copy that it publishes. -/
def IntegrityColumns.published (now : Time) : IntegrityColumns where
  state := .verified
  operationID := none
  controllerGeneration := none
  leaseUntil := none
  checkKind := .deep
  attempt := 0
  nextCheckAt := now + replicaIntegrityLightInterval
  deepCheckAt := now + replicaIntegrityDeepInterval
  errorCode := none

/-- The columns of the copy that `ReportUserDataFault` condemns. -/
def IntegrityColumns.condemned (reason : String) (columns : IntegrityColumns) : IntegrityColumns :=
  { columns with
    state := .corrupt, operationID := none, leaseUntil := none, errorCode := some reason }

/-- `ReplicaIntegrityTask`: a check as the controller has claimed it. -/
structure ReplicaIntegrityTask where
  operationID : UUID
  nodeID : NodeID
  snapshotID : UUID
  manifestSHA256 : Digest
  checkKind : CheckKind
  attempt : ℕ
  deriving DecidableEq

structure CheckedDb where
  db : Db
  checks : NodeID → IntegrityColumns
  tasks : List ReplicaIntegrityTask

section

variable (s : CheckedDb)

def CheckedDb.task? (operationID : UUID) : Option ReplicaIntegrityTask :=
  s.tasks.find? fun task => task.operationID = operationID

def FaultReason.text : FaultReason → String
  | .authoritativeIntegrityMismatch => "authoritative_integrity_mismatch"
  | .userDirectoryMissing => "user_directory_missing"
  | .userDirectoryUnreadable => "user_directory_unreadable"
  | .userDatabaseCorrupt => "user_database_corrupt"

def integrityAfter (act : Act) (clock : Time) (db db' : Db) (checks : NodeID → IntegrityColumns)
    (node : NodeID) : IntegrityColumns :=
  let isNew := (db.copies.get? node).isNone && (db'.copies.get? node).isSome
  let columns := if isNew then .inserted clock else checks node
  match act with
  | .completeSnapshotWorkflow p =>
    -- The repetition of a completion changes nothing.
    if node = p.targetNodeID ∧
        (db.workflows.get? p.workflowID).any (fun w => w.state ≠ .succeeded) then
      .published p.now
    else columns
  | .reportUserDataFault p =>
    if (db.faults.get? p.operationID).isNone ∧ db.user.homeNodeID = some node then
      columns.condemned p.reasonCode.text
    else columns
  | _ => columns

/-! ## Claiming a check -/

/-- The copy may be checked now: the conditions of `ClaimReplicaIntegrityTask`. -/
def CheckedDb.checkDue (node : NodeID) (now : Time) : Bool :=
  let columns := s.checks node
  (s.db.copies.get? node).any (fun c => c.replicaKind = .archive && c.state = .ready &&
      c.compatibilityState = .compatible) &&
    (s.db.nodes.get? node).any Node.serving &&
    columns.nextCheckAt ≤ now &&
    (columns.state = .due || columns.state = .verified || columns.state = .retryWait ||
      (columns.state = .checking && columns.leaseUntil.any (· ≤ now)))

def replicaIntegrityLeaseTTL : Duration := 9 * 60 * 60

def CheckedDb.newTask (operationID : UUID) (node : NodeID) (now : Time) :
    Option ReplicaIntegrityTask := do
  let copy ← s.db.copies.get? node
  let snapshotID ← copy.snapshotID
  let manifest ← s.db.manifests.get? snapshotID
  if manifest.state = .immutable then
    let columns := s.checks node
    some
      { operationID, nodeID := node, snapshotID, manifestSHA256 := manifest.manifestSHA256
        checkKind := if columns.deepCheckAt ≤ now then .deep else .light
        attempt := columns.attempt + 1 }
  else none

def CheckedDb.setChecks (node : NodeID) (f : IntegrityColumns → IntegrityColumns) : CheckedDb :=
  { s with checks := fun n => if n = node then f (s.checks n) else s.checks n }

/-- `ClaimReplicaIntegrityTask`, for the copy on one node. -/
def CheckedDb.claimReplicaIntegrityTask (operationID : UUID) (node : NodeID) (now : Time) :
    Option CheckedDb := do
  let generation ← s.db.activeGeneration
  let task ← s.newTask operationID node now
  if s.checkDue node now then
    let claimed := s.setChecks node fun columns =>
      { columns with
        state := .checking, operationID := some operationID, controllerGeneration := some generation
        leaseUntil := some (now + replicaIntegrityLeaseTTL), checkKind := task.checkKind
        attempt := task.attempt, errorCode := none }
    some { claimed with tasks := task :: s.tasks }
  else none

/-! ## The end of a check -/

inductive CheckReport
  | complete
  | escalate (errorCode : String)
  | fail (errorCode : String) (corrupt : Bool)
  deriving DecidableEq

/-- What the controller learns: the node is not ready for the command, the command has failed with
this error code, or there is a receipt, which matches the task or does not. -/
inductive CheckOutcome
  | nodeUnavailable
  | commandFailed (errorCode : String)
  | receipt (isMatching : Bool)
  deriving DecidableEq

def safeReplicaIntegrityFailureCode (code : String) : String :=
  if code = "replica_integrity_mismatch" ∨ code = "replica_integrity_unavailable" ∨
      code = "invalid_command_payload" then
    code
  else "agent_command_unavailable"

section

variable (task : ReplicaIntegrityTask)

/-- `executeReplicaIntegrityTask`, behind the command: a light check that finds something is
repeated in depth. -/
def ReplicaIntegrityTask.report : CheckOutcome → CheckReport
  | .nodeUnavailable => .fail "node_unavailable" false
  | .commandFailed errorCode =>
    let code := safeReplicaIntegrityFailureCode errorCode
    if code = "replica_integrity_mismatch" ∧ task.checkKind = .light then
      .escalate "lightweight_integrity_anomaly"
    else .fail code (code = "replica_integrity_mismatch")
  | .receipt false =>
    if task.checkKind = .light then .escalate "lightweight_receipt_mismatch"
    else .fail "receipt_mismatch" true
  | .receipt true => .complete

/-- `replicaIntegrityRetryDelay`: five minutes, doubled with each attempt, at most six hours. -/
def replicaIntegrityRetryDelay : ℕ → Duration
  | 0 | 1 => 5 * 60
  | attempt + 1 => min (2 * replicaIntegrityRetryDelay attempt) (6 * 60 * 60)

/-- The clauses that the three statements have in common: the columns carry this check, its lease
has not expired, and it was claimed by the active generation. -/
def CheckedDb.underCheck (task : ReplicaIntegrityTask) (now : Time) : Bool :=
  let columns := s.checks task.nodeID
  (s.db.copies.get? task.nodeID).isSome && columns.operationID = some task.operationID &&
    columns.state = .checking && columns.leaseUntil.any (now < ·) &&
    columns.controllerGeneration.isSome && columns.controllerGeneration = s.db.activeGeneration

def CheckedDb.readyWith (task : ReplicaIntegrityTask) : Bool :=
  (s.db.copies.get? task.nodeID).any fun c =>
    c.state = .ready && c.snapshotID = some task.snapshotID

/-- The conditions of `CompleteReplicaIntegrityTask`, `EscalateReplicaIntegrityTask` and
`FailReplicaIntegrityTask`; the last one is rolled back where the index forbids a second ready
archive. -/
def CheckedDb.accepts (task : ReplicaIntegrityTask) (now : Time) :
    CheckReport → Bool
  | .complete => s.underCheck task now && (s.checks task.nodeID).checkKind = task.checkKind &&
    s.readyWith task && (s.db.manifests.get? task.snapshotID).any fun m =>
      m.state = .immutable && m.manifestSHA256 = task.manifestSHA256
  | .escalate _ => s.underCheck task now && (s.checks task.nodeID).checkKind = .light
  | .fail _ corrupt =>
    s.underCheck task now && (!corrupt || (s.checks task.nodeID).checkKind = .deep) &&
      (failReplicaIntegrity task.nodeID corrupt s.db).toOption.isSome

def CheckReport.columns (now : Time) (columns : IntegrityColumns) :
    CheckReport → IntegrityColumns
  | .complete => { columns with
      state := .verified
      deepCheckAt :=
        if task.checkKind = .deep then now + replicaIntegrityDeepInterval else columns.deepCheckAt
      nextCheckAt := now + replicaIntegrityLightInterval, leaseUntil := none, errorCode := none }
  | .escalate errorCode => { columns with
      state := .due, checkKind := .deep, nextCheckAt := now, deepCheckAt := now, leaseUntil := none
      errorCode := some errorCode }
  | .fail errorCode corrupt => { columns with
      state := if corrupt then .corrupt else .retryWait
      nextCheckAt := now + replicaIntegrityRetryDelay task.attempt, leaseUntil := none
      errorCode := some errorCode }

/-- What an accepted report writes into the tables: only a failure writes the state of the copy. -/
def CheckReport.tables (db : Db) : CheckReport → Db
  | .fail _ corrupt => (failReplicaIntegrity task.nodeID corrupt db).toOption.getD db
  | _ => db

end

/-- The three statements: a report that is not accepted changes nothing, and the controller ignores
the error. -/
def CheckedDb.record (task : ReplicaIntegrityTask) (now : Time) (report : CheckReport) :
    CheckedDb :=
  if s.accepts task now report then
    { s.setChecks task.nodeID (report.columns task now) with db := report.tables task s.db }
  else s

/-! ## Steps -/

inductive CheckAct
  | claim (operationID : UUID) (node : NodeID) (now : Time)
  | finish (operationID : UUID) (outcome : CheckOutcome) (now : Time)
  | store (act : Act) (clock : Time)

/-- `FailReplicaIntegrityTask` of the store without its columns. -/
def Act.failsIntegrity : Act → Bool
  | .failReplicaIntegrity .. => true
  | _ => false

def checkedStep : CheckAct → Option CheckedDb
  | .claim operationID node now =>
    if (s.task? operationID).isSome then none
    else s.claimReplicaIntegrityTask operationID node now
  | .finish operationID outcome now =>
    (s.task? operationID).map fun task => s.record task now (task.report outcome)
  | .store act clock =>
    if act.failsIntegrity then none
    else (step s.db act).map fun db' =>
      { s with db := db', checks := integrityAfter act clock s.db db' s.checks }

end

/-! ## Which transactions condemn a copy -/

abbrev NoneCondemned (t t' : Table NodeID ReplicaCopy) : Prop :=
  NoNew (fun _ c => c.state = .corrupt) t t'

def Act.reportsFault : Act → Bool
  | .reportUserDataFault _ => true
  | _ => false

lemma clearAuthority_noneCondemned (t : Table NodeID ReplicaCopy) :
    NoneCondemned t (clearAuthority t) :=
  .update fun _ _ _ => id

lemma completionCopies_noneCondemned (p : CompleteSnapshotWorkflowParams)
    (t : Table NodeID ReplicaCopy) : NoneCondemned t (completionCopies p t) := by
  refine NoNew.trans ?_ (.upsert ?_ ?_)
  · split
    · exact .update fun _ c _ h => nomatch h
    · exact .refl t
  · exact nofun
  · exact fun c h => nomatch h

section

variable (t : Table NodeID ReplicaCopy)
include t

lemma takeoverCopies_noneCondemned (source target : NodeID) :
    NoneCondemned t (takeoverCopies t source target) := by
  refine NoNew.trans ((clearAuthority_noneCondemned t).trans (.upsert ?_ ?_)) (.modify ?_)
  · exact nofun
  · exact fun c h => nomatch h
  · exact fun c h => nomatch h

lemma restoredCopies_noneCondemned (home target : NodeID) (snapshot : UUID) (now : Time) :
    NoneCondemned t (restoredCopies t home target snapshot now) := by
  refine NoNew.trans ((clearAuthority_noneCondemned t).trans (.modify ?_)) (.upsert ?_ ?_)
  · exact fun c h => nomatch h
  · exact nofun
  · exact fun c h => nomatch h

lemma migratedCopies_noneCondemned (source target : NodeID) :
    NoneCondemned t (migratedCopies t source target) := by
  refine NoNew.trans ((clearAuthority_noneCondemned t).trans (.modify ?_)) (.modify ?_)
  · exact fun c h => nomatch h
  · exact fun c h => nomatch h

lemma resolvedCopies_noneCondemned (base : NodeID) (snapshot : UUID) (now : Time) :
    NoneCondemned t (resolvedCopies t base snapshot now) := by
  refine NoNew.trans (.mapRows fun _ c hcorrupt => ?_) (.upsert ?_ ?_)
  · split at hcorrupt
    · cases hcorrupt
    · exact hcorrupt
  · exact nofun
  · exact fun c h => nomatch h

end

lemma freezeImportedReplicas_noneCondemned (home : NodeID) (now : Time) (db : Db) :
    NoneCondemned db.copies (freezeImportedReplicas home now db).copies := by
  unfold freezeImportedReplicas
  exact .update fun _ c _ h => nomatch h

variable {db : Db} {task : ReplicaIntegrityTask} {report : CheckReport} {s : CheckedDb} {now : Time}

lemma settleIndependentConflicts_noneCondemned {t : Table NodeID ReplicaCopy}
    (hcopies : db.copies = t) : NoneCondemned t (settleIndependentConflicts db).copies := by
  have h : ∀ conflicted : Bool, NoneCondemned db.copies (if conflicted then
      db.copies.mapRows fun _ c => { c with state := .conflict, isAuthoritative := false }
      else db.copies) := by
    intro conflicted
    split
    · exact .mapRows fun _ c h => nomatch h
    · exact .refl _
  rw [← hcopies]
  exact h _

lemma deleteReplica_noneCondemned (taskID : UUID) (task : CleanupTask) (db : Db) :
    NoneCondemned db.copies (deleteReplica taskID task db).copies := by
  unfold deleteReplica
  exact .delete

lemma CopyKind.disposable_ne_corrupt (kind : CopyKind) : kind.disposable ≠ .corrupt := by
  cases kind <;> exact nofun

lemma transaction_noneCondemned {act : Act} (hfail : act.failsIntegrity = false)
    (hfault : act.reportsFault = false) :
    Ensures (act.transaction db) fun db' => NoneCondemned db.copies db'.copies := by
  have hrefl : NoneCondemned db.copies db.copies := .refl _
  by_cases hwrites : act.writesCopies = false
  · exact tables_kept.mono fun _ hkept => hkept.copies hwrites ▸ hrefl
  cases act with
  | failReplicaIntegrity => cases hfail
  | reportUserDataFault => cases hfault
  | confirmReplicaTakeover p =>
    refine confirmReplicaTakeover_commit.mono ?_
    rintro db' (rfl | ⟨_, _, _, -, rfl⟩)
    · exact hrefl
    · exact takeoverCopies_noneCondemned _ _ _
  | completeSnapshotWorkflow p =>
    refine ensures_ite.mpr ⟨fun _ => completeSnapshotWorkflow_commit.mono ?_, fun _ => by simp⟩
    rintro db' ⟨w, -, ⟨-, rfl⟩ | ⟨-, rfl⟩⟩
    · exact hrefl
    · exact completionCopies_noneCondemned _ _
  | completeRestoreWorkflow p =>
    refine completeRestoreWorkflow_commit.mono ?_
    rintro db' (⟨rfl, -⟩ | ⟨_, _, _, _, -, rfl⟩)
    · exact hrefl
    · exact restoredCopies_noneCondemned _ _ _ _ _
  | completeNodeRetirementHomeMigration =>
    refine completeNodeRetirementHomeMigration_commit.mono ?_
    rintro db' (⟨rfl, -⟩ | ⟨_, _, _, _, -, rfl⟩)
    · exact hrefl
    · exact migratedCopies_noneCondemned _ _ _
  | completeConflictResolution p =>
    refine completeConflictResolution_commit.mono ?_
    rintro db' (rfl | ⟨w, _, -, rfl⟩)
    · exact hrefl
    · exact resolvedCopies_noneCondemned _ _ _ _
  | linkImportCandidate =>
    refine linkImportCandidate_commit.mono ?_
    rintro db' ⟨_, ⟨-, rfl⟩ | ⟨-, rfl⟩⟩
    · exact freezeImportedReplicas_noneCondemned _ _ (linkAccount ..)
    · exact hrefl
  | completeReplicaCleanup =>
    refine completeReplicaCleanup_commit.mono ?_
    rintro db' ⟨_, rfl | rfl | ⟨-, rfl⟩⟩
    · exact hrefl
    · exact hrefl
    · exact deleteReplica_noneCondemned _ _ _
  | settleIndependentConflicts =>
    exact ensures_ok.mpr (settleIndependentConflicts_noneCondemned rfl)
  | recordIndependentSyncFact =>
    simp only [Act.transaction, recordIndependentSyncFact, ensures_steps]
    intros
    exact settleIndependentConflicts_noneCondemned rfl
  | failReplicaCleanup =>
    simp only [Act.transaction, failReplicaCleanup, ensures_steps]
    intros
    exact .update fun _ c _ h => absurd h c.replicaKind.disposable_ne_corrupt
  | completeNodeRetirementReplicaItem | claimReplicaCleanup =>
    simp only [Act.transaction, completeNodeRetirementReplicaItem, claimReplicaCleanup, ensures_ite,
      ensures_steps]
    repeat' first
      | trivial
      | exact hrefl
      | exact .modify fun c h => by cases h
      | simp only [ensures_steps]
      | split
      | intro _
      | constructor
  | environment w => cases w <;> exact absurd rfl hwrites
  | _ => exact absurd rfl hwrites

/-! ## What a check may do -/

def CopyState.withdrawn : CopyState → Bool
  | .stale | .conflict | .deleting | .corrupt => true
  | _ => false

def CheckAct.ofIntegrity : CheckAct → Bool
  | .store .. => false
  | _ => true

def CheckAct.reportsFault : CheckAct → Bool
  | .store act _ => act.reportsFault
  | _ => false

/-- The check is still the one of its copy: the columns carry it, and the copy is ready and holds
the snapshot that it was claimed for. -/
def CheckedDb.holds (s : CheckedDb) (task : ReplicaIntegrityTask) : Prop :=
  (s.checks task.nodeID).operationID = some task.operationID ∧
    (s.checks task.nodeID).state = .checking ∧ s.readyWith task

/-- A harmless step: no integrity step makes a withdrawn copy ready; a copy becomes corrupt only by
a deep check that was claimed for the snapshot it still holds; and the result of a check that is not
the one of its copy any more changes nothing. -/
structure Harmless (s : CheckedDb) (act : CheckAct) (s' : CheckedDb) : Prop where
  withdrawn : act.ofIntegrity → ∀ node c c', s.db.copies.get? node = some c →
    s'.db.copies.get? node = some c' → c.state.withdrawn → c'.state ≠ .ready
  condemned : act.reportsFault = false → ∀ node c', s'.db.copies.get? node = some c' →
    c'.state = .corrupt → (∃ c, s.db.copies.get? node = some c ∧ c.state = .corrupt) ∨
    ∃ operationID outcome now task c, act = .finish operationID outcome now ∧
      s.task? operationID = some task ∧ task.nodeID = node ∧ task.checkKind = .deep ∧
      s.db.copies.get? node = some c ∧ c.snapshotID = some task.snapshotID
  late : ∀ operationID outcome now task, act = .finish operationID outcome now →
    s.task? operationID = some task → ¬ s.holds task → s' = s

/-- A failure or an escalation that is accepted finds its copy ready and with its snapshot; the
other steps meet the condition. -/
def CheckedDb.copyUnchanged (s : CheckedDb) : CheckAct → Bool
  | .finish operationID outcome now =>
    (s.task? operationID).all fun task =>
      !(task.report outcome ≠ .complete && s.accepts task now (task.report outcome)) ||
        s.readyWith task
  | _ => true

/-! ## The end of a check, once -/

lemma get?_tables {c' : ReplicaCopy} (h : (report.tables task db).copies.get? node = some c') :
    db.copies.get? node = some c' ∨
      node = task.nodeID ∧ ∃ errorCode corrupt c, report = .fail errorCode corrupt ∧
        db.copies.get? node = some c ∧
        c' = { c with state := if corrupt then .corrupt else .ready } := by
  cases report with
  | complete | escalate => exact .inl h
  | fail errorCode corrupt =>
    dsimp only [CheckReport.tables] at h
    cases hfail : failReplicaIntegrity task.nodeID corrupt db with
    | error e =>
      rw [hfail] at h
      exact .inl h
    | ok db' =>
      rw [hfail] at h
      obtain ⟨c, hcopy, hfail⟩ := of_need hfail
      cases (of_require hfail).2
      have h' : (db.copies.put task.nodeID
          { c with state := if corrupt then .corrupt else .ready }).get? node = some c' := h
      obtain ⟨hnode, rfl⟩ | h' := of_get?_put h'
      · exact .inr ⟨hnode, errorCode, corrupt, c, rfl, hnode ▸ hcopy, rfl⟩
      · exact .inl h'

lemma columns_state_ne_checking (task : ReplicaIntegrityTask) (now : Time)
    (columns : IntegrityColumns) (report : CheckReport) :
    (report.columns task now columns).state ≠ .checking := by
  cases report with
  | complete | escalate => exact nofun
  | fail errorCode corrupt => cases corrupt <;> exact nofun

open CheckedDb

lemma underCheck_of_accepts (h : s.accepts task now report) : s.underCheck task now := by
  cases report <;> simp only [accepts, Bool.and_eq_true] at h
  · exact h.1.1.1
  · exact h.1
  · exact h.1.1

lemma holds_of_underCheck
    (h : s.underCheck task now) (hready : s.readyWith task) : s.holds task := by
  simp only [underCheck, Bool.and_eq_true,
    decide_eq_true_eq] at h
  exact ⟨h.1.1.1.1.2, h.1.1.1.2, hready⟩

lemma record_ne (h : s.accepts task now report) : s.record task now report ≠ s := by
  intro heq
  have hchecking : (s.checks task.nodeID).state = .checking := by
    have hunder := underCheck_of_accepts h
    simp only [underCheck, Bool.and_eq_true,
      decide_eq_true_eq] at hunder
    exact hunder.1.1.1.2
  have hcolumns : (s.record task now report).checks task.nodeID =
      report.columns task now (s.checks task.nodeID) := by
    rw [record, if_pos h]
    exact if_pos rfl
  rw [heq] at hcolumns
  exact columns_state_ne_checking task now _ report (hcolumns ▸ hchecking)

variable {outcome : CheckOutcome}

lemma deep_of_report_corrupt {errorCode : String} (h : task.report outcome = .fail errorCode true) :
    task.checkKind = .deep := by
  cases hkind : task.checkKind with
  | deep => rfl
  | light =>
    cases outcome with
    | nodeUnavailable => simp [ReplicaIntegrityTask.report] at h
    | commandFailed code =>
      simp only [ReplicaIntegrityTask.report, hkind, and_true] at h
      split at h
      · cases h
      next hcode =>
        injection h with _ hcorrupt
        exact absurd (of_decide_eq_true hcorrupt) hcode
    | receipt isMatching => cases isMatching <;> simp [ReplicaIntegrityTask.report, hkind] at h

variable {s' : CheckedDb}

lemma harmless_of_copies_eq {act : CheckAct} (hcopies : s'.db.copies = s.db.copies)
    (hlate : ∀ operationID outcome now task, act = .finish operationID outcome now →
      s.task? operationID = some task → ¬ s.holds task → s' = s) : Harmless s act s' := by
  refine ⟨fun _ node c c' hc hc' hwithdrawn hready => ?_, fun _ node c' hc' hcorrupt => ?_, hlate⟩
  · rw [hcopies, hc] at hc'
    cases hc'
    rw [hready] at hwithdrawn
    cases hwithdrawn
  · exact .inl ⟨c', hcopies ▸ hc', hcorrupt⟩

lemma harmless_record_iff (htask : s.task? operationID = some task) :
    Harmless s (.finish operationID outcome now) (s.record task now (task.report outcome)) ↔
      (task.report outcome ≠ .complete → s.accepts task now (task.report outcome) →
        s.readyWith task) := by
  constructor
  · intro hharmless hreport haccepts
    by_contra hready
    exact record_ne haccepts (hharmless.late operationID outcome now task rfl htask
      fun hholds => hready hholds.2.2)
  · intro hcondition
    by_cases haccepts : s.accepts task now (task.report outcome)
    · have hready : s.readyWith task := by
        by_cases hcomplete : task.report outcome = .complete
        · rw [hcomplete] at haccepts
          simp only [accepts, Bool.and_eq_true] at haccepts
          exact haccepts.1.2
        · exact hcondition hcomplete haccepts
      obtain ⟨held, hheld, hstate⟩ := (Option.any_eq_true _ _).mp hready
      simp only [Bool.and_eq_true, decide_eq_true_eq] at hstate
      have htables : (s.record task now (task.report outcome)).db =
          (task.report outcome).tables task s.db := by rw [record, if_pos haccepts]
      refine ⟨fun _ node c c' hc hc' hwithdrawn => ?_, fun _ node c' hc' hcorrupt => ?_,
        fun operationID' outcome' now' task' hact htask' hlate => ?_⟩
      · rw [htables] at hc'
        rcases get?_tables hc' with hsame | ⟨rfl, -⟩
        · cases hc.symm.trans hsame
          rintro hready'
          rw [hready'] at hwithdrawn
          cases hwithdrawn
        · cases hc.symm.trans hheld
          rw [hstate.1] at hwithdrawn
          cases hwithdrawn
      · rw [htables] at hc'
        rcases get?_tables hc' with hsame | ⟨rfl, errorCode, corrupt, c, hfail, hc, rfl⟩
        · exact .inl ⟨c', hsame, hcorrupt⟩
        cases corrupt with
        | false => cases hcorrupt
        | true =>
          exact .inr ⟨operationID, outcome, now, task, held, rfl, htask, rfl,
            deep_of_report_corrupt hfail, hheld, hstate.2⟩
      · cases hact
        cases htask.symm.trans htask'
        exact absurd (holds_of_underCheck (underCheck_of_accepts haccepts) hready) hlate
    · have hsame : s.record task now (task.report outcome) = s := if_neg haccepts
      rw [hsame]
      exact harmless_of_copies_eq rfl fun _ _ _ _ _ _ _ => rfl

lemma harmless_claim (h : s.claimReplicaIntegrityTask operationID node now = some s') :
    Harmless s (.claim operationID node now) s' := by
  refine harmless_of_copies_eq ?_ fun _ _ _ _ hact => nomatch hact
  obtain ⟨generation, -, h⟩ := bind_eq_some_iff.mp h
  obtain ⟨task, -, h⟩ := bind_eq_some_iff.mp h
  split at h
  · cases h
    rfl
  · cases h

lemma harmless_store {act : Act} {clock : Time} {db' : Db} {checks : NodeID → IntegrityColumns}
    (hfail : act.failsIntegrity = false) (h : step s.db act = some db') :
    Harmless s (.store act clock) { s with db := db', checks := checks } := by
  refine ⟨nofun, fun hfault node c' hc' hcorrupt => .inl ?_, fun _ _ _ _ hact => nomatch hact⟩
  exact (transaction_noneCondemned hfail hfault db' (step_eq_some.mp h)) node c' hc' hcorrupt

lemma harmless_step_iff (s : CheckedDb) (act : CheckAct) :
    (∀ s', checkedStep s act = some s' → Harmless s act s') ↔ s.copyUnchanged act := by
  cases act with
  | claim operationID node now =>
    refine iff_of_true (fun s' hstep => ?_) rfl
    simp only [checkedStep] at hstep
    split at hstep
    · cases hstep
    · exact harmless_claim hstep
  | store act clock =>
    refine iff_of_true (fun s' hstep => ?_) rfl
    simp only [checkedStep] at hstep
    split at hstep
    · cases hstep
    next hfail =>
      obtain ⟨db', hdb', rfl⟩ := map_eq_some_iff.mp hstep
      exact harmless_store (by simpa using hfail) hdb'
  | finish operationID outcome now =>
    cases htask : s.task? operationID with
    | none =>
      refine iff_of_true (fun s' hstep => ?_) ?_
      · rw [checkedStep, htask] at hstep
        cases hstep
      · simp [copyUnchanged, htask]
    | some task =>
      have hstep : checkedStep s (.finish operationID outcome now) =
          some (s.record task now (task.report outcome)) := by rw [checkedStep, htask]; rfl
      have hcondition : s.copyUnchanged (.finish operationID outcome now) ↔
          (task.report outcome ≠ .complete →
            s.accepts task now (task.report outcome) → s.readyWith task) := by
        simp only [copyUnchanged, htask, Option.all_some, Bool.or_eq_true,
          Bool.not_eq_true', Bool.and_eq_false_iff,
          decide_eq_false_iff_not]
        grind
      rw [hstep, hcondition, ← harmless_record_iff htask]
      exact ⟨fun h => h _ rfl, fun h s' hs' => some.inj hs' ▸ h⟩

/-! ## Whole runs -/

/-- **The integrity checks of a run.**  Every step of a run is harmless if and only if every failure
and every escalation that the store accepts finds its copy ready and with the snapshot that the
check was claimed for. -/
theorem integrity_checks_harmless_iff (s : CheckedDb) (acts : List CheckAct) : Meets checkedStep
        (fun t act => ∀ t', checkedStep t act = some t' → Harmless t act t') s acts ↔
      Meets checkedStep (fun t act => t.copyUnchanged act = true) s acts := by
  have hstep : (fun (t : CheckedDb) act =>
      ∀ t', checkedStep t act = some t' → Harmless t act t') =
      fun t act => t.copyUnchanged act :=
    funext fun t => funext fun act => propext (harmless_step_iff t act)
  rw [hstep]

/-! ## A disputed copy comes back -/

def sampleUnchecked : CheckedDb where
  db := sampleDb
  checks := fun _ => .inserted 0
  tasks := []

/-- A backup to node `3`; a day later its check is claimed; while the node works on it, an account
with the name of the user is found on node `2`, and all copies are disputed. -/
def disputedCheck : List CheckAct :=
  ((sampleTransfer 50 1 3 .archive 0 ++ [sampleCompletion 50 3 .archive 60]).map (.store · 0)) ++
    [.claim 90 3 100000, .store (.linkImportCandidate 2 "user" false 101000) 101000]

def disputedState : CheckedDb := (run checkedStep sampleUnchecked disputedCheck).getD
    sampleUnchecked

def resurrectedState : CheckedDb :=
  (checkedStep disputedState (.finish 90 .nodeUnavailable 102000)).getD disputedState

/-- The check of a disputed copy fails because the node is unavailable, and the copy is ready
again. -/
theorem disputed_copy_resurrected : ∃ acts s s', run checkedStep sampleUnchecked acts = some s ∧
      checkedStep s (.finish 90 .nodeUnavailable 102000) = some s' ∧
      (s.db.copies.get? 3).any (·.state = .conflict) = true ∧
      (s'.db.copies.get? 3).any (·.state = .ready) = true ∧
      ¬ Harmless s (.finish 90 .nodeUnavailable 102000) s' := by
  refine ⟨disputedCheck, disputedState, resurrectedState, rfl, rfl, by decide +kernel,
    by decide +kernel, fun hharmless => ?_⟩
  obtain ⟨c, hc, hwithdrawn⟩ : ∃ c ∈ disputedState.db.copies.get? 3, c.state.withdrawn := by
    decide +kernel
  obtain ⟨c', hc', hstate'⟩ : ∃ c ∈ resurrectedState.db.copies.get? 3, c.state = .ready := by
    decide +kernel
  exact hharmless.withdrawn rfl 3 c c' hc hc' hwithdrawn hstate'

end StControl.Store
