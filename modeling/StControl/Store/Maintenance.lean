import StControl.Store.ConflictResolutions

/-!
# Independent writes, imports, clean-up, integrity and promotion

The remaining transactions that touch a user's rows.  A node that was cut off reports the users
it kept serving (`recordIndependentSyncFacts`); writes on more than one node, or away from the
home, turn the user's replicas into a conflict.  An import that links an account on a node with
data of its own freezes the user in the same way.  Replica clean-up deletes superseded copies,
integrity checks mark damaged ones, and a promotion moves the controller to the next generation.
-/

namespace StControl.Store

open Transaction

variable {nodeID : NodeID} {handle : String} {db : Db}

/-! ## Writes in independent mode -/

def ReconciliationState.isOpen : ReconciliationState → Bool
  | .succeeded | .superseded | .failed => false
  | _ => true

section

variable (reconciliations : Table UUID IndependentReconciliation)

def cancelReconciliationWorkflows (p : IndependentReconciliation → Bool)
    (workflows : Table UUID Workflow) : Table UUID Workflow :=
  workflows.update
    (fun id w => w.state.live && reconciliations.any fun _ r => r.workflowID = some id && p r)
    fun w => { w with state := .cancelled, errorCode := some .other }

def revokeReconciliationCapabilities (p : IndependentReconciliation → Bool)
    (capabilities : Table UUID TransferCapability) : Table UUID TransferCapability :=
  capabilities.update
    (fun _ c => c.state = .prepared &&
      reconciliations.any fun _ r => r.workflowID = some c.workflowID && p r)
    fun c => { c with state := .revoked }

def independentCollision : Bool :=
  reconciliations.any fun _ r => r.state.isOpen &&
    reconciliations.any fun _ r' => r'.state.isOpen && r'.nodeID ≠ r.nodeID

end

/-- The statements after the last fact: colliding reconciliations become conflicts, and a conflict
cancels its snapshot and marks every replica of the user. -/
def settleIndependentConflicts (db : Db) : Db :=
  let reconciliations :=
    if independentCollision db.reconciliations then
      db.reconciliations.update (fun _ r => r.state.isOpen) fun r => { r with state := .conflict }
    else db.reconciliations
  let inConflict (r : IndependentReconciliation) : Bool := r.state = .conflict
  let conflicted := reconciliations.any fun _ r => inConflict r
  { db with
    reconciliations
    workflows := cancelReconciliationWorkflows reconciliations inConflict db.workflows
    capabilities := revokeReconciliationCapabilities reconciliations inConflict db.capabilities
    copies :=
      if conflicted then
        db.copies.mapRows fun _ c => { c with state := .conflict, isAuthoritative := false }
      else db.copies
    replicas :=
      if conflicted then db.replicas.mapRows fun _ r => { r with state := .conflict }
      else db.replicas }

/-- `recordIndependentSyncFactsTx`, for one fact about this user; the identity of a new
reconciliation is random. -/
def recordIndependentSyncFact (reconciliationID : UUID) (nodeID : NodeID) (handle : String)
    (marker : UUID) (generation : ℤ) (db : Db) : Except StoreError Db := do
  let account ← need (db.accounts.get? nodeID) .notFound
  require (account.localHandle = handle) .notFound
  require (db.reconciliations.get? reconciliationID = none) .constraintViolation
  let superseded := db.reconciliations.update
    (fun _ r => r.nodeID = nodeID && r.localHandle = handle && r.marker ≠ marker && r.state.isOpen)
    fun r => { r with state := .superseded }
  let outdated (r : IndependentReconciliation) : Bool :=
    r.nodeID = nodeID && r.localHandle = handle && r.state = .superseded
  let recorded :=
    if superseded.any fun _ r => r.nodeID = nodeID && r.localHandle = handle &&
        r.marker = marker then superseded
    else superseded.put reconciliationID
      { nodeID, localHandle := handle, marker
        state := if db.user.homeNodeID = some nodeID then .pending else .conflict
        workflowID := none, attempt := 0, controllerGeneration := generation }
  return settleIndependentConflicts { db with
    reconciliations := recorded
    workflows := cancelReconciliationWorkflows superseded outdated db.workflows
    capabilities := revokeReconciliationCapabilities superseded outdated db.capabilities }

/-! ## Imports -/

def Db.otherData (db : Db) (nodeID : NodeID) : Bool :=
  db.accounts.any (fun n _ => n ≠ nodeID) ||
    db.replicas.any fun n r => n ≠ nodeID && r.state ≠ .empty

/-- The home that an import chooses for a user without one: the smallest other node with an
account, or the imported node. -/
def Db.chosenHome (db : Db) (nodeID : NodeID) : NodeID :=
  db.user.homeNodeID.getD <|
    (db.accounts.fold none fun best n _ =>
      if n = nodeID then best else some (best.elim n (min n))).getD nodeID

/-- Every account gets a conflicting replica row: of kind `home` on the home, a standby elsewhere.
-/
def materializeReplicas (accounts : Table NodeID NodeAccount) (home : NodeID) (now : Time)
    (replicas : Table NodeID UserReplica) : Table NodeID UserReplica :=
  accounts.fold replicas fun t node _ => t.upsert node
    { kind := if node = home then .home else .hotStandby, state := .conflict, dataVersion := 0
      lastSyncAt := some now }
    fun r => { r with state := .conflict }

/-- The statements of `freezeImportedReplicaConflict`. -/
def freezeImportedReplicas (home : NodeID) (now : Time) (db : Db) : Db :=
  { db with
    user := { db.user with
      globalStatus := if db.user.globalStatus = .deleted then .deleted else .conflict
      legacyStatus := if db.user.legacyStatus = .deleted then .deleted else .conflict }
    accounts := db.accounts.update
      (fun _ a => a.status = .pending || a.status = .active || a.status = .stale)
      fun a => { a with status := .conflict }
    replicas := (materializeReplicas db.accounts home now db.replicas).mapRows
      fun _ r => { r with state := .conflict }
    copies := db.copies.update (fun _ c => c.state ≠ .deleting && c.state ≠ .corrupt)
      fun c => { c with state := .conflict, isAuthoritative := false }
    tickets := revokeTickets db.tickets now
    lease := updateLease db.lease (fun l => l.state ≠ .conflict)
      fun l => { l with state := .conflict, leaseExpiresAt := now } }

/-- The rows of an imported account: the account itself, the home, and the replica row of its
node. -/
def linkAccount (nodeID home : NodeID) (account : NodeAccount) (now : Time) (db : Db) : Db :=
  let kind : ReplicaKind := if home = nodeID then .home else .hotStandby
  let state : ReplicaState := if home = nodeID then .ready else .stale
  { db with
    accounts := db.accounts.put nodeID account, user := { db.user with homeNodeID := some home }
    replicas := db.replicas.upsert nodeID
      { kind, state, dataVersion := 0, lastSyncAt := some now }
      fun r => { r with kind, state, lastSyncAt := some now } }

def Db.resolutionInProgress (db : Db) : Bool :=
  db.conflicts.any fun id c => c.state ≠ .resolved && c.state ≠ .failed &&
    db.resolutions.any fun _ o => o.conflictID = id

/-- The linking of an account by an OAuth identity: at the import (`relink = false`) or when the
identity is proved later (`resolveOAuthUnmatchedCandidates`, where the account may exist). -/
def linkImportCandidate (nodeID : NodeID) (handle : String) (relink : Bool) (now : Time) (db : Db) :
    Except StoreError Db := do
  require (db.user.globalStatus = .active ∨ db.user.globalStatus = .conflict ∨
    (db.user.globalStatus = .recovering ∧ relink = false)) .importConflict
  require (relink ∨ db.accounts.get? nodeID = none) .importConflict
  let account := (db.accounts.get? nodeID).getD
    { localHandle := handle, status := .active, accountVersion := 1, hasPasswordMaterial := false }
  let home := db.chosenHome nodeID
  let linked := linkAccount nodeID home account now db
  if db.otherData nodeID then do
    require (db.resolutionInProgress = false) .importConflict
    return freezeImportedReplicas home now linked
  else return linked

lemma linkImportCandidate_commit {relink : Bool} {now : Time} :
    Ensures (linkImportCandidate nodeID handle relink now db) fun db' => ∃ account,
      (db.otherData nodeID ∧ db' = freezeImportedReplicas (db.chosenHome nodeID) now
          (linkAccount nodeID (db.chosenHome nodeID) account now db)) ∨
      (db.otherData nodeID = false ∧
        db' = linkAccount nodeID (db.chosenHome nodeID) account now db) := by
  simp only [linkImportCandidate, ensures_steps, ensures_ite]
  rintro - -
  refine ⟨fun hother => ?_, fun hother => ?_⟩
  · intro _
    exact ⟨_, .inl ⟨hother, rfl⟩⟩
  · exact ⟨_, .inr ⟨by simpa using hother, rfl⟩⟩

def claimAccount (nodeID : NodeID) (account : NodeAccount) (now : Time) (db : Db) : Db :=
  { db with
    accounts := db.accounts.put nodeID account
    replicas := db.replicas.upsert nodeID
      { kind := .hotStandby, state := .stale, dataVersion := 0, lastSyncAt := some now }
      fun r => { r with kind := .hotStandby, state := .stale, lastSyncAt := some now } }

/-- `equalFoldASCII`, for a `left` in ASCII. -/
def equalFoldASCII (left right : String) : Bool :=
  left.toList.map Char.toLower = right.toList.map Char.toLower

/-- `CompleteAccountImportClaim`: the proof of control was the node's password. -/
def completeAccountImportClaim (nodeID : NodeID) (handle : String) (now : Time) (db : Db) :
    Except StoreError Db := do
  require (db.user.globalStatus = .active ∧ equalFoldASCII db.user.username handle) .importConflict
  require (db.accounts.get? nodeID = none) .importConflict
  let account : NodeAccount :=
    { localHandle := handle, status := .active, accountVersion := 1, hasPasswordMaterial := false }
  match db.user.homeNodeID with
  | none => return linkAccount nodeID nodeID account now db
  | some _ => return claimAccount nodeID account now db

lemma completeAccountImportClaim_commit {now : Time} :
    Ensures (completeAccountImportClaim nodeID handle now db) fun db' => ∃ account,
      db.accounts.get? nodeID = none ∧
      ((db.user.homeNodeID = none ∧ db' = linkAccount nodeID nodeID account now db) ∨
        (db.user.homeNodeID.isSome ∧ db' = claimAccount nodeID account now db)) := by
  simp only [completeAccountImportClaim, ensures_require_bind]
  intro _ hfresh
  split
  next hhome =>
    rw [ensures_pure]
    exact ⟨_, hfresh, .inl ⟨hhome, rfl⟩⟩
  next home hhome =>
    rw [ensures_pure]
    exact ⟨_, hfresh, .inr ⟨by rw [hhome]; rfl, rfl⟩⟩

/-! ## Clean-up -/

def Db.quiet (db : Db) : Bool := !db.liveWorkflow && !db.openConflict && !db.openFault

def CopyKind.disposable : CopyKind → CopyState
  | .archive => .stale
  | _ => .ready

def CopyKind.disposableReplica : CopyKind → ReplicaState
  | .archive => .stale
  | _ => .ready

def Db.cleanupScope (db : Db) (task : CleanupTask) : Bool :=
  db.user.homeNodeID ≠ some task.nodeID && db.user.homeNodeID.isSome &&
    (db.copies.get? task.nodeID).any fun c => c.snapshotID = some task.snapshotID &&
      c.replicaKind = task.replicaKind && !c.isAuthoritative

section

variable (taskID : UUID)

/-- `ScheduleReplicaCleanupTasks`, for one copy: a task is inserted, or a failed one revived.  How
long the archive has been stable is not modelled. -/
def scheduleReplicaCleanup (nodeID : NodeID) (snapshot : UUID) (kind : CopyKind) (db : Db) :
    Except StoreError Db := do
  require (kind = .archive ∨ kind = .hotStandby) .replicaCleanupConflict
  let task : CleanupTask :=
    { nodeID, snapshotID := snapshot, replicaKind := kind, state := .pending
      controllerGeneration := 0 }
  require (db.quiet ∧ db.cleanupScope task ∧
    (db.copies.get? nodeID).any fun c => c.state = kind.disposable) .replicaCleanupConflict
  match db.cleanups.find? (fun _ c => c.nodeID = nodeID && c.snapshotID = snapshot &&
      c.replicaKind = kind) with
  | some (id, old) => return { db with
      cleanups := db.cleanups.put id
        (if old.state = .cancelled ∨ old.state = .failed then { old with state := .pending }
          else old) }
  | none => do
    require (db.cleanups.get? taskID = none) .constraintViolation
    return { db with cleanups := db.cleanups.put taskID task }

/-- `ClaimReplicaCleanupTask`. -/
def claimReplicaCleanup (db : Db) : Except StoreError Db := do
  let generation ← need db.activeGeneration .noActiveGeneration
  let task ← need (db.cleanups.get? taskID) .replicaCleanupConflict
  require (task.state = .pending ∨ task.state = .retryWait) .replicaCleanupConflict
  require (db.quiet ∧ db.cleanupScope task) .replicaCleanupConflict
  require ((db.nodes.get? task.nodeID).any fun n => n.serving && n.controlMode = .managed)
    .replicaCleanupConflict
  require ((db.copies.get? task.nodeID).any fun c =>
    c.state = task.replicaKind.disposable || c.state = .deleting) .replicaCleanupConflict
  require ((db.replicas.get? task.nodeID).any fun r => r.kind = task.replicaKind.replicaKind &&
    (r.state = task.replicaKind.disposableReplica || r.state = .deleting)) .replicaCleanupConflict
  return { db with
    cleanups := db.cleanups.put taskID
      { task with state := .running, controllerGeneration := generation }
    copies := db.copies.modify task.nodeID fun c => { c with state := .deleting }
    replicas := db.replicas.modify task.nodeID fun r => { r with state := .deleting } }

/-- The statements of `CompleteReplicaCleanupTask` when the copy is still the one. -/
def deleteReplica (task : CleanupTask) (db : Db) : Db :=
  let copies := db.copies.delete fun node _ => node = task.nodeID
  { db with
    cleanups := db.cleanups.put taskID { task with state := .succeeded }, copies
    replicas := db.replicas.delete fun node r => node = task.nodeID &&
      r.kind = task.replicaKind.replicaKind && r.state = .deleting &&
      db.user.homeNodeID.isSome
    manifests := db.manifests.update (fun id m => id = task.snapshotID &&
        m.state = .immutable && copies.all fun _ c => c.snapshotID ≠ some id)
      fun m => { m with state := .deleted } }

/-- `CompleteReplicaCleanupTask`: the copy and its replica row go, unless the copy is not the one
any more. -/
def completeReplicaCleanup (db : Db) : Except StoreError Db := do
  let task ← need (db.cleanups.get? taskID) .replicaCleanupConflict
  require (db.activeGeneration = some task.controllerGeneration) .replicaCleanupConflict
  if task.state = .succeeded then return db
  else do
    require (task.state = .running) .replicaCleanupConflict
    if db.user.homeNodeID ≠ some task.nodeID ∧ (db.copies.get? task.nodeID).any (fun c =>
        c.snapshotID = some task.snapshotID && c.replicaKind = task.replicaKind &&
        c.state = .deleting && !c.isAuthoritative) then
      return deleteReplica taskID task db
    else return { db with cleanups := db.cleanups.put taskID { task with state := .cancelled } }

lemma completeReplicaCleanup_commit {taskID : UUID} :
    Ensures (completeReplicaCleanup taskID db) fun db' => ∃ task,
      db' = db ∨ db' = { db with cleanups := db.cleanups.put taskID { task with state :=
        .cancelled } } ∨
      (db.user.homeNodeID ≠ some task.nodeID ∧ db' = deleteReplica taskID task db) := by
  simp only [completeReplicaCleanup, ensures_steps, ensures_ite]
  rintro task - -
  refine ⟨fun _ => ⟨task, .inl trivial⟩, fun _ _ => ⟨fun hscope => ?_, fun _ => ?_⟩⟩
  · exact ⟨task, .inr (.inr ⟨hscope.1, rfl⟩)⟩
  · exact ⟨task, .inr (.inl rfl)⟩

/-- `RetryReplicaCleanupTask`. -/
def retryReplicaCleanup (db : Db) : Except StoreError Db := do
  let task ← need (db.cleanups.get? taskID) .replicaCleanupConflict
  require (task.state = .running) .replicaCleanupConflict
  return { db with cleanups := db.cleanups.put taskID { task with state := .retryWait } }

/-- `FailReplicaCleanupTask`: the copy and its row go back to what they were. -/
def failReplicaCleanup (db : Db) : Except StoreError Db := do
  let task ← need (db.cleanups.get? taskID) .replicaCleanupConflict
  require (task.state = .running) .replicaCleanupConflict
  return { db with
    cleanups := db.cleanups.put taskID { task with state := .failed }
    copies := db.copies.update
      (fun node c => node = task.nodeID && c.state = .deleting && !c.isAuthoritative)
      fun c => { c with state := c.replicaKind.disposable }
    replicas := db.replicas.update
      (fun node r => node = task.nodeID && r.kind = task.replicaKind.replicaKind &&
        r.state = .deleting)
      fun r => { r with state := task.replicaKind.disposableReplica } }

end

/-! ## Integrity -/

/-- `idx_replica_one_ready_archive`: no other archive is ready, or the copy is none. -/
def Db.admitsReady (nodeID : NodeID) (copy : ReplicaCopy) (db : Db) : Bool :=
  copy.replicaKind ≠ .archive ||
    db.copies.all fun node c => node = nodeID || c.replicaKind ≠ .archive || c.state ≠ .ready

/-- `FailReplicaIntegrityTask`; which checks are under way is not modelled. -/
def failReplicaIntegrity (nodeID : NodeID) (corrupt : Bool) (db : Db) : Except StoreError Db := do
  let copy ← need (db.copies.get? nodeID) .notFound
  require (corrupt || db.admitsReady nodeID copy) .constraintViolation
  return { db with
    copies := db.copies.put nodeID { copy with state := if corrupt then .corrupt else .ready }
    replicas :=
      if corrupt then
        db.replicas.update (fun node r => node = nodeID && r.kind = .archive)
          fun r => { r with state := .corrupt }
      else db.replicas }

/-! ## Promotion -/

/-- `PromoteControllerEpoch`: the next generation is active, outstanding tickets are revoked, and
every node has to report again before anything is scheduled on it. -/
def promoteControllerEpoch (now : Time) (db : Db) : Except StoreError Db := do
  let current ← need db.activeGeneration .noActiveGeneration
  return { db with
    activeGeneration := some (current + 1), tickets := revokeTickets db.tickets now
    nodes := db.nodes.update
      (fun _ n => (n.hasCredential && n.operationalState ≠ .decommissioned &&
          n.operationalState ≠ .retired) ||
        (n.connectivityState = .online && n.controllerGeneration ≠ current + 1))
      fun n => { n with
        controllerGeneration := 0, status := .offline, connectivityState := .offline
        capacityState := .unknown } }

end StControl.Store
