import StControl.Store.Faults

/-!
# Protection states and replica takeover

`ReconcileProtectionStates` projects node and replica facts into one protection row per user.  A
user whose replicas conflict is frozen in the same transaction: the conflict is opened, its
sources are captured, both identity rows become `conflict`, unconsumed tickets are revoked and
the lease is put into the state `conflict`.

`ConfirmReplicaTakeover` promotes a verified hot standby to be the user's home once the lease no
longer blocks a new writer.
-/

namespace StControl.Store

open Transaction

/-! ## The projection -/

structure RecoveryPoint where
  nodeID : NodeID
  snapshotID : UUID
  publishedAt : Time
  deriving DecidableEq

/-- `ORDER BY published_at DESC, node_id`: the first point comes before the second. -/
def RecoveryPoint.before (p q : RecoveryPoint) : Bool :=
  q.publishedAt < p.publishedAt || (p.publishedAt = q.publishedAt && p.nodeID ≤ q.nodeID)

def RecoveryPoint.better (best : Option RecoveryPoint) (p : RecoveryPoint) : Option RecoveryPoint :=
  match best with
  | none => some p
  | some q => if p.before q then some p else some q

section

variable (db : Db)

/-- The ready and compatible copy of the given kind on a serving node of the given role, with its
immutable snapshot. -/
def Db.recoveryPoint (kind : CopyKind) (role : NodeRole) (node : NodeID) :
    Option RecoveryPoint := do
  let n ← db.nodes.get? node
  let copy ← db.copies.get? node
  let snapshot ← copy.snapshotID
  let published ← copy.publishedAt
  let manifest ← db.manifests.get? snapshot
  if n.role = role && n.serving && copy.replicaKind = kind && copy.state = .ready &&
      copy.compatibilityState = .compatible && manifest.state = .immutable then
    some ⟨node, snapshot, published⟩
  else none

def Db.accountActive (node : NodeID) : Bool :=
  (db.accounts.get? node).any fun a => a.status = .active

/-- `hot`: the newest ready standby that could take over. -/
def Db.hotRecovery : Option RecoveryPoint :=
  db.replicas.fold none fun best node r =>
    if r.kind = .hotStandby && r.state = .ready && r.lastSyncAt.isSome &&
        db.accountActive node then
      match db.recoveryPoint .hotStandby .compute node with
      | some p => RecoveryPoint.better best p
      | none => best
    else best

/-- `archive`: the newest ready archive that could be restored. -/
def Db.archiveRecovery : Option RecoveryPoint :=
  db.replicas.fold none fun best node r =>
    if r.kind = .archive && r.state = .ready && r.lastSyncAt.isSome then
      match db.recoveryPoint .archive .storage node with
      | some p => RecoveryPoint.better best p
      | none => best
    else best

/-- `authoritative_ready`: the home serves, its replica is ready and no copy of it says otherwise.
-/
def Db.authoritativeReady : Bool :=
  match db.user.homeNodeID with
  | none => false
  | some home =>
    (db.nodes.get? home).any (fun n => n.role = .compute && n.serving) &&
    (db.replicas.get? home).any (fun r => r.kind = .home && r.state = .ready) &&
    (db.copies.get? home).all fun c => c.replicaKind = .active && c.state = .ready &&
      c.isAuthoritative

/-- `has_conflict`: the state is latched once it has been reached. -/
def Db.hasConflict : Bool :=
  db.protection.any (fun s => s.state = .conflict) ||
    db.replicas.any (fun _ r => r.state = .conflict) ||
    db.copies.any (fun _ c => c.state = .conflict)

/-- `authoritative_corrupt`. -/
def Db.authoritativeCorrupt : Bool :=
  match db.user.homeNodeID with
  | none => false
  | some home =>
    (db.replicas.get? home).any (fun r => r.state = .corrupt) ||
      (db.copies.get? home).any (fun c => c.state = .corrupt)

/-- `desired.state`. -/
def Db.desiredStatus : ProtectionStatus :=
  if db.hasConflict then .conflict
  else if db.authoritativeCorrupt && db.hotRecovery.isSome then .takeoverAvailable
  else if db.authoritativeCorrupt && db.archiveRecovery.isSome then .restoreRequired
  else if db.authoritativeCorrupt then .unavailable
  else if db.authoritativeReady && db.archiveRecovery.isSome then .isProtected
  else if db.authoritativeReady && db.hotRecovery.isSome then .temporary
  else if db.authoritativeReady then .unprotected
  else if db.hotRecovery.isSome then .takeoverAvailable
  else if db.archiveRecovery.isSome then .restoreRequired
  else .unavailable

/-- `desired.reason_code`. -/
def Db.desiredReason : String :=
  if db.hasConflict then "replica_conflict"
  else if db.authoritativeCorrupt then "authoritative_corrupt"
  else if db.authoritativeReady && db.archiveRecovery.isSome then "healthy_archive"
  else if db.authoritativeReady && db.hotRecovery.isSome then "temporary_compute_replica"
  else if db.authoritativeReady then "no_recovery_replica"
  else if db.hotRecovery.isSome then "hot_standby_ready"
  else if db.archiveRecovery.isSome then "archive_restore_required"
  else "no_recovery_replica"

def Db.desiredRecovery : Option RecoveryPoint :=
  if db.hasConflict then none
  else if (db.authoritativeCorrupt || !db.authoritativeReady) && db.hotRecovery.isSome then
    db.hotRecovery
  else if db.archiveRecovery.isSome then db.archiveRecovery
  else db.hotRecovery

def Db.projectProtection : ProtectionState :=
  let desired : ProtectionState :=
    { state := db.desiredStatus, reasonCode := db.desiredReason
      authoritativeNodeID := db.user.homeNodeID, recoveryNodeID := db.desiredRecovery.map (·.nodeID)
      latestRecoverySnapshotID := db.desiredRecovery.map (·.snapshotID)
      latestRecoveryAt := db.desiredRecovery.map (·.publishedAt), version := 1 }
  match db.protection with
  | none => desired
  | some before =>
    if { desired with version := before.version } = before then before
    else { desired with version := before.version + 1 }

/-! ## Freezing a conflict -/

/-- The nodes whose data are evidence of the conflict: conflicting or authoritative copies,
conflicting replicas and the home. -/
def Db.isConflictSource (node : NodeID) : Bool :=
  (db.copies.get? node).any (fun c => c.state = .conflict || c.isAuthoritative ||
      (db.replicas.get? node).any fun r => r.state = .conflict) ||
    (db.replicas.get? node).any fun r => r.state = .conflict ||
      db.user.homeNodeID = some node

/-- The conflict with every source that it did not have yet; a conflict whose evidence had been
captured already goes back to inspection when it gains one. -/
def captureSources (conflict : ReplicaConflict) : ReplicaConflict :=
  let missing := db.nodes.entries.filter fun e =>
    db.isConflictSource e.1 && (conflict.sources.get? e.1).isNone
  let sources := missing.foldl (fun t e => t.put e.1 .pending) conflict.sources
  let reopened := conflict.sourcesCaptured && !missing.isEmpty
  { conflict with
    sources, sourcesCaptured := true
    state := if reopened then .inspecting else conflict.state
    version := if reopened then conflict.version + 1 else conflict.version }

/-- Open a conflict unless one is open, and capture the sources of the open one as long as no
resolution was made for it. -/
def Db.openConflicts (conflictID : UUID) (version : ℤ) : Table UUID ReplicaConflict :=
  let conflicts :=
    if db.openConflict then db.conflicts
    else db.conflicts.put conflictID
      { state := .detected, version := 1, protectionVersion := version
        sourcesCaptured := false, sources := ∅ }
  conflicts.mapRows fun id c =>
    if (c.state = .detected || c.state = .inspecting || c.state = .awaitingDecision) &&
        db.resolutions.all (fun _ o => o.conflictID ≠ id) then
      captureSources db c
    else c

end

/-- `ReconcileProtectionStates`, for one user.  The identity of a conflict that it opens is
random. -/
def reconcileProtectionStates (now : Time) (conflictID : UUID) (db : Db) :
    Except StoreError Db := do
  require (db.conflicts.get? conflictID = none) .constraintViolation
  let protection :=
    if db.user.globalStatus = .deleted then db.protection else some db.projectProtection
  match protection with
  | none => return db
  | some row =>
    if row.state = .conflict then
      return { db with
        protection := some row, conflicts := db.openConflicts conflictID row.version
        user := { db.user with globalStatus := .conflict, legacyStatus := .conflict }
        tickets := revokeTickets db.tickets now
        lease := updateLease db.lease (fun l => l.state ≠ .conflict)
          fun l => { l with state := .conflict, leaseExpiresAt := now } }
    else
      return { db with
        protection := some row
        conflicts := db.conflicts.mapRows fun id c =>
          if (c.state = .detected || c.state = .inspecting || c.state = .awaitingDecision) &&
              db.resolutions.all (fun _ o => o.conflictID ≠ id) then
            captureSources db c
          else c }

/-! ## Storage repair candidates -/

/-- The clause of `ListStorageRepairCandidates` on the lease row. -/
def ActivityLease.blocksRepair (l : ActivityLease) (now : Time) : Bool :=
  now < l.leaseExpiresAt || l.inFlight || l.state = .independent || l.state = .quiescing

def Db.servesArchive (db : Db) (node : NodeID) : Bool :=
  (db.nodes.get? node).any (fun n => n.role = .storage && n.serving) &&
    (db.replicas.get? node).any (fun r => r.kind = .archive && r.state = .ready) &&
    (db.copies.get? node).any fun c => c.replicaKind = .archive && c.state = .ready &&
      c.compatibilityState = .compatible &&
      (c.snapshotID.bind db.manifests.get?).any fun m => m.state = .immutable

/-! ## Takeover -/

structure ConfirmReplicaTakeoverParams where
  operationID : UUID
  requestDigest : Digest
  targetNodeID : NodeID
  (expectedRecoveryAt now : Time)
  deriving DecidableEq

def takeoverCopies (copies : Table NodeID ReplicaCopy) (source target : NodeID) :
    Table NodeID ReplicaCopy :=
  ((clearAuthority copies).upsert source
    { snapshotID := none, replicaKind := .hotStandby, state := .stale, origin := .primary
      isAuthoritative := false, compatibilityState := .unknown, publishedAt := none }
    fun c => { c with
      replicaKind := .hotStandby, state := .stale, origin := .primary
      isAuthoritative := false }).modify target
    fun c => { c with
      replicaKind := .active, state := .ready, origin := .recovery, isAuthoritative := true }

def moveHomeReplica (replicas : Table NodeID UserReplica) (source target : NodeID) :
    Table NodeID UserReplica :=
  (replicas.modify source fun r => { r with kind := .hotStandby, state := .stale }).modify target
    fun r => { r with kind := .home, state := .ready }

/-- The statements of `ConfirmReplicaTakeover` after its checks. -/
def promoteStandby (p : ConfirmReplicaTakeoverParams) (source : NodeID) (point : RecoveryPoint)
    (generation : ℤ) (db : Db) : Db :=
  { db with
    replicas := moveHomeReplica db.replicas source p.targetNodeID
    user := { db.user with homeNodeID := some p.targetNodeID }
    lease := db.lease.map fun l => l.endedAt p.now
    tickets := revokeTickets db.tickets p.now
    copies := takeoverCopies db.copies source p.targetNodeID
    accounts := switchAccounts db.accounts source p.targetNodeID
    takeovers := db.takeovers.put p.operationID
      { requestDigest := p.requestDigest, sourceNodeID := source, targetNodeID := p.targetNodeID
        snapshotID := point.snapshotID, previousActivityEpoch := db.lease.map (·.activityEpoch)
        controllerGeneration := generation, completedAt := p.now }
    protection :=
      some (backupRequired db.protection "takeover_completed_backup_required" p.targetNodeID)
    faults := resolveUserDataFault db.faults }

def confirmReplicaTakeover (p : ConfirmReplicaTakeoverParams) (db : Db) : Except StoreError Db :=
  match db.takeovers.get? p.operationID with
  | some operation => do
    require (operation.targetNodeID = p.targetNodeID ∧ operation.requestDigest = p.requestDigest)
      .replicaTakeoverConflict
    return db
  | none => do
    require (0 < p.targetNodeID) .invalidInput
    require db.user.isActive .replicaTakeoverUnavailable
    let source ← need db.user.homeNodeID .replicaTakeoverUnavailable
    require (source ≠ p.targetNodeID) .replicaTakeoverUnavailable
    require db.faultRecoveryReady .userDataFaultUnavailable
    let generation ← need db.activeGeneration .noActiveGeneration
    require (db.lease.all fun l => !leaseBlocksNewWriter l p.now) .replicaTakeoverLeaseActive
    let replica ← need (db.replicas.get? p.targetNodeID) .replicaTakeoverUnavailable
    require (replica.kind = .hotStandby ∧ replica.state = .ready ∧ replica.lastSyncAt.isSome)
      .replicaTakeoverUnavailable
    require (db.accountActive p.targetNodeID) .replicaTakeoverUnavailable
    let point ← need (db.recoveryPoint .hotStandby .compute p.targetNodeID)
      .replicaTakeoverUnavailable
    require (point.publishedAt = p.expectedRecoveryAt) .replicaTakeoverUnavailable
    require ((db.replicas.get? source).any fun r => r.kind = .home) .replicaTakeoverUnavailable
    return promoteStandby p source point generation db

structure TakeoverCommit (p : ConfirmReplicaTakeoverParams) (db : Db) (source : NodeID)
    (point : RecoveryPoint) (generation : ℤ) : Prop where
  isActive : db.user.isActive
  isHome : db.user.homeNodeID = some source
  faults : db.faultRecoveryReady
  ne : source ≠ p.targetNodeID
  current : db.activeGeneration = some generation
  free : db.lease.all (fun l => !leaseBlocksNewWriter l p.now)
  standby : ∃ r, db.replicas.get? p.targetNodeID = some r ∧ r.kind = .hotStandby ∧ r.state = .ready
  account : db.accountActive p.targetNodeID
  hasPoint : db.recoveryPoint .hotStandby .compute p.targetNodeID = some point
  sourceReplica : ∃ r, db.replicas.get? source = some r ∧ r.kind = .home

lemma confirmReplicaTakeover_commit {p : ConfirmReplicaTakeoverParams} {db : Db} :
    Ensures (confirmReplicaTakeover p db) fun db' => db' = db ∨
      ∃ source point generation, TakeoverCommit p db source point generation ∧
        db' = promoteStandby p source point generation db := by
  unfold confirmReplicaTakeover
  split
  · rw [ensures_require_bind, ensures_pure]
    intro _
    exact .inl rfl
  simp only [ensures_steps, Option.any_eq_true]
  rintro - hactive source hhome hne hfaults generation hcurrent hfree r hr
    ⟨hkind, hstate, -⟩ haccount
    point hpoint - ⟨s, hs, hskind⟩
  exact .inr ⟨source, point, generation,
    ⟨hactive, hhome, hfaults, hne, hcurrent, hfree, ⟨r, hr, hkind, hstate⟩, haccount, hpoint,
      ⟨s, hs, by simpa using hskind⟩⟩, rfl⟩

end StControl.Store
