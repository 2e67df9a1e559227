import StControl.Store.Restores

/-!
# Node retirement

Retiring a node moves every user off it.  Draining the node opens a retirement operation with one
item for each user that the node matters to; a user whose home it is gets an item of kind
`authoritative_home`.  That item is served by a snapshot workflow to another compute node and,
once the workflow has succeeded, by `CompleteNodeRetirementHomeMigration`, which makes the target
the home.  Items of the other kinds only give up what the node still holds.
-/

namespace StControl.Store

open Transaction

/-! ## Opening, claiming, retrying and cancelling -/

/-- The states from which `TransitionNodeLifecycle` may drain a node. -/
def OperationalState.drainable : OperationalState → Bool
  | .active | .maintenance | .degraded => true
  | _ => false

/-- `state NOT IN ('empty','stale','corrupt','deleting','error')` for a copy. -/
def CopyState.occupied : CopyState → Bool
  | .empty | .stale | .corrupt | .deleting | .error => false
  | _ => true

/-- `state NOT IN ('empty','stale','error')` for a replica row. -/
def ReplicaState.occupied : ReplicaState → Bool
  | .empty | .stale | .error => false
  | _ => true

/-- `status IN ('pending','active','conflict')` for an account. -/
def AccountStatus.occupied : AccountStatus → Bool
  | .pending | .active | .conflict => true
  | _ => false

section

variable (db : Db)

def Db.holdsReplica (node : NodeID) : Bool :=
  (db.copies.get? node).any (fun c => c.state.occupied) ||
    (db.replicas.get? node).any fun r => r.state.occupied

def Db.livesOn (node : NodeID) : Bool :=
  db.user.homeNodeID = some node && db.user.legacyStatus = .active

def Db.retirementItemKind (node : NodeID) (role : NodeRole) : Option RetirementItemKind :=
  if db.livesOn node then some .authoritativeHome
  else if db.holdsReplica node then
    some (if role = .storage then .archiveReplica else .redundantReplica)
  else if (db.accounts.get? node).any fun a => a.status.occupied then
    some (if role = .storage then .archiveReplica else .accountMetadata)
  else none

def RetirementState.isOpen : RetirementState → Bool
  | .decommissioned | .cancelled | .failed => false
  | _ => true

/-- `TransitionNodeLifecycle` to `draining`, with `createNodeRetirementLocked`.  The operation has
items of other users too, so it may be scheduled without one of this user. -/
def startNodeRetirement (retirementID itemID : UUID) (nodeID : NodeID)
    (hasOtherItems : Bool) (db : Db) : Except StoreError Db := do
  let generation ← need db.activeGeneration .noActiveGeneration
  let node ← need (db.nodes.get? nodeID) .notFound
  require node.operationalState.drainable .retirementConflict
  require (db.retirements.get? retirementID = none ∧ db.retirementItems.get? itemID = none)
    .constraintViolation
  require (db.retirements.all fun _ r => r.nodeID ≠ nodeID || !r.state.isOpen)
    .constraintViolation
  let drained := db.nodes.put nodeID { node with operationalState := .draining }
  match db.retirementItemKind nodeID node.role with
  | none => return { db with
      nodes := drained
      retirements := db.retirements.put retirementID
        { nodeID, state := if hasOtherItems then .scheduled else .verifying
          controllerGeneration := generation } }
  | some itemKind => return { db with
      nodes := drained
      retirements := db.retirements.put retirementID
        { nodeID, state := .scheduled, controllerGeneration := generation }
      retirementItems := db.retirementItems.put itemID
        { retirementID, sourceNodeID := nodeID, targetNodeID := none, itemKind, state := .pending
          workflowID := none } }

def Db.openedItems (retirementID itemID : UUID) (nodeID : NodeID) (role : NodeRole) :
    Table UUID RetirementItem :=
  match db.retirementItemKind nodeID role with
  | none => db.retirementItems
  | some itemKind => db.retirementItems.put itemID
      { retirementID, sourceNodeID := nodeID, targetNodeID := none, itemKind, state := .pending
        workflowID := none }

lemma startNodeRetirement_commit {retirementID itemID : UUID} {nodeID : NodeID}
    {hasOtherItems : Bool} {db : Db} :
    Ensures (startNodeRetirement retirementID itemID nodeID hasOtherItems db) fun db' =>
      ∃ node operation, db.nodes.get? nodeID = some node ∧
        node.operationalState.drainable ∧ db.retirements.get? retirementID = none ∧
        db.retirementItems.get? itemID = none ∧ operation.nodeID = nodeID ∧ operation.state.isOpen ∧
        db' = { db with
          nodes := db.nodes.put nodeID { node with operationalState := .draining }
          retirements := db.retirements.put retirementID operation
          retirementItems := db.openedItems retirementID itemID nodeID node.role } := by
  simp only [startNodeRetirement, ensures_steps, Db.openedItems]
  rintro generation - node hnode hdrainable ⟨hretirement, hitem⟩ -
  split
  next hkind =>
    rw [ensures_pure]
    refine ⟨node, _, hnode, hdrainable, hretirement, hitem, ?_, ?_, by rw [hkind]⟩
    · rfl
    · cases hasOtherItems <;> rfl
  next itemKind hkind =>
    rw [ensures_pure]
    exact ⟨node, { nodeID, state := .scheduled, controllerGeneration := generation }, hnode,
      hdrainable, hretirement, hitem, rfl, rfl, by rw [hkind]⟩

/-- `TransitionNodeLifecycle` back to `active` or `maintenance`, with
`cancelNodeRetirementLocked`. -/
def cancelNodeRetirement (nodeID : NodeID) (toActive : Bool) (db : Db) : Except StoreError Db := do
  let node ← need (db.nodes.get? nodeID) .notFound
  require (node.operationalState = .draining ∨
    (node.operationalState = .retiring ∧ toActive = false)) .retirementConflict
  return { db with
    nodes := db.nodes.put nodeID
      { node with operationalState := if toActive then .active else .maintenance }
    retirements := db.retirements.update (fun _ r => r.nodeID = nodeID && r.state.isOpen)
      fun r => { r with state := .cancelled }
    retirementItems := db.retirementItems.update
      (fun _ i => (db.retirements.get? i.retirementID).any (fun r => r.nodeID = nodeID &&
        (r.state.isOpen || r.state = .cancelled)) &&
        i.state ≠ .succeeded && i.state ≠ .superseded)
      fun i => { i with state := .superseded } }

def claimNodeRetirement (retirementID : UUID) (db : Db) : Except StoreError Db := do
  let operation ← need (db.retirements.get? retirementID) .notFound
  require operation.state.isOpen .notFound
  require (db.activeGeneration = some operation.controllerGeneration) .retirementConflict
  let node ← need (db.nodes.get? operation.nodeID) .notFound
  require (node.operationalState = .draining ∨ node.operationalState = .retiring)
    .retirementConflict
  return { db with
    nodes := db.nodes.put operation.nodeID { node with operationalState := .retiring }
    retirements := db.retirements.put retirementID
      { operation with state := if operation.state = .verifying then .verifying else .migrating } }

def RetirementItemState.terminal : RetirementItemState → Bool
  | .succeeded | .superseded | .failed => true
  | _ => false

def retryNodeRetirementItem (itemID : UUID) (state : RetirementItemState) (clearWorkflow : Bool)
    (db : Db) : Except StoreError Db := do
  require (state = .waitingOffline ∨ state = .retryWait ∨ state = .blocked) .retirementConflict
  let item ← need (db.retirementItems.get? itemID) .retirementConflict
  let operation ← need (db.retirements.get? item.retirementID) .retirementConflict
  require (operation.state = .migrating ∨ operation.state = .retryWait ∨
    operation.state = .blocked) .retirementConflict
  require (db.activeGeneration = some operation.controllerGeneration ∧
    item.state.terminal = false) .retirementConflict
  return { db with
    retirementItems := db.retirementItems.put itemID { item with
      state, workflowID := if clearWorkflow then none else item.workflowID
      targetNodeID := if clearWorkflow then none else item.targetNodeID }
    retirements := db.retirements.put item.retirementID
      { operation with state := if state = .blocked then .blocked else .retryWait } }

def deferNodeRetirement (retirementID : UUID) (db : Db) : Except StoreError Db := do
  let operation ← need (db.retirements.get? retirementID) .retirementConflict
  require (db.activeGeneration = some operation.controllerGeneration) .retirementConflict
  require (operation.state = .migrating ∨ operation.state = .retryWait ∨
    operation.state = .blocked) .retirementConflict
  return { db with
    retirements := db.retirements.put retirementID { operation with state := .retryWait } }

/-! ## Moving the home -/

/-- `busy`: the lease facts with which the home is not moved. -/
def ActivityLease.busy (l : ActivityLease) (now : Time) : Bool :=
  l.state ≠ .ended && (now < l.leaseExpiresAt || 0 < l.inFlightReads || 0 < l.inFlightWrites)

def migratedCopies (copies : Table NodeID ReplicaCopy) (source target : NodeID) :
    Table NodeID ReplicaCopy :=
  ((clearAuthority copies).modify source
    fun c => { c with isAuthoritative := false, state := .stale }).modify target
    fun c => { c with
      replicaKind := .active, origin := .migration, isAuthoritative := true, state := .ready
      compatibilityState := .compatible }

def Db.migrationReady (target : NodeID) (workflowID : UUID) : Bool :=
  (db.copies.get? target).any (fun c => c.replicaKind = .hotStandby && c.state = .ready &&
      c.compatibilityState = .compatible &&
      (c.snapshotID.bind db.manifests.get?).any fun m =>
        m.workflowID = workflowID && m.state = .immutable) &&
    db.accountActive target &&
    (db.nodes.get? target).any fun n => n.role = .compute && n.serving && n.managed

/-- The check that a migration which is recorded as done really was: repeated completions verify
it and change nothing. -/
def Db.migrationCommitted (source target : NodeID) (workflowID : UUID) : Bool :=
  db.user.homeNodeID = some target &&
    (db.replicas.get? source).any (fun r => r.state = .stale) &&
    (db.replicas.get? target).any (fun r => r.kind = .home && r.state = .ready) &&
    (db.copies.get? target).any (fun c => c.replicaKind = .active && c.state = .ready &&
      c.isAuthoritative && (c.snapshotID.bind db.manifests.get?).any fun m =>
        m.workflowID = workflowID) &&
    (db.accounts.get? source).any (fun a => a.status = .stale) && db.accountActive target

end

/-- The statements of `CompleteNodeRetirementHomeMigration` after its checks. -/
def migrateHome (itemID : UUID) (source target : NodeID) (now : Time) (db : Db) : Db :=
  { db with
    copies := migratedCopies db.copies source target
    replicas := moveHomeReplica db.replicas source target
    user := { db.user with homeNodeID := some target }
    accounts := switchAccounts db.accounts source target
    lease := db.lease.map fun l => l.endedAt now
    tickets := revokeTickets db.tickets now
    retirementItems := db.retirementItems.modify itemID fun i => { i with state := .succeeded } }

def completeNodeRetirementHomeMigration (itemID workflowID : UUID) (now : Time) (db : Db) :
    Except StoreError Db := do
  let item ← need (db.retirementItems.get? itemID) .notFound
  let operation ← need (db.retirements.get? item.retirementID) .notFound
  let w ← need (db.workflows.get? workflowID) .notFound
  require (item.workflowID = some workflowID ∧ operation.state = .migrating ∧
    w.workflowType = .snapshot) .notFound
  let target ← need item.targetNodeID .retirementConflict
  require (item.itemKind = .authoritativeHome ∧ w.state = .succeeded ∧ db.user.isActive ∧
    0 < target) .retirementConflict
  require (db.activeGeneration = some operation.controllerGeneration) .retirementConflict
  if item.state = .succeeded then do
    require (db.migrationCommitted operation.nodeID target workflowID) .retirementConflict
    return db
  else do
    require (item.state = .snapshotting ∨ item.state = .promoting ∨ item.state = .retryWait ∨
      item.state = .blocked) .retirementConflict
    require (db.user.homeNodeID = some operation.nodeID) .retirementConflict
    require (db.lease.all fun l => !l.busy now) .snapshotUserActive
    require (db.migrationReady target workflowID) .retirementConflict
    require ((db.replicas.get? operation.nodeID).isSome ∧ (db.replicas.get? target).isSome)
      .retirementConflict
    return migrateHome itemID operation.nodeID target now db

structure MigrationCommit (itemID workflowID : UUID) (now : Time) (db : Db)
    (item : RetirementItem) (operation : NodeRetirement) (w : Workflow) (target : NodeID) :
    Prop where
  hasItem : db.retirementItems.get? itemID = some item
  hasOperation : db.retirements.get? item.retirementID = some operation
  workflow : db.workflows.get? workflowID = some w
  linked : item.workflowID = some workflowID
  hasTarget : item.targetNodeID = some target
  succeeded : w.state = .succeeded
  active : db.user.isActive
  unfinished : item.state.terminal = false
  isHome : db.user.homeNodeID = some operation.nodeID
  lease : db.lease.all (fun l => !l.busy now)
  ready : db.migrationReady target workflowID
  sourceReplica : (db.replicas.get? operation.nodeID).isSome
  targetReplica : (db.replicas.get? target).isSome

lemma completeNodeRetirementHomeMigration_commit {itemID workflowID : UUID} {now : Time} {db : Db} :
    Ensures (completeNodeRetirementHomeMigration itemID workflowID now db) fun db' =>
      (db' = db ∧ ∃ item, db.retirementItems.get? itemID = some item ∧ item.state = .succeeded) ∨
      ∃ item operation w target, MigrationCommit itemID workflowID now db item operation w target ∧
        db' = migrateHome itemID operation.nodeID target now db := by
  simp only [completeNodeRetirementHomeMigration, ensures_steps, ensures_ite]
  rintro item hitem operation hoperation w hw ⟨hlinked, -, -⟩ target htarget
    ⟨-, hsucceeded, hactive, -⟩ -
  constructor
  · rintro hdone -
    exact .inl ⟨trivial, item, hitem, hdone⟩
  · rintro - hstate hhome hlease hready ⟨hsource, htargetReplica⟩
    have hunfinished : item.state.terminal = false := by
      rcases hstate with hs | hs | hs | hs <;> rw [hs] <;> rfl
    exact .inr ⟨item, operation, w, target,
      ⟨hitem, hoperation, hw, hlinked, htarget, hsucceeded, hactive, hunfinished, hhome, hlease,
        hready, hsource, htargetReplica⟩, rfl⟩

/-! ## Items that only give something up -/

def Db.vacated (db : Db) (node : NodeID) : Bool := !db.livesOn node && !db.holdsReplica node

def Db.redundantOn (db : Db) (node : NodeID) : Bool :=
  (match db.user.homeNodeID with
  | some home => home ≠ node && db.user.legacyStatus = .active &&
      (db.nodes.get? home).any fun n => n.serving && n.managed
  | none => false) &&
    db.copies.any fun n c => n ≠ node && c.replicaKind = .archive && c.state = .ready &&
      c.compatibilityState = .compatible &&
      (c.snapshotID.bind db.manifests.get?).any (fun m => m.state = .immutable) &&
      (db.nodes.get? n).any fun a => a.serving

def Db.archivePublished (db : Db) (item : RetirementItem) : Bool :=
  (item.workflowID.bind db.workflows.get?).any (fun w => w.state = .succeeded) &&
    (item.targetNodeID.bind db.copies.get?).any fun c => c.replicaKind = .archive &&
      c.state = .ready && c.compatibilityState = .compatible &&
      (c.snapshotID.bind db.manifests.get?).any fun m =>
        some m.workflowID = item.workflowID && m.state = .immutable

def completeNodeRetirementReplicaItem (itemID : UUID) (db : Db) : Except StoreError Db := do
  let item ← need (db.retirementItems.get? itemID) .notFound
  let operation ← need (db.retirements.get? item.retirementID) .notFound
  require (operation.state = .migrating) .notFound
  require (db.activeGeneration = some operation.controllerGeneration) .retirementConflict
  if item.state = .succeeded then do
    require (db.vacated item.sourceNodeID ∧
      (item.itemKind ≠ .archiveReplica ∨ db.archivePublished item)) .retirementConflict
    return db
  else do
    let waiting := item.state = .pending ∨ item.state = .retryWait ∨ item.state = .blocked
    let accounts := db.accounts.update
      (fun node a => node = item.sourceNodeID && a.status.occupied)
      fun a => { a with status := .stale }
    let retirementItems := db.retirementItems.put itemID { item with state := .succeeded }
    match item.itemKind with
    | .archiveReplica => do
      require ((item.state = .snapshotting ∨ item.state = .retryWait ∨ item.state = .blocked) ∧
        db.archivePublished item) .retirementConflict
      return { db with accounts, retirementItems }
    | .redundantReplica => do
      require (item.workflowID = none ∧ waiting ∧ db.redundantOn item.sourceNodeID)
        .retirementConflict
      return { db with
        accounts, retirementItems
        copies := db.copies.modify item.sourceNodeID
          fun c => { c with state := .stale, isAuthoritative := false }
        replicas := db.replicas.modify item.sourceNodeID fun r => { r with state := .stale } }
    | .accountMetadata => do
      require (item.workflowID = none ∧ waiting ∧ db.vacated item.sourceNodeID)
        .retirementConflict
      return { db with accounts, retirementItems }
    | .authoritativeHome => .error .retirementConflict

/-- `revokeNodeAccessLocked`, as far as it concerns the user: tickets for the node and transfers
from or to it. -/
def revokeNodeAccess (nodeID : NodeID) (now : Time) (db : Db) : Except StoreError Db :=
  return { db with
    tickets := db.tickets.update (fun _ t => t.targetNodeID = nodeID && t.consumedAt.isNone)
      fun t => { t with revokedAt := t.revokedAt.orElse fun _ => some now }
    capabilities := db.capabilities.update (fun _ c => c.state = .prepared &&
        (db.workflows.get? c.workflowID).any fun w =>
          w.sourceNodeID = nodeID || w.targetNodeID = nodeID)
      fun c => { c with state := .revoked } }

/-! ## The end of a retirement -/

/-- `nodeRetirementDependencyQuery`, for this user: something still depends on the node. -/
def Db.dependsOn (db : Db) (node : NodeID) : Bool :=
  db.livesOn node || db.holdsReplica node ||
    (db.accounts.get? node).any (fun a => a.status.occupied) ||
    db.workflows.any (fun _ w => w.state.live && (w.sourceNodeID = node || w.targetNodeID = node))
    ||
    db.jobs.any (fun _ j => (j.srcNodeID = node || j.dstNodeID = node) &&
      (j.status = .pending || j.status = .running)) ||
    db.lease.any (fun l => l.writerNodeID = node && l.state ≠ .ended) ||
    db.reconciliations.any fun _ r => r.nodeID = node && r.state ≠ .succeeded &&
      r.state ≠ .superseded && r.state ≠ .failed

/-- `FinalizeNodeRetirement`; items of other users may be unfinished, and other users may depend on
the node. -/
def finalizeNodeRetirement (retirementID : UUID) (othersUnfinished othersDepend : Bool) (now : Time)
    (db : Db) : Except StoreError Db := do
  let operation ← need (db.retirements.get? retirementID) .notFound
  let node ← need (db.nodes.get? operation.nodeID) .notFound
  if operation.state = .decommissioned ∧ node.operationalState = .decommissioned then return db
  else do
    require ((operation.state = .migrating ∨ operation.state = .verifying ∨
      operation.state = .blocked) ∧ node.operationalState = .retiring ∧ node.managed)
      .retirementConflict
    require (othersUnfinished = false ∧ db.retirementItems.all fun _ i =>
      i.retirementID ≠ retirementID || i.state = .succeeded || i.state = .superseded)
      .retirementConflict
    if db.dependsOn operation.nodeID || othersDepend then
      return { db with
        retirements := db.retirements.put retirementID { operation with state := .blocked } }
    else do
      require (db.activeGeneration = some operation.controllerGeneration) .retirementConflict
      let db ← revokeNodeAccess operation.nodeID now db
      return { db with
        nodes := db.nodes.put operation.nodeID { node with
          operationalState := .decommissioned, status := .offline, isBackupTarget := false
          hasCredential := false }
        retirements := db.retirements.put retirementID { operation with state := .decommissioned } }

end StControl.Store
