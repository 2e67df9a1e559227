import StControl.Store.Leases

/-!
# Login handoffs

A login is handed to a node by a one-use ticket that is bound to the writer lease.
`createLoginHandoff` establishes or preserves the lease and inserts the ticket in one
transaction; `consumeLoginHandoff` redeems the ticket on the node and renews the lease in one
statement.  Neither looks at the user's home node: which node may be asked for is decided by the
HTTP handler from earlier reads, and reaches the transaction only as `requestedNodeID` and
`existingWriterOnly`.
-/

namespace StControl.Store

open Transaction

structure CreateLoginHandoffParams where
  (operationID jti : UUID)
  secretHash : Digest
  requestedNodeID : NodeID
  sessionID : UUID
  issuer : String
  subject : UUID
  keyID : String
  (ticketTTL leaseTTL : Duration)
  existingWriterOnly : Bool
  now : Time
  deriving DecidableEq

structure LoginHandoff where
  (operationID jti : UUID)
  targetNodeID : NodeID
  nodeBaseURL : String
  (subject sessionID : UUID)
  (activityEpoch controllerGeneration : ℤ)
  expiresAt : Time
  (acquired existing replayed : Bool)
  deriving DecidableEq

def CreateLoginHandoffParams.leaseParams (p : CreateLoginHandoffParams) (generation : ℤ) :
    AcquireActivityLeaseParams where
  operationID := p.operationID
  writerNodeID := p.requestedNodeID
  sessionID := p.sessionID
  controllerGeneration := generation
  ttl := p.leaseTTL
  existingWriterOnly := p.existingWriterOnly
  now := p.now

def ControlTicket.redeemable (t : ControlTicket) (now : Time) : Bool :=
  t.consumedAt.isNone && t.revokedAt.isNone && now < t.expiresAt

/-- The clause on the node that a handoff leads to: an existing writer may be reached on a
draining or retiring node as well. -/
def Node.acceptsLogin (n : Node) (generation : ℤ) (existing : Bool) : Bool :=
  n.role = .compute && n.status = .online && n.connectivityState = .online &&
    n.controllerGeneration = generation && n.compatibilityState = .compatible && n.managed &&
    (n.operationalState = .active ||
      (existing && (n.operationalState = .draining || n.operationalState = .retiring)))

section

variable (p : CreateLoginHandoffParams)

/-- `getLoginHandoffByOperation`: the result of an earlier attempt, while its ticket is usable. -/
def getLoginHandoffByOperation (operation : LeaseOperation) (db : Db) :
    Except StoreError LoginHandoff := do
  let (jti, ticket) ← need (db.tickets.find? fun _ t =>
    t.operationID = p.operationID && t.redeemable p.now) .loginHandoffUnavailable
  let node ← need (db.nodes.get? ticket.targetNodeID) .loginHandoffUnavailable
  return {
    operationID := ticket.operationID, jti, targetNodeID := ticket.targetNodeID
    nodeBaseURL := node.baseURL, subject := ticket.subject, sessionID := ticket.sessionID
    activityEpoch := ticket.activityEpoch, controllerGeneration := ticket.controllerGeneration
    expiresAt := ticket.expiresAt, acquired := operation.outcome = .acquired
    existing := operation.outcome = .existing || operation.outcome = .renewed, replayed := true }

def CreateLoginHandoffParams.ticket (generation : ℤ) (lease : ActivityLease) (node : Node) :
    ControlTicket where
  operationID := p.operationID
  secretHash := p.secretHash
  issuer := p.issuer
  audience := node.baseURL
  subject := p.subject
  targetNodeID := lease.writerNodeID
  sessionID := lease.sessionID
  activityEpoch := lease.activityEpoch
  keyID := p.keyID
  controllerGeneration := generation
  issuedAt := p.now
  notBefore := p.now
  expiresAt := p.now + p.ticketTTL
  consumedAt := none
  revokedAt := none

def createLoginHandoff (db : Db) :
    Except StoreError (LoginHandoff × Db) := do
  require (0 < p.requestedNodeID ∧ p.issuer ≠ "" ∧ p.keyID ≠ "" ∧ 0 < p.ticketTTL ∧
    0 < p.leaseTTL) .invalidInput
  let generation ← need db.activeGeneration .noActiveGeneration
  match ← acquireActivityLeaseLocked (p.leaseParams generation) db with
  | .replayed operation => do
    let handoff ← getLoginHandoffByOperation p operation db
    return (handoff, db)
  | .decided result db' => do
    require (result.lease.controllerGeneration = generation) .staleControllerLease
    let node ← need (db.nodes.get? result.lease.writerNodeID) .loginHandoffUnavailable
    require (node.acceptsLogin generation result.existing) .loginHandoffUnavailable
    require (db.tickets.get? p.jti = none ∧
      db.tickets.all (fun _ t => t.operationID ≠ p.operationID)) .constraintViolation
    return ({
      operationID := p.operationID, jti := p.jti, targetNodeID := result.lease.writerNodeID
      nodeBaseURL := node.baseURL, subject := p.subject, sessionID := result.lease.sessionID
      activityEpoch := result.lease.activityEpoch, controllerGeneration := generation
      expiresAt := p.now + p.ticketTTL, acquired := result.acquired, existing := result.existing
      replayed := false },
      { db' with tickets := db.tickets.put p.jti (p.ticket generation result.lease node) })

end

structure LoginDecision (p : CreateLoginHandoffParams) (db : Db) (generation : ℤ)
    (lease : ActivityLease) (outcome : LeaseOutcome) (node : Node) : Prop where
  current : db.activeGeneration = some generation
  fresh : db.leaseOperations.get? p.operationID = none
  decided : decideLease (p.leaseParams generation) db.lease = .ok (lease, outcome)
  reached : db.nodes.get? lease.writerNodeID = some node
  accepts : node.acceptsLogin generation (outcome = .existing || outcome = .renewed)

lemma createLoginHandoff_commit {p : CreateLoginHandoffParams} {db : Db} :
    Ensures (createLoginHandoff p db) fun r =>
      (r.1.replayed ∧ r.2 = db) ∨
      ∃ generation lease outcome node, LoginDecision p db generation lease outcome node ∧
        r.1.replayed = false ∧ r.1.acquired = decide (outcome = .acquired) ∧
        r.1.targetNodeID = lease.writerNodeID ∧ r.2 = { db with
          lease := some lease, leaseOperations := db.leaseOperations.put p.operationID
            (leaseOperation (p.leaseParams generation) outcome lease)
          tickets := db.tickets.put p.jti (p.ticket generation lease node) } := by
  simp only [createLoginHandoff, ensures_steps]
  intro _ generation hcurrent
  rw [ensures_bind]
  refine acquireActivityLeaseLocked_commit.mono ?_
  rintro answer (⟨operation, rfl⟩ | ⟨lease, outcome, hfresh, hdecided, rfl⟩)
  · simp only [getLoginHandoffByOperation, bind_assoc, pure_bind, ensures_steps]
    intros
    exact .inl ⟨trivial, trivial⟩
  · simp only [ensures_steps]
    intro _ node hnode haccepts _
    exact .inr ⟨generation, lease, outcome, node,
      ⟨hcurrent, hfresh, hdecided, hnode, haccepts⟩, trivial, rfl, rfl, rfl⟩

structure ConsumeLoginHandoffParams where
  jti : UUID
  secretHash : Digest
  nodeID : NodeID
  (expectedIssuer expectedKeyID : String)
  now : Time
  leaseTTL : Duration
  deriving DecidableEq

def ControlTicket.redeemedBy (t : ControlTicket) (p : ConsumeLoginHandoffParams) : Bool :=
  t.targetNodeID = p.nodeID && t.secretHash = p.secretHash && t.notBefore ≤ p.now &&
    t.redeemable p.now && t.issuedAt ≤ p.now && t.issuer = p.expectedIssuer &&
    t.keyID = p.expectedKeyID

def ControlTicket.fence (t : ControlTicket) : LeaseFence where
  writerNodeID := t.targetNodeID
  sessionID := t.sessionID
  activityEpoch := t.activityEpoch
  controllerGeneration := t.controllerGeneration

/-- `ConsumeLoginHandoff`: one statement that consumes the ticket and renews its lease, or
changes nothing. -/
def consumeLoginHandoff (p : ConsumeLoginHandoffParams) (db : Db) : Except StoreError Db := do
  require (0 < p.nodeID ∧ p.expectedIssuer ≠ "" ∧ p.expectedKeyID ≠ "" ∧ 0 < p.leaseTTL)
    .invalidInput
  let ticket ← need (db.tickets.get? p.jti) .loginHandoffUnavailable
  require (ticket.redeemedBy p) .loginHandoffUnavailable
  require (db.activeGeneration = some ticket.controllerGeneration) .loginHandoffUnavailable
  let node ← need (db.nodes.get? ticket.targetNodeID) .loginHandoffUnavailable
  require (node.baseURL = ticket.audience) .loginHandoffUnavailable
  require (db.user.uuid = ticket.subject ∧ db.user.globalStatus = .active)
    .loginHandoffUnavailable
  let account ← need (db.accounts.get? ticket.targetNodeID) .loginHandoffUnavailable
  require (account.status = .active) .loginHandoffUnavailable
  let lease ← need db.lease .loginHandoffUnavailable
  require (lease.matchesFence ticket.fence ∧ lease.state = .active ∧
    p.now < lease.leaseExpiresAt) .loginHandoffUnavailable
  return { db with
    tickets := db.tickets.put p.jti { ticket with consumedAt := some p.now }
    lease := some { lease with lastRequestAt := p.now, leaseExpiresAt := p.now + p.leaseTTL } }

end StControl.Store
