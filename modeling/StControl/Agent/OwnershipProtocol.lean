import Mathlib.Data.Finset.Card
import Mathlib.Data.List.Perm.Basic
import StControl.Agent.OwnershipClaim
import StControl.Foundations.Quorum
import StControl.Foundations.Run

/-!
# The peer-quorum ownership protocol

While the controller is away, the agents decide among themselves who owns the activity of a
handle.  This module embeds the stateful part of `activity_ownership.go` as a transition system
over a whole cluster: the durable state of every agent, the messages in flight and the requests
being served, each request at the point of the code it has reached.

Every step is one critical section of the source (one hold of `stateMu`), one message sent,
delivered or lost, or one local decision, so an interleaving of the real program is a list of
`Act`s.  Reads that the source makes in separate critical sections are separate steps here.

* A quorum query (`queryOwnershipQuorum`) is a task in phase `collecting`.
* A user-confirmed takeover (`performUserConfirmedTakeover`) is a task with a `request`; it
  holds the agent-wide `ownershipTakeoverMu` from its start to its end.
* A controller grant (`recordControllerOwnershipGrant`) ignores the answers to its broadcast, so
  nothing of it remains after its messages are sent.

Saves succeed and happen inside the critical section that changes the state, so a restart loses
exactly the tasks and half-served requests of the node (`Act.restart`).  Authentication failures,
clock skew, timeouts and connection errors all look alike to the caller: a call without a valid
answer (`Act.failCall`) or a message that never arrives (`Act.lose`).

`World.log` records what happened, newest first; no step reads it.
-/

namespace StControl.Agent

/-! ## State -/

/-- `ownershipTakeoverOperation`: an entry of the takeover journal. -/
structure OwnershipTakeoverOperation where
  (operationID parentClaimID : String)
  claim : ActivityOwnershipClaim
  (succeeded audited : Bool)
  updatedAt : ℤ
  deriving DecidableEq

structure OwnershipTakeoverRequest where
  (handle parentClaimID operationID : String)
  deriving DecidableEq

/-- `maxOwnershipTakeovers`: the journal's capacity. -/
def maxOwnershipTakeovers : ℕ := 1000

/-- The part of an agent's runtime state that the protocol uses.  `independent` says that the
control mode is `independent`, which the two adapter routes require. -/
structure NodeState where
  activityOwnership : String → Option ActivityOwnershipClaim
  ownershipTakeovers : List OwnershipTakeoverOperation
  independent : Bool

/-- What a message says.  `observed` never travels: it is the peer's half-served observation,
between its two critical sections. -/
inductive Body
  | query (handle : String)
  | queryReply (claim : Option ActivityOwnershipClaim) (adapterAvailable : Bool)
  | observe (claim : ActivityOwnershipClaim)
  | observed (claim : ActivityOwnershipClaim) (accepted : Bool)
  | observeReply (claim : Option ActivityOwnershipClaim) (accepted : Bool)
  deriving DecidableEq

/-- A message of the call group `call`.  The source of a reply is the witness that answers. -/
structure Message where
  (source destination : NodeID)
  call : ℕ
  body : Body
  deriving DecidableEq

def Message.reply (m : Message) (body : Body) : Message :=
  { source := m.destination, destination := m.source, call := m.call, body }

/-- The decisions of an `ownershipResolveResponse` that is OK. -/
inductive Decision
  | automatic | ownerAvailable | takeoverRequired
  deriving DecidableEq

inductive Phase
  /-- A quorum query: whether the local claim has been read, the claims and the availability
  collected so far, and the peers whose result is still awaited. -/
  | collecting (localRead : Bool) (claims : List (NodeID × ActivityOwnershipClaim))
      (availability : List (NodeID × Bool)) (waiting : List NodeID)
  /-- The takeover's query confirmed its precondition. -/
  | confirmed
  /-- The takeover has read its parent claim. -/
  | parentRead (parent : ActivityOwnershipClaim)
  /-- The child claim is applied locally. -/
  | applied (claim : ActivityOwnershipClaim)
  /-- The operation is in the journal. -/
  | journaled (operation : OwnershipTakeoverOperation)
  /-- The claim is being broadcast: the nodes that accepted it, and the peers still awaited. -/
  | broadcasting (operation : OwnershipTakeoverOperation) (nodes : Finset NodeID)
      (waiting : List NodeID)
  /-- Enough nodes accepted. -/
  | acknowledged (operation : OwnershipTakeoverOperation)
  /-- The journal entry is marked as succeeded. -/
  | succeeded (operation : OwnershipTakeoverOperation)
  deriving DecidableEq

/-- A request being served by `node`; its messages carry `call`. -/
structure Task where
  call : ℕ
  node : NodeID
  handle : String
  request : Option OwnershipTakeoverRequest
  phase : Phase
  deriving DecidableEq

def Task.moveTo (t : Task) (phase : Phase) : Task := { t with phase }

inductive Event
  | minted (claim : ActivityOwnershipClaim)
  | adopted (node : NodeID) (claim : ActivityOwnershipClaim)
  | queryStarted (node : NodeID) (call : ℕ) (handle : String)
  | queryOK (node : NodeID) (call : ℕ) (claim : ActivityOwnershipClaim) (decision : Decision)
  | takeoverCommitted (node : NodeID) (claim : ActivityOwnershipClaim)
  deriving DecidableEq

structure World where
  nodes : NodeID → NodeState
  network : List Message
  tasks : List Task
  nextCall : ℕ
  log : List Event

structure Cluster where
  members : List NodeID
  nodup : members.Nodup

/-- `Cfg.Disaster.PeerWitnessURLs` of a node. -/
def Cluster.peers (cluster : Cluster) (n : NodeID) : List NodeID := cluster.members.erase n

/-- The number of matching nodes a decision requires: `(len(peers)+1)/2 + 1`. -/
def Cluster.required (cluster : Cluster) (n : NodeID) : ℕ :=
  ((cluster.peers n).length + 1) / 2 + 1

def World.init : World where
  nodes _ := { activityOwnership := fun _ => none, ownershipTakeovers := [], independent := false }
  network := []
  tasks := []
  nextCall := 0
  log := []

/-! ## Primitive updates -/

namespace World

section

variable (w : World)

def record (e : Event) : World := { w with log := e :: w.log }

def send (ms : List Message) : World := { w with network := ms ++ w.network }

def drop (m : Message) : World := { w with network := w.network.erase m }

def setNode (n : NodeID) (st : NodeState) : World :=
  { w with nodes := fun m => if m = n then st else w.nodes m }

def endTask (call : ℕ) : World :=
  { w with tasks := w.tasks.filter (·.call ≠ call) }

def putTask (t : Task) : World :=
  { w with tasks := t :: w.tasks.filter (·.call ≠ t.call) }

def newTask (n : NodeID) (handle : String) (request : Option OwnershipTakeoverRequest)
    (phase : Phase) : World :=
  { w with
    tasks := { call := w.nextCall, node := n, handle, request, phase } :: w.tasks
    nextCall := w.nextCall + 1 }

def task? (call : ℕ) : Option Task := w.tasks.find? (·.call = call)

end

end World

/-! ## Claims -/

namespace NodeState

def store (st : NodeState) (claim : ActivityOwnershipClaim) : NodeState :=
  { st with activityOwnership := fun h =>
      if h = claim.handle then some claim else st.activityOwnership h }

/-- `applyActivityOwnershipClaim`: the state afterwards and whether the claim is accepted.  An
invalid claim is an error in the source; no caller tells that error from a refusal. -/
def applyActivityOwnershipClaim (env : Env) (st : NodeState) (claim : ActivityOwnershipClaim)
    (requireParent : Bool) : NodeState × Bool :=
  if validateActivityOwnershipClaim env claim = false then (st, false)
  else match st.activityOwnership claim.handle with
    | some current =>
      if current.claimID = claim.claimID then (st, true)
      else if requireParent && current.claimID != claim.parentClaimID then (st, false)
      else if compareActivityOwnership claim current = .newer then (st.store claim, true)
      else (st, false)
    | none => if requireParent then (st, false) else (st.store claim, true)

def operation? (st : NodeState) (operationID : String) : Option OwnershipTakeoverOperation :=
  st.ownershipTakeovers.find? (·.operationID = operationID)

def putOperation (st : NodeState) (operation : OwnershipTakeoverOperation) : NodeState :=
  { st with ownershipTakeovers :=
      operation :: st.ownershipTakeovers.filter (·.operationID ≠ operation.operationID) }

end NodeState

def World.apply (env : Env) (w : World) (n : NodeID) (claim : ActivityOwnershipClaim)
    (requireParent : Bool) : World × Bool :=
  let result := (w.nodes n).applyActivityOwnershipClaim env claim requireParent
  let w' := w.setNode n result.1
  if result.1.activityOwnership claim.handle = some claim ∧
      (w.nodes n).activityOwnership claim.handle ≠ some claim then
    (w'.record (.adopted n claim), result.2)
  else (w', result.2)

/-- One round of the loop of `queryOwnershipQuorum` over the collected claims: the maximal claim
so far and whether another identity stands at the same place.  A strictly newer claim clears the
conflict. -/
def maximalStep (best : Option (ActivityOwnershipClaim × Bool)) (claim : ActivityOwnershipClaim) :
    Option (ActivityOwnershipClaim × Bool) :=
  match best with
  | none => some (claim, false)
  | some (maximal, conflict) =>
    match compareActivityOwnership claim maximal with
    | .newer => some (claim, false)
    | .conflict => some (maximal, true)
    | _ => some (maximal, conflict)

def maximalOwnership (claims : List ActivityOwnershipClaim) :
    Option (ActivityOwnershipClaim × Bool) :=
  claims.foldl maximalStep none

/-- The nodes counted for the maximal claim: the node itself, which has adopted it, and every
node that reported the same identity. -/
def matchingNodes (self : NodeID) (claims : List (NodeID × ActivityOwnershipClaim))
    (maximal : ActivityOwnershipClaim) : Finset NodeID :=
  insert self ((claims.filter (·.2.claimID = maximal.claimID)).map (·.1)).toFinset

def ownershipDecision (self : NodeID) (availability : List (NodeID × Bool))
    (maximal : ActivityOwnershipClaim) : Decision :=
  if maximal.ownerNodeID = self then .automatic
  else if availability.lookup maximal.ownerNodeID = some true then .ownerAvailable
  else .takeoverRequired

/-! ## Actions -/

inductive Act
  | setMode (n : NodeID) (independent : Bool)
  | grant (n : NodeID) (handle : String) (controllerGeneration activityEpoch now : ℤ)
  | resolve (n : NodeID) (handle : String)
  | takeover (n : NodeID) (request : OwnershipTakeoverRequest)
  | lose (m : Message)
  | answerQuery (m : Message) (adapterAvailable : Bool)
  | observe (m : Message)
  | answerObserve (m : Message)
  | readLocal (call : ℕ)
  | receive (call : ℕ) (m : Message)
  | failCall (call : ℕ) (peer : NodeID)
  | giveUp (call : ℕ)
  | finishQuery (call : ℕ) (order : List (NodeID × ActivityOwnershipClaim))
  | readParent (call : ℕ)
  | applyChild (call : ℕ) (now : ℤ)
  | journal (call : ℕ) (now : ℤ)
  | broadcast (call : ℕ)
  | finishBroadcast (call : ℕ)
  | markSucceeded (call : ℕ) (now : ℤ)
  | audit (call : ℕ) (appended : Bool) (now : ℤ)
  | acknowledgeTakeovers (n : NodeID) (operations : List String)
  | restart (n : NodeID)

variable (env : Env) (cluster : Cluster)

namespace World

def callPeers (n : NodeID) (call : ℕ) (body : Body) : List Message :=
  (cluster.peers n).map fun p => { source := n, destination := p, call, body }

section

variable (w : World)

section

variable (n : NodeID)

/-- `recordControllerOwnershipGrant`: the claim is broadcast whether or not it was stored. -/
def grant (handle : String) (controllerGeneration activityEpoch now : ℤ) : Option World :=
  (makeActivityOwnershipClaim env (env.toLower handle) n controllerGeneration activityEpoch 0
    .controllerGrant "" "" now).map fun claim =>
      let w := ((w.record (.minted claim)).apply env n claim false).1
      { w.send (callPeers cluster n w.nextCall (.observe claim)) with nextCall := w.nextCall + 1 }

/-- The start of `queryOwnershipQuorum`: one query to every peer. -/
def startQuery (handle : String) (request : Option OwnershipTakeoverRequest) : World :=
  ((w.record (.queryStarted n w.nextCall handle)).send
    (callPeers cluster n w.nextCall (.query handle))).newTask n handle request
      (.collecting false [] [] (cluster.peers n))

/-- `handleAdapterOwnershipResolve`. -/
def resolve (handle : String) : Option World :=
  if validOwnershipHandle env handle && (w.nodes n).independent &&
      !(cluster.peers n).isEmpty then
    some (w.startQuery cluster n handle none)
  else none

/-- `handleAdapterOwnershipTakeover` up to the lookup in the journal.  A second takeover on the
node waits for the first: it is not enabled while another one is being served. -/
def takeover (request : OwnershipTakeoverRequest) : Option World :=
  if validOwnershipHandle env request.handle && validOwnershipDigest request.parentClaimID &&
      validUUID request.operationID && (w.nodes n).independent &&
      w.tasks.all fun t => !(t.node == n && t.request.isSome) then
    match (w.nodes n).operation? request.operationID with
    | some operation =>
      if operation.claim.handle = request.handle ∧
          operation.parentClaimID = request.parentClaimID then
        some (w.newTask n request.handle (some request) (.journaled operation))
      else none
    | none =>
      if (cluster.peers n).isEmpty then none
      else some (w.startQuery cluster n request.handle (some request))
  else none

/-- `handlePeerOwnershipQuery`. -/
def answerQuery (m : Message) (adapterAvailable : Bool) : Option World :=
  match m.body with
  | .query handle =>
    if m ∈ w.network ∧ validOwnershipHandle env handle then
      some ((w.drop m).send [m.reply
        (.queryReply ((w.nodes m.destination).activityOwnership handle) adapterAvailable)])
    else none
  | _ => none

/-- `handlePeerOwnershipObserve`, first critical section: apply the claim.  A takeover claim is
accepted only over its parent. -/
def observe (m : Message) : Option World :=
  match m.body with
  | .observe claim =>
    if m ∈ w.network ∧ validateActivityOwnershipClaim env claim then
      let applied := (w.drop m).apply env m.destination claim
        (claim.kind = .userConfirmedTakeover)
      some (applied.1.send [{ m with body := .observed claim applied.2 }])
    else none
  | _ => none

/-- `handlePeerOwnershipObserve`, second critical section: read the current claim back. -/
def answerObserve (m : Message) : Option World :=
  match m.body with
  | .observed claim accepted =>
    if m ∈ w.network then
      some ((w.drop m).send [m.reply
        (.observeReply ((w.nodes m.destination).activityOwnership claim.handle) accepted)])
    else none
  | _ => none

section

variable (call : ℕ)

def readLocal : Option World :=
  (w.task? call).bind fun t =>
    match t.phase with
    | .collecting false claims availability waiting =>
      match (w.nodes t.node).activityOwnership t.handle with
      | some claim => some (w.putTask (t.moveTo
          (.collecting true ((t.node, claim) :: claims) ((t.node, true) :: availability) waiting)))
      | none => some (w.putTask (t.moveTo (.collecting true claims availability waiting)))
    | _ => none

def receive (m : Message) : Option World :=
  (w.task? call).bind fun t =>
    if m ∈ w.network ∧ m.call = call ∧ m.destination = t.node ∧ m.source ≠ t.node then
      match t.phase, m.body with
      | .collecting true claims availability waiting, .queryReply reply available =>
        if m.source ∈ waiting then
          let waiting := waiting.erase m.source
          let availability' := (m.source, available) :: availability
          match reply with
          | none => some ((w.drop m).putTask
              (t.moveTo (.collecting true claims availability' waiting)))
          | some claim =>
            if validateActivityOwnershipClaim env claim then
              some ((w.drop m).putTask (t.moveTo
                (.collecting true ((m.source, claim) :: claims) availability' waiting)))
            else some ((w.drop m).putTask (t.moveTo (.collecting true claims availability waiting)))
        else none
      | .broadcasting operation nodes waiting, .observeReply reply accepted =>
        if m.source ∈ waiting then
          let waiting := waiting.erase m.source
          match reply with
          | some claim =>
            if accepted && claim.claimID == operation.claim.claimID &&
                validateActivityOwnershipClaim env claim then
              some ((w.drop m).putTask
                (t.moveTo (.broadcasting operation (insert m.source nodes) waiting)))
            else some ((w.drop m).putTask (t.moveTo (.broadcasting operation nodes waiting)))
          | none => some ((w.drop m).putTask (t.moveTo (.broadcasting operation nodes waiting)))
        else none
      | _, _ => none
    else none

def failCall (peer : NodeID) : Option World :=
  (w.task? call).bind fun t =>
    match t.phase with
    | .collecting true claims availability waiting =>
      some (w.putTask (t.moveTo (.collecting true claims availability (waiting.erase peer))))
    | .broadcasting operation nodes waiting =>
      some (w.putTask (t.moveTo (.broadcasting operation nodes (waiting.erase peer))))
    | _ => none

def giveUp : Option World :=
  (w.task? call).bind fun t =>
    match t.phase with
    | .collecting true _ _ _ => some (w.endTask call)
    | _ => none

/-- What a query that returns OK means for the request it serves: a resolve request is answered,
a takeover goes on if its precondition is confirmed. -/
def settle (t : Task) (maximal : ActivityOwnershipClaim) (decision : Decision) : World :=
  let w := w.record (.queryOK t.node t.call maximal decision)
  match t.request with
  | none => w.endTask t.call
  | some request =>
    if decision = .takeoverRequired ∧ maximal.claimID = request.parentClaimID then
      w.putTask (t.moveTo .confirmed)
    else w.endTask t.call

/-- The end of `queryOwnershipQuorum`, once every call has a result: find the maximal claim in
the map's arbitrary iteration order, adopt it, count the matching nodes and decide. -/
def finishQuery (order : List (NodeID × ActivityOwnershipClaim)) : Option World :=
  (w.task? call).bind fun t =>
    match t.phase with
    | .collecting true claims availability [] =>
      if order.Perm claims then
        match maximalOwnership (order.map (·.2)) with
        | some (maximal, false) =>
          let applied := w.apply env t.node maximal false
          if applied.2 ∧
              cluster.required t.node ≤ (matchingNodes t.node claims maximal).card then
            some (applied.1.settle t maximal (ownershipDecision t.node availability maximal))
          else some (applied.1.endTask call)
        | _ => some (w.endTask call)
      else none
    | _ => none

/-- `performUserConfirmedTakeover`: read the parent claim. -/
def readParent : Option World :=
  (w.task? call).bind fun t =>
    match t.phase, t.request with
    | .confirmed, some request =>
      match (w.nodes t.node).activityOwnership t.handle with
      | some parent =>
        if parent.claimID = request.parentClaimID then
          some (w.putTask (t.moveTo (.parentRead parent)))
        else some (w.endTask call)
      | none => some (w.endTask call)
    | _, _ => none

/-- `performUserConfirmedTakeover`: make the child claim and apply it over its parent. -/
def applyChild (now : ℤ) : Option World :=
  (w.task? call).bind fun t =>
    match t.phase, t.request with
    | .parentRead parent, some request =>
      match makeActivityOwnershipClaim env request.handle t.node parent.controllerGeneration
          parent.activityEpoch (int64Succ parent.takeoverSequence) .userConfirmedTakeover
          parent.claimID request.operationID now with
      | some claim =>
        let applied := (w.record (.minted claim)).apply env t.node claim true
        if applied.2 then some (applied.1.putTask (t.moveTo (.applied claim)))
        else some (applied.1.endTask call)
      | none => some (w.endTask call)
    | _, _ => none

/-- `performUserConfirmedTakeover`: write the journal entry, unless the journal is full. -/
def journal (now : ℤ) : Option World :=
  (w.task? call).bind fun t =>
    match t.phase, t.request with
    | .applied claim, some request =>
      if maxOwnershipTakeovers ≤ (w.nodes t.node).ownershipTakeovers.length then
        some (w.endTask call)
      else
        let operation : OwnershipTakeoverOperation :=
          { operationID := request.operationID, parentClaimID := claim.parentClaimID, claim,
            succeeded := false, audited := false, updatedAt := now }
        some ((w.setNode t.node ((w.nodes t.node).putOperation operation)).putTask
          (t.moveTo (.journaled operation)))
    | _, _ => none

/-- `broadcastOwnershipClaim` starts, unless the operation had already succeeded. -/
def broadcast : Option World :=
  (w.task? call).bind fun t =>
    match t.phase with
    | .journaled operation =>
      if operation.succeeded then some (w.putTask (t.moveTo (.succeeded operation)))
      else some ((w.send (callPeers cluster t.node call (.observe operation.claim))).putTask
        (t.moveTo (.broadcasting operation {t.node} (cluster.peers t.node))))
    | _ => none

/-- `broadcastOwnershipClaim` returns, with all results or because its time is up. -/
def finishBroadcast : Option World :=
  (w.task? call).bind fun t =>
    match t.phase with
    | .broadcasting operation nodes _ =>
      if cluster.required t.node ≤ nodes.card then
        some (w.putTask (t.moveTo (.acknowledged operation)))
      else some (w.endTask call)
    | _ => none

/-- `performUserConfirmedTakeover`: mark the journal entry as succeeded. -/
def markSucceeded (now : ℤ) : Option World :=
  (w.task? call).bind fun t =>
    match t.phase with
    | .acknowledged operation =>
      match (w.nodes t.node).operation? operation.operationID with
      | some current =>
        let current := { current with succeeded := true, updatedAt := now }
        some ((w.setNode t.node ((w.nodes t.node).putOperation current)).putTask
          (t.moveTo (.succeeded current)))
      | none => none
    | _ => none

/-- `ensureOwnershipTakeoverAudit` and the answer `takeover_committed`.  `appended` says whether
the local audit record could be written. -/
def audit (appended : Bool) (now : ℤ) : Option World :=
  (w.task? call).bind fun t =>
    match t.phase with
    | .succeeded operation =>
      if operation.audited then
        some ((w.record (.takeoverCommitted t.node operation.claim)).endTask call)
      else if appended then
        match (w.nodes t.node).operation? operation.operationID with
        | some current =>
          if current.claim.claimID = operation.claim.claimID ∧ current.succeeded then
            some (((w.setNode t.node ((w.nodes t.node).putOperation
              { current with audited := true, updatedAt := now })).record
                (.takeoverCommitted t.node operation.claim)).endTask call)
          else some (w.endTask call)
        | none => some (w.endTask call)
      else some (w.endTask call)
    | _ => none

end

/-- `recordControllerSuccess`: operations the controller has acknowledged leave the journal. -/
def acknowledgeTakeovers (operations : List String) : World :=
  let kept := (w.nodes n).ownershipTakeovers.filter fun op =>
    !(op.operationID ∈ operations && op.succeeded && op.audited)
  w.setNode n { w.nodes n with ownershipTakeovers := kept }

def restart : World :=
  { w with
    tasks := w.tasks.filter (·.node ≠ n)
    network := w.network.filter fun m =>
      match m.body with
      | .observed _ _ => m.destination ≠ n
      | _ => true }

end

end

end World

def step (w : World) : Act → Option World
  | .setMode n independent => some (w.setNode n { w.nodes n with independent })
  | .grant n handle generation epoch now =>
    if n ∈ cluster.members then w.grant env cluster n handle generation epoch now else none
  | .resolve n handle => if n ∈ cluster.members then w.resolve env cluster n handle else none
  | .takeover n request => if n ∈ cluster.members then w.takeover env cluster n request else none
  | .lose m => if m ∈ w.network then some (w.drop m) else none
  | .answerQuery m available => w.answerQuery env m available
  | .observe m => w.observe env m
  | .answerObserve m => w.answerObserve m
  | .readLocal call => w.readLocal call
  | .receive call m => w.receive env call m
  | .failCall call peer => w.failCall call peer
  | .giveUp call => w.giveUp call
  | .finishQuery call order => w.finishQuery env cluster call order
  | .readParent call => w.readParent call
  | .applyChild call now => w.applyChild env call now
  | .journal call now => w.journal call now
  | .broadcast call => w.broadcast cluster call
  | .finishBroadcast call => w.finishBroadcast cluster call
  | .markSucceeded call now => w.markSucceeded call now
  | .audit call appended now => w.audit call appended now
  | .acknowledgeTakeovers n operations => some (w.acknowledgeTakeovers n operations)
  | .restart n => some (w.restart n)

end StControl.Agent
