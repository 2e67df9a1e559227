import StControl.Controller.Executor

/-!
# The queue of agent commands

The controller never calls an agent.  A step of a workflow that needs one puts a command into
`agent_commands`, under an operation identity that is derived from the workflow and the step, and
waits for the row to end; the agent leases the command, acknowledges it, executes it and reports the
result into the row.

The operation identity is what makes a repetition harmless: the table has one row for each, and a
request for a row that is there is either the same request, which is answered by the row as it
stands, or a conflict.  Only with `RequeueRetryableTerminal` is a row that has failed or expired
made new, and the steps of the workflows do not ask for that.

The identity is a digest of the workflow and a text for the step (`deriveWorkflowOperationID`); it
is taken to be injective, so an `OperationID` consists of what goes into it.  Likewise the digest
of a payload is a keyed hash under the credential of the agent, and a `PayloadDigest` is the pair.
-/

namespace StControl.Controller

open Store Run Option Table

/-! ## Commands, steps and their identities -/

/-- `command_type`, for the commands that the workflows send. -/
inductive CommandType
  | prepareSnapshotReceive | startSnapshot | startRelayReceive | getSnapshotReceipt
  | restoreUserAccount | startRestoreTransfer | startConflictEvidenceTransfer
  | prepareConflictResolution | applyConflictResolutionDecisions | publishConflictResolution
  deriving DecidableEq

def CommandType.whileDraining : CommandType → Bool
  | .restoreUserAccount | .startRestoreTransfer => false
  | _ => true

/-- The steps of `executeSnapshotWorkflow`, `executeRestoreWorkflow` and
`executeConflictResolution` that wait for a command, each with what its operation identity is made
of besides the workflow and the attempt.  Evidence stands under the node that it comes from, and a
relay task under the attempt that it is derived from. -/
inductive CommandStep
  | snapshotAccount (accountVersion : ℤ)
  | prepareTarget (capabilityID : UUID)
  | startSource (capabilityID : UUID)
  | targetReceipt (capabilityID : UUID)
  | generationRecoveryReceipt (generation : ℤ) (capabilityID : UUID)
  | prepareRelayTarget (capabilityID : UUID)
  | receiveRelay | startRelaySource
  | restoreAccount (accountVersion : ℤ)
  | prepareRestore (capabilityID : UUID)
  | startRestore (capabilityID : UUID)
  | restoreReceipt (capabilityID : UUID)
  | prepareEvidence (capabilityID : UUID)
  | transferEvidence (source : NodeID) (capabilityID : UUID)
  | evidenceReceipt (capabilityID : UUID)
  | prepareRelayEvidence (source : NodeID)
  | uploadRelayEvidence (source : NodeID)
  | receiveRelayEvidence (source : NodeID)
  | prepareResolution
  | resolutionDecisions (page : ℕ)
  | publishResolution
  deriving DecidableEq

namespace CommandStep

def workflowType : CommandStep → WorkflowType
  | .snapshotAccount _ | .prepareTarget _ | .startSource _ | .targetReceipt _
  | .generationRecoveryReceipt _ _ | .prepareRelayTarget _ | .receiveRelay
  | .startRelaySource => .snapshot
  | .restoreAccount _ | .prepareRestore _ | .startRestore _ | .restoreReceipt _ => .restore
  | _ => .conflictResolution

def commandType : CommandStep → CommandType
  | .snapshotAccount _ | .restoreAccount _ => .restoreUserAccount
  | .prepareTarget _ | .prepareRelayTarget _ | .prepareRestore _ | .prepareEvidence _
  | .prepareRelayEvidence _ => .prepareSnapshotReceive
  | .startSource _ | .startRelaySource => .startSnapshot
  | .targetReceipt _ | .generationRecoveryReceipt _ _ | .restoreReceipt _
  | .evidenceReceipt _ => .getSnapshotReceipt
  | .receiveRelay | .receiveRelayEvidence _ => .startRelayReceive
  | .startRestore _ => .startRestoreTransfer
  | .transferEvidence _ _ | .uploadRelayEvidence _ => .startConflictEvidenceTransfer
  | .prepareResolution => .prepareConflictResolution
  | .resolutionDecisions _ => .applyConflictResolutionDecisions
  | .publishResolution => .publishConflictResolution

def addressee (w : Workflow) : CommandStep → NodeID
  | .startSource _ | .startRelaySource | .startRestore _ => w.sourceNodeID
  | .transferEvidence source _ | .uploadRelayEvidence source => source
  | _ => w.targetNodeID

/-- The capability of the workflow that the identity of the step names.  The capabilities of
evidence transfers are kept elsewhere. -/
def capabilityID : CommandStep → Option UUID
  | .prepareTarget capabilityID | .startSource capabilityID | .targetReceipt capabilityID
  | .generationRecoveryReceipt _ capabilityID | .prepareRelayTarget capabilityID
  | .prepareRestore capabilityID | .startRestore capabilityID
  | .restoreReceipt capabilityID => some capabilityID
  | _ => none

def namesAttempt : CommandStep → Bool
  | .prepareRestore _ | .startRestore _ | .prepareEvidence _ | .transferEvidence _ _
  | .evidenceReceipt _ | .prepareResolution | .resolutionDecisions _ | .publishResolution => false
  | _ => true

end CommandStep

structure OperationID where
  workflowID : UUID
  step : CommandStep
  attempt : Option ℤ
  deriving DecidableEq

/-- `deriveWorkflowOperationID`, with the text that the step puts together. -/
def deriveWorkflowOperationID (workflowID : UUID) (step : CommandStep) (attempt : ℤ) :
    OperationID where
  workflowID
  step
  attempt := if step.namesAttempt then some attempt else none

/-- The authenticator of a payload: the text under the key that is derived from a credential of the
agent. -/
structure PayloadDigest where
  credential : ℕ
  plaintext : String
  deriving DecidableEq

/-- `agent_commands.state`. -/
inductive CommandState
  | queued | leased | acked | running | succeeded | failed | cancelled | expired
  deriving DecidableEq

def CommandState.ended : CommandState → Bool
  | .succeeded | .failed | .cancelled | .expired => true
  | _ => false

def CommandState.reported : CommandState → Bool
  | .succeeded | .failed => true
  | _ => false

def CommandState.taken : CommandState → Bool
  | .leased | .acked | .running => true
  | _ => false

structure CommandSummary where
  ok : Bool
  code : String
  deriving DecidableEq

/-- A row of `agent_commands`. -/
structure AgentCommand where
  id : UUID
  nodeID : NodeID
  commandType : CommandType
  payloadSHA256 : PayloadDigest
  state : CommandState
  attempt : ℕ
  leaseOwner : Option UUID
  leaseUntil : Option Time
  resultSummary : Option CommandSummary
  controllerGeneration : ℤ
  expiresAt : Time
  deriving DecidableEq

/-- `agent_commands`, by the operation identity. -/
abbrev AgentCommands := Table OperationID AgentCommand

/-! ## The statements of the queue -/

structure EnqueueAgentCommandParams where
  id : UUID
  operationID : OperationID
  nodeID : NodeID
  commandType : CommandType
  payloadSHA256 : PayloadDigest
  (expiresAt now : Time)
  expectedControllerGeneration : ℤ
  requeueRetryableTerminal : Bool

inductive CommandError
  | invalidAgentCommand | agentCommandConflict | noActiveController | credentialUnavailable
  deriving DecidableEq

section

variable (p : EnqueueAgentCommandParams)

def EnqueueAgentCommandParams.row (generation : ℤ) : AgentCommand where
  id := p.id
  nodeID := p.nodeID
  commandType := p.commandType
  payloadSHA256 := p.payloadSHA256
  state := .queued
  attempt := 0
  leaseOwner := none
  leaseUntil := none
  resultSummary := none
  controllerGeneration := generation
  expiresAt := p.expiresAt

/-- The generation that the `SELECT` of the insertion finds. -/
def EnqueueAgentCommandParams.generation (activeGeneration : Option ℤ) : Option ℤ :=
  activeGeneration.filter fun g =>
    p.expectedControllerGeneration = 0 || g = p.expectedControllerGeneration

def AgentCommand.sameRequest (row : AgentCommand) (p : EnqueueAgentCommandParams) : Bool :=
  row.nodeID = p.nodeID && row.commandType = p.commandType && row.payloadSHA256 = p.payloadSHA256

/-- The `WHERE` of `ON CONFLICT … DO UPDATE`. -/
def AgentCommand.requeues (row : AgentCommand) (p : EnqueueAgentCommandParams)
    (generation : ℤ) : Bool :=
  row.sameRequest p && row.controllerGeneration = generation && p.requeueRetryableTerminal &&
    (row.state = .failed || row.state = .expired)

def enqueueAgentCommand (activeGeneration : Option ℤ) (commands : AgentCommands) :
    Except CommandError AgentCommands :=
  if p.nodeID ≤ 0 ∨ p.expectedControllerGeneration < 0 ∨ p.expiresAt ≤ p.now then
    .error .invalidAgentCommand
  else
    match commands.get? p.operationID, p.generation activeGeneration with
    | none, none => .error .noActiveController
    | none, some generation => .ok (commands.put p.operationID (p.row generation))
    | some row, generation =>
      if generation.any (row.requeues p) then
        .ok (commands.put p.operationID { row with
          id := p.id, state := .queued, attempt := 0, leaseOwner := none, leaseUntil := none
          resultSummary := none, expiresAt := p.expiresAt })
      else if row.sameRequest p ∧ (p.expectedControllerGeneration ≤ 0 ∨
          row.controllerGeneration = p.expectedControllerGeneration) then
        .ok commands
      else .error .agentCommandConflict

end

def AgentCommand.leasable (row : AgentCommand) (now : Time) : Bool :=
  (row.state = .queued && now < row.expiresAt) ||
    (row.state.taken && row.leaseUntil.any fun t => t ≤ now)

/-- `LeaseAgentCommand`, for the row that it picks. -/
def leaseAgentCommand (operationID : OperationID) (workerID : UUID) (now : Time)
    (leaseTTL : Duration) (db : Db) (commands : AgentCommands) : Option AgentCommands := do
  let row ← commands.get? operationID
  let node ← db.nodes.get? row.nodeID
  if 0 < leaseTTL ∧ db.activeGeneration = some row.controllerGeneration ∧
      node.controllerGeneration = row.controllerGeneration ∧
      (node.controlMode = .managed ∨
        (node.controlMode = .independentDraining ∧ row.commandType.whileDraining)) ∧
      row.leasable now then
    some (commands.put operationID { row with
      state := .leased, leaseOwner := some workerID, leaseUntil := some (now + leaseTTL)
      attempt := row.attempt + 1 })
  else none

def AgentCommand.heldBy (row : AgentCommand) (id : UUID) (nodeID : NodeID) (workerID : UUID)
    (generation : ℤ) : Bool :=
  row.id = id && row.nodeID = nodeID && row.leaseOwner = some workerID &&
    row.controllerGeneration = generation

/-- `AckAgentCommand`, where it finds the row. -/
def ackAgentCommand (id : UUID) (nodeID : NodeID) (workerID : UUID) (generation : ℤ) (now : Time)
    (runTTL : Duration) (commands : AgentCommands) : Option AgentCommands :=
  let acked := fun (_ : OperationID) (row : AgentCommand) =>
    row.heldBy id nodeID workerID generation &&
      (row.state = .leased || row.state = .running) && row.leaseUntil.any fun t => now < t
  if commands.any acked then
    some (commands.update acked fun row =>
      { row with state := .running, leaseUntil := some (now + runTTL) })
  else none

def clampAgentCommandRunLeases (nodeID : NodeID) (now : Time) (maxTTL : Duration)
    (commands : AgentCommands) : AgentCommands :=
  commands.update
    (fun _ row => row.nodeID = nodeID && (row.state = .acked || row.state = .running) &&
      row.leaseUntil.any fun t => now + maxTTL < t)
    fun row => { row with leaseUntil := some (now + maxTTL) }

def finishAgentCommand (id : UUID) (nodeID : NodeID) (workerID : UUID) (generation : ℤ)
    (succeeded : Bool) (summary : CommandSummary) (commands : AgentCommands) : AgentCommands :=
  commands.update
    (fun _ row => row.heldBy id nodeID workerID generation && row.state.taken)
    fun row => { row with
      state := if succeeded then .succeeded else .failed
      resultSummary := some summary, leaseOwner := none, leaseUntil := none }

/-- The statement with which the activation of a credential and the revocation of a node end the
commands of the node. -/
def expireNodeCommands (nodeID : NodeID) (commands : AgentCommands) : AgentCommands :=
  commands.update (fun _ row => row.nodeID = nodeID && !row.state.ended)
    fun row => { row with state := .expired }

/-- The update in `GetAgentCommandResult`. -/
def expireQueuedCommand (operationID : OperationID) (now : Time) (commands : AgentCommands) :
    AgentCommands :=
  commands.update
    (fun op row => op = operationID && row.state = .queued && row.expiresAt ≤ now)
    fun row => { row with state := .expired }

/-! ## What the statements do to a row -/

/-- The row is the same command for the same request, and if it has a result then it had one before,
or the command is one of `executed`. -/
structure AgentCommand.Advances (executed : List UUID) (row row' : AgentCommand) : Prop where
  id : row'.id = row.id
  request : row'.nodeID = row.nodeID ∧ row'.commandType = row.commandType ∧
    row'.payloadSHA256 = row.payloadSHA256
  reported : row'.state.reported → row.state.reported ∨ row.id ∈ executed

abbrev QueueAdvances (executed : List UUID) (commands commands' : AgentCommands) : Prop :=
  Rel (fun _ => AgentCommand.Advances executed) commands commands'

variable {executed : List UUID} {commands commands' : AgentCommands} {operationID : OperationID}
  {row : AgentCommand} {now : Time} {nodeID : NodeID} {id workerID : UUID} {generation : ℤ}

lemma AgentCommand.Advances.refl (executed : List UUID) (row : AgentCommand) :
    row.Advances executed row := ⟨rfl, ⟨rfl, rfl, rfl⟩, .inl⟩

lemma QueueAdvances.refl (executed : List UUID) (commands : AgentCommands) :
    QueueAdvances executed commands commands :=
  Table.Rel.refl (fun _ => AgentCommand.Advances.refl executed) commands

lemma queueAdvances_update {p : OperationID → AgentCommand → Bool} {f : AgentCommand → AgentCommand}
    (hid : ∀ row, (f row).id = row.id)
    (hrequest : ∀ row, (f row).nodeID = row.nodeID ∧ (f row).commandType = row.commandType ∧
      (f row).payloadSHA256 = row.payloadSHA256)
    (hstate : ∀ op row, p op row → (f row).state.reported → row.state.reported ∨
      row.id ∈ executed) :
    QueueAdvances executed commands (commands.update p f) :=
  rel_update (fun _ => AgentCommand.Advances.refl executed)
    fun op row hp => ⟨hid row, hrequest row, hstate op row hp⟩

lemma leaseAgentCommand_advances {leaseTTL : Duration} {db : Db}
    (h : leaseAgentCommand operationID workerID now leaseTTL db commands = some commands') :
    QueueAdvances executed commands commands' := by
  obtain ⟨row, hrow, h⟩ := bind_eq_some_iff.mp h
  obtain ⟨node, -, -, ⟨⟩⟩ := of_bind_guarded h
  exact rel_put (fun _ => AgentCommand.Advances.refl executed) hrow
    ⟨rfl, ⟨rfl, rfl, rfl⟩, nofun⟩

lemma ackAgentCommand_advances {runTTL : Duration}
    (h : ackAgentCommand id nodeID workerID generation now runTTL commands = some commands') :
    QueueAdvances executed commands commands' := by
  obtain ⟨-, rfl⟩ := of_guarded h
  exact queueAdvances_update (fun _ => rfl) (fun _ => ⟨rfl, rfl, rfl⟩) fun _ _ _ => nofun

lemma clampAgentCommandRunLeases_advances {maxTTL : Duration} :
    QueueAdvances executed commands (clampAgentCommandRunLeases nodeID now maxTTL commands) :=
  queueAdvances_update (fun _ => rfl) (fun _ => ⟨rfl, rfl, rfl⟩) fun _ _ _ => .inl

lemma finishAgentCommand_advances {succeeded : Bool} {summary : CommandSummary}
    (hexecuted : id ∈ executed) : QueueAdvances executed commands
      (finishAgentCommand id nodeID workerID generation succeeded summary commands) := by
  refine queueAdvances_update (fun _ => rfl) (fun _ => ⟨rfl, rfl, rfl⟩) fun _ row hheld _ => .inr ?_
  simp only [AgentCommand.heldBy, Bool.and_eq_true,
    decide_eq_true_eq] at hheld
  rwa [hheld.1.1.1.1]

lemma expireNodeCommands_advances :
    QueueAdvances executed commands (expireNodeCommands nodeID commands) :=
  queueAdvances_update (fun _ => rfl) (fun _ => ⟨rfl, rfl, rfl⟩) fun _ _ _ => nofun

lemma expireQueuedCommand_advances :
    QueueAdvances executed commands (expireQueuedCommand operationID now commands) :=
  queueAdvances_update (fun _ => rfl) (fun _ => ⟨rfl, rfl, rfl⟩) fun _ _ _ => nofun

lemma get?_expireQueuedCommand_of_ended (hrow : commands.get? operationID = some row)
    (hended : row.state.ended) :
    (expireQueuedCommand operationID now commands).get? operationID = some row := by
  have hqueued : row.state ≠ .queued := by
    rintro h
    rw [h] at hended
    cases hended
  rw [expireQueuedCommand, get?_update, hrow]
  simp [hqueued]

section

variable {p : EnqueueAgentCommandParams} {activeGeneration : Option ℤ}

/-- A command that a step of a workflow sends is accepted by the checks, is bound to the generation
that is active, and is never made new. -/
structure EnqueueAgentCommandParams.Ordinary (p : EnqueueAgentCommandParams) : Prop where
  node : 0 < p.nodeID
  expires : p.now < p.expiresAt
  generation : p.expectedControllerGeneration = 0
  idempotent : p.requeueRetryableTerminal = false

lemma EnqueueAgentCommandParams.Ordinary.valid (hp : p.Ordinary) :
    ¬(p.nodeID ≤ 0 ∨ p.expectedControllerGeneration < 0 ∨ p.expiresAt ≤ p.now) := by
  rintro (hnode | hgeneration | hexpires)
  · exact absurd hp.node (Int.not_lt.mpr hnode)
  · rw [hp.generation] at hgeneration
    exact absurd hgeneration (Int.lt_irrefl 0)
  · exact absurd hp.expires (Int.not_lt.mpr hexpires)

lemma enqueueAgentCommand_new (hp : p.Ordinary) (hrow : commands.get? p.operationID = none) :
    enqueueAgentCommand p activeGeneration commands = match activeGeneration with
      | none => .error .noActiveController
      | some generation => .ok (commands.put p.operationID (p.row generation)) := by
  have hgeneration : p.generation activeGeneration = activeGeneration := by
    cases activeGeneration <;> simp [EnqueueAgentCommandParams.generation, hp.generation]
  rw [enqueueAgentCommand, if_neg hp.valid, hrow, hgeneration]
  cases activeGeneration <;> rfl

lemma enqueueAgentCommand_again (hp : p.Ordinary) (hrow : commands.get? p.operationID = some row) :
    enqueueAgentCommand p activeGeneration commands =
      if row.sameRequest p then .ok commands else .error .agentCommandConflict := by
  have hrequeues : (p.generation activeGeneration).any (row.requeues p) = false := by
    rw [any_eq_false]
    intro generation _
    simp [AgentCommand.requeues, hp.idempotent]
  rw [enqueueAgentCommand, if_neg hp.valid, hrow]
  simp [hrequeues, hp.generation]

end

end StControl.Controller
